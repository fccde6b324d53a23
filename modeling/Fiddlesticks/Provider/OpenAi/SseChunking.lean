import Fiddlesticks.Provider.OpenAi.Sse

/-!
# Network chunks

How a response body is cut into network chunks does not matter to its stream as long as no chunk
that is read cuts through a character. A chunk that does ends the stream with a decoding error.
-/

namespace Fiddlesticks.Provider.OpenAi

/-! ## Lines of a text in pieces -/

/-- A character ends a line or goes into the next one. -/
theorem completeLines_cons (c : Char) (text : List Char) :
    completeLines (c :: text) =
      if c = '\n' then ([c] :: (completeLines text).1, (completeLines text).2)
      else
        match (completeLines text).1 with
        | [] => ([], c :: (completeLines text).2)
        | line :: lines => ((c :: line) :: lines, (completeLines text).2) := rfl

/-- The lines of a text are those of its first part and those that the rest completes. -/
theorem completeLines_append (first rest : List Char) :
    completeLines (first ++ rest) =
      ((completeLines first).1 ++ (completeLines ((completeLines first).2 ++ rest)).1,
        (completeLines ((completeLines first).2 ++ rest)).2) := by
  induction first with
  | nil => rfl
  | cons c first ih =>
      rw [List.cons_append, completeLines_cons, completeLines_cons c first, ih]
      by_cases hc : c = '\n'
      · simp [hc]
      · cases hlines : (completeLines first).1 with
        | cons line lines => simp [hc]
        | nil =>
            simp only [hc, if_false, List.nil_append, List.cons_append]
            rw [completeLines_cons, if_neg hc]

/-- What is left in the buffer holds no complete line. -/
theorem completeLines_buffer (text : List Char) :
    completeLines (completeLines text).2 = ([], (completeLines text).2) := by
  induction text with
  | nil => rfl
  | cons c text ih =>
      rw [completeLines_cons]
      by_cases hc : c = '\n'
      · simpa [hc] using ih
      · cases hlines : (completeLines text).1 with
        | cons line lines => simpa [hc] using ih
        | nil => simp [hc, completeLines_cons, ih]

/-! ## Where the loop stops -/

section

variable (parse : String → Except String OpenAiApiStreamResponse)

/-- The loop stops at the line: it is `[DONE]` or not an event. -/
def LineStops (line : List Char) : Prop :=
  ∃ payload, linePayload line = some payload ∧
    (payload = "[DONE]" ∨ ∃ error, parse payload = .error error)

variable {parse}

/-- Reading goes on after a line unless it stops the stream. -/
theorem handleLine_reading_iff (parse : String → Except String OpenAiApiStreamResponse)
    (state : SseState) (line : List Char) :
    (∃ after, (handleLine parse state line).2 = .reading after) ↔
      ¬ LineStops parse line := by
  unfold handleLine LineStops
  cases hpayload : linePayload line with
  | none => simp
  | some payload =>
      by_cases hdone : payload = "[DONE]"
      · simp [hdone]
      · cases hparse : parse payload with
        | error error => simp [hdone, hparse]
        | ok parsed => simp [hdone, hparse]

/-- Lines are handled part by part as long as reading goes on. -/
theorem handleLines_append (state : SseState) (first rest : List (List Char)) :
    handleLines parse state (first ++ rest) =
      match handleLines parse state first with
      | (items, .reading after) =>
          (items ++ (handleLines parse after rest).1, (handleLines parse after rest).2)
      | stopped => stopped := by
  induction first generalizing state with
  | nil => rfl
  | cons line first ih =>
      rw [List.cons_append, handleLines, handleLines]
      rcases handleLine parse state line with ⟨items, after | after | error⟩
      · simp only [ih]
        rcases handleLines parse after first with ⟨more, last | last | error⟩ <;> simp
      · rfl
      · rfl

/-- The loop over lines goes on when it stops at none of them. -/
theorem handleLines_reading_iff (parse : String → Except String OpenAiApiStreamResponse)
    (state : SseState) (lines : List (List Char)) :
    (∃ after, (handleLines parse state lines).2 = .reading after) ↔
      ¬ ∃ line ∈ lines, LineStops parse line := by
  induction lines generalizing state with
  | nil => simp [handleLines]
  | cons line lines ih =>
      have hline := handleLine_reading_iff parse state line
      rw [handleLines]
      rcases hresult : handleLine parse state line with ⟨items, after | after | error⟩
      · have hgoes : ¬ LineStops parse line := hline.1 ⟨after, by rw [hresult]⟩
        simpa [hgoes] using ih after
      · have hstops : LineStops parse line := by
          by_contra hgoes
          obtain ⟨last, hlast⟩ := hline.2 hgoes
          simp [hresult] at hlast
        simp [hstops]
      · have hstops : LineStops parse line := by
          by_contra hgoes
          obtain ⟨last, hlast⟩ := hline.2 hgoes
          simp [hresult] at hlast
        simp [hstops]

/-- The error of a line comes from the parser. -/
theorem handleLine_failed {state : SseState} {line : List Char} {error : ProviderError}
    (h : (handleLine parse state line).2 = .failed error) :
    ∃ payload reason, parse payload = .error reason ∧ error = .transport reason := by
  unfold handleLine at h
  cases hpayload : linePayload line with
  | none => simp [hpayload] at h
  | some payload =>
      by_cases hdone : payload = "[DONE]"
      · simp [hpayload, hdone] at h
      · cases hparse : parse payload with
        | error reason =>
            refine ⟨payload, reason, hparse, ?_⟩
            simpa [hpayload, hdone, hparse, eq_comm] using h
        | ok parsed => simp [hpayload, hdone, hparse] at h

/-- A line that fails does so for a payload that cannot be parsed. -/
theorem handleLines_failed {state : SseState} {lines : List (List Char)} {error : ProviderError}
    (h : (handleLines parse state lines).2 = .failed error) :
    ∃ payload reason, parse payload = .error reason ∧ error = .transport reason := by
  induction lines generalizing state with
  | nil => cases h
  | cons line lines ih =>
      rw [handleLines] at h
      rcases hresult : handleLine parse state line with ⟨items, after | after | reason⟩
      · rw [hresult] at h
        exact ih h
      · rw [hresult] at h
        cases h
      · rw [hresult] at h
        exact handleLine_failed ((congrArg Prod.snd hresult).trans h)

/-! ## Chunks that cut through no character -/

variable (parse) in
/-- Every chunk that the loop reads is UTF-8 on its own: all chunks up to the one that completes
a line at which the loop stops. -/
def ReadableChunks : List Char → List (List UInt8) → Prop
  | _, [] => True
  | buffer, chunk :: chunks => ∃ text, Utf8.decode chunk = .ok text ∧
      ((∃ line ∈ (completeLines (buffer ++ text)).1, LineStops parse line) ∨
        ReadableChunks (completeLines (buffer ++ text)).2 chunks)

/-- A chunk is read with what is left of those before it. -/
theorem readChunks_cons {buffer : List Char} {state : SseState} {chunk : List UInt8}
    {text : List Char} (hchunk : Utf8.decode chunk = .ok text)
    (chunks : List (Except String (List UInt8))) :
    readChunks parse buffer state (.ok chunk :: chunks) =
      match handleLines parse state (completeLines (buffer ++ text)).1 with
      | (items, .reading after) =>
          (items ++ (readChunks parse (completeLines (buffer ++ text)).2 after chunks).1,
            (readChunks parse (completeLines (buffer ++ text)).2 after chunks).2)
      | (items, .finished after) => (items, .ok after)
      | (items, .failed error) => (items, .error error) := by
  rewrite [readChunks, hchunk]
  rfl

/-- Two chunks that decode are read as one. -/
theorem readChunks_merge {buffer : List Char} {state : SseState} {first second : List UInt8}
    {text more : List Char} (hfirst : Utf8.decode first = .ok text)
    (hsecond : Utf8.decode second = .ok more)
    (chunks : List (Except String (List UInt8))) :
    readChunks parse buffer state (.ok (first ++ second) :: chunks) =
      readChunks parse buffer state (.ok first :: .ok second :: chunks) := by
  have hboth : Utf8.decode (first ++ second) = .ok (text ++ more) :=
    (Utf8.decode_append hfirst _).2 ⟨more, hsecond, rfl⟩
  rw [readChunks_cons hboth, readChunks_cons hfirst, ← List.append_assoc,
    completeLines_append (buffer ++ text), handleLines_append]
  rcases handleLines parse state (completeLines (buffer ++ text)).1 with
    ⟨items, after | after | error⟩
  · simp only [readChunks_cons hsecond]
    rcases handleLines parse after
      (completeLines ((completeLines (buffer ++ text)).2 ++ more)).1 with
        ⟨rest, last | last | error⟩ <;> simp
  · rfl
  · rfl

/-- A chunk at which the loop stops hides what follows it. -/
theorem readChunks_stop {buffer : List Char} {state : SseState} {chunk rest : List UInt8}
    {text more : List Char} (hchunk : Utf8.decode chunk = .ok text)
    (hrest : Utf8.decode rest = .ok more)
    (hstop : ∃ line ∈ (completeLines (buffer ++ text)).1, LineStops parse line)
    (chunks : List (Except String (List UInt8))) :
    readChunks parse buffer state (.ok chunk :: chunks) =
      readChunks parse buffer state [.ok (chunk ++ rest)] := by
  have hboth : Utf8.decode (chunk ++ rest) = .ok (text ++ more) :=
    (Utf8.decode_append hchunk _).2 ⟨more, hrest, rfl⟩
  rw [readChunks_cons hboth, readChunks_cons hchunk, ← List.append_assoc,
    completeLines_append (buffer ++ text), handleLines_append]
  have hreading := handleLines_reading_iff parse state (completeLines (buffer ++ text)).1
  rcases hresult : handleLines parse state (completeLines (buffer ++ text)).1 with
    ⟨items, after | after | error⟩
  · exact absurd hstop (hreading.1 ⟨after, by rw [hresult]⟩)
  · rfl
  · rfl

/-- Readable chunks are read as one chunk. -/
theorem readChunks_readable {buffer : List Char} {state : SseState} {chunks : List (List UInt8)}
    {whole : List Char} (hbuffer : (completeLines buffer).1 = [])
    (hwhole : Utf8.decode chunks.flatten = .ok whole) (h : ReadableChunks parse buffer chunks) :
    readChunks parse buffer state (chunks.map .ok) =
      readChunks parse buffer state [.ok chunks.flatten] := by
  induction chunks generalizing buffer state whole with
  | nil =>
      rw [List.flatten_nil, readChunks_cons rfl, List.append_nil, hbuffer]
      rfl
  | cons chunk chunks ih =>
      obtain ⟨text, hchunk, hrest⟩ := h
      obtain ⟨more, hmore, -⟩ := (Utf8.decode_append hchunk _).1 hwhole
      rcases hrest with hstop | hrest
      · exact readChunks_stop hchunk hmore hstop _
      · have hempty : (completeLines (completeLines (buffer ++ text)).2).1 = [] := by
          rw [completeLines_buffer]
        rw [List.flatten_cons, readChunks_merge hchunk hmore, List.map_cons,
          readChunks_cons hchunk, readChunks_cons hchunk]
        simp only [ih hempty hmore hrest]

/-- A chunk that the loop reads and cannot decode ends the stream with that error. -/
theorem readChunks_unreadable {buffer : List Char} {state : SseState}
    {chunks : List (List UInt8)} (h : ¬ ReadableChunks parse buffer chunks) :
    ∃ error : Utf8.Utf8Error, (readChunks parse buffer state (chunks.map .ok)).2 =
      .error (.transport error.toString) := by
  induction chunks generalizing buffer state with
  | nil => exact absurd trivial h
  | cons chunk chunks ih =>
      cases hchunk : Utf8.decode chunk with
      | error error =>
          refine ⟨error, ?_⟩
          simp only [List.map_cons, readChunks, hchunk]
      | ok text =>
          simp only [ReadableChunks, hchunk, Except.ok.injEq, exists_eq_left', not_or] at h
          obtain ⟨hgoes, hrest⟩ := h
          obtain ⟨after, hafter⟩ := (handleLines_reading_iff parse state _).2 hgoes
          rw [List.map_cons, readChunks_cons hchunk]
          rcases hresult : handleLines parse state (completeLines (buffer ++ text)).1 with
            ⟨items, progress⟩
          rw [hresult] at hafter
          subst hafter
          exact ih hrest

/-- One chunk that decodes can only fail in the parser. -/
theorem readChunks_single {buffer : List Char} {state : SseState} {chunk : List UInt8}
    {text : List Char} {error : ProviderError} (hchunk : Utf8.decode chunk = .ok text)
    (h : (readChunks parse buffer state [.ok chunk]).2 = .error error) :
    ∃ payload reason, parse payload = .error reason ∧ error = .transport reason := by
  rw [readChunks_cons hchunk] at h
  rcases hresult : handleLines parse state (completeLines (buffer ++ text)).1 with
    ⟨items, after | after | reason⟩
  · simp [hresult, readChunks] at h
  · simp [hresult] at h
  · rw [hresult] at h
    cases h
    exact handleLines_failed (congrArg Prod.snd hresult)

/-! ## Every way of cutting a body -/

/-- The stream ends with an error when the loop over the chunks does. -/
theorem sseStream_error (fallbackModel : String) {chunks : List (Except String (List UInt8))}
    {error : ProviderError} :
    (sseStream parse fallbackModel chunks).2 = .error error ↔
      (readChunks parse [] {} chunks).2 = .error error := by
  unfold sseStream
  rcases readChunks parse [] {} chunks with ⟨items, reason | state⟩ <;> simp

/-- A body in readable chunks streams as the body in one chunk. -/
theorem sseStream_readable (fallbackModel : String) {chunks : List (List UInt8)}
    {text : List Char} (hbody : Utf8.decode chunks.flatten = .ok text)
    (hreadable : ReadableChunks parse [] chunks) :
    sseStream parse fallbackModel (chunks.map .ok) =
      sseStream parse fallbackModel [.ok chunks.flatten] := by
  unfold sseStream
  rw [readChunks_readable rfl hbody hreadable]

/-- A body cut into chunks streams as the body in one chunk exactly when each chunk that the loop
reads is UTF-8 on its own, and then as any other such cut of it. The errors of the JSON parser are
never those of the decoder. -/
theorem sseStream_chunking_iff (fallbackModel : String) (chunks : List (List UInt8))
    (hbody : ∃ text, Utf8.decode chunks.flatten = .ok text)
    (hparse : ∀ payload, ∀ error : Utf8.Utf8Error, parse payload ≠ .error error.toString) :
    (sseStream parse fallbackModel (chunks.map .ok) =
        sseStream parse fallbackModel [.ok chunks.flatten] ↔
      ReadableChunks parse [] chunks) ∧
    ∀ other : List (List UInt8), other.flatten = chunks.flatten →
      ReadableChunks parse [] chunks → ReadableChunks parse [] other →
      sseStream parse fallbackModel (chunks.map .ok) =
        sseStream parse fallbackModel (other.map .ok) := by
  obtain ⟨text, hbody⟩ := hbody
  refine ⟨⟨fun hsame => ?_, sseStream_readable fallbackModel hbody⟩, ?_⟩
  · by_contra hunreadable
    obtain ⟨error, herror⟩ := readChunks_unreadable hunreadable
    rw [← sseStream_error fallbackModel, hsame, sseStream_error] at herror
    obtain ⟨payload, reason, hreason, hmessage⟩ := readChunks_single hbody herror
    cases hmessage
    exact hparse payload error hreason
  · intro other hcut hchunks hother
    rw [sseStream_readable fallbackModel hbody hchunks,
      sseStream_readable fallbackModel (hcut ▸ hbody) hother, hcut]

/-- An event without choices, cut inside `data:`. -/
theorem sseStream_cut_in_field :
    sseStream (fun _ => .ok ⟨none, []⟩) "gpt-4o-mini"
        [.ok [0x64, 0x61], .ok [0x74, 0x61, 0x3A, 0x20, 0x7B, 0x22, 0x63, 0x68, 0x6F, 0x69, 0x63,
          0x65, 0x73, 0x22, 0x3A, 0x5B, 0x5D, 0x7D, 0x0A]] =
      sseStream (fun _ => .ok ⟨none, []⟩) "gpt-4o-mini"
        [.ok [0x64, 0x61, 0x74, 0x61, 0x3A, 0x20, 0x7B, 0x22, 0x63, 0x68, 0x6F, 0x69, 0x63, 0x65,
          0x73, 0x22, 0x3A, 0x5B, 0x5D, 0x7D, 0x0A]] :=
  (sseStream_chunking_iff "gpt-4o-mini"
    [[0x64, 0x61], [0x74, 0x61, 0x3A, 0x20, 0x7B, 0x22, 0x63, 0x68, 0x6F, 0x69, 0x63, 0x65, 0x73,
      0x22, 0x3A, 0x5B, 0x5D, 0x7D, 0x0A]] ⟨_, rfl⟩ (fun _ _ => by simp)).1.2
    ⟨_, rfl, .inr ⟨_, rfl, .inr trivial⟩⟩

/-- A comment line with an accented letter, cut inside that letter, fails to stream. -/
theorem sseStream_cut_in_character :
    Utf8.decode [0x3A, 0xC3, 0xA9, 0x0A] = .ok [':', 'é', '\n'] ∧
    (sseStream (fun _ => .ok ⟨none, []⟩) "gpt-4o-mini" [.ok [0x3A, 0xC3], .ok [0xA9, 0x0A]]).2 =
      .error (.transport "incomplete utf-8 byte sequence from index 1") ∧
    (sseStream (fun _ => .ok ⟨none, []⟩) "gpt-4o-mini" [.ok [0x3A, 0xC3, 0xA9, 0x0A]]).2 =
      .ok () :=
  ⟨rfl, rfl, rfl⟩

end

end Fiddlesticks.Provider.OpenAi

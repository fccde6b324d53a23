import Fiddlesticks.Provider.OpenAi.StreamAssembly

/-!
# Truncated bodies

A body that is cut off before its end is streamed as a complete response of what arrived, unless a
chunk of it is no text of its own (`truncation_reported_iff`).
-/

namespace Fiddlesticks.Provider.OpenAi

variable {parse : String → Except String OpenAiApiStreamResponse}

/-! ## Cut bodies -/

/-- The bytes are the start of a body up to before its end: completed where the cut is inside a
character, they are a text whose lines carry events, neither `[DONE]` nor a finish reason among
them. -/
structure CutShort (parse : String → Except String OpenAiApiStreamResponse)
    (received missing : List UInt8) (text : List Char) (events : List OpenAiApiStreamResponse) :
    Prop where
  decodes : Utf8.decode (received ++ missing) = .ok text
  carries : CarryEvents parse (completeLines text).1 events
  unfinished : ∀ event ∈ events, ∀ choice ∈ event.choices, choice.finishReason = none

/-- The stream tells its reader that it did not come to an end. -/
structure ReportsTruncation (stream : List OpenAiStreamChunk × Except ProviderError Unit) :
    Prop where
  failed : ∃ error, stream.2 = .error error
  deltas : ∀ item ∈ stream.1, item.isDelta

/-- The loop stops at none of the lines that carry events. -/
theorem CarryEvents.goes_on {lines : List (List Char)} {events : List OpenAiApiStreamResponse}
    (h : CarryEvents parse lines events) : ¬ ∃ line ∈ lines, LineStops parse line := by
  rw [← handleLines_reading_iff parse {}, handleLines_events h]
  exact ⟨_, rfl⟩

/-- The first of the lines that carry events carry the first of these. -/
theorem CarryEvents.init {first rest : List (List Char)} {events : List OpenAiApiStreamResponse}
    (h : CarryEvents parse (first ++ rest) events) :
    ∃ arrived, arrived <+: events ∧ CarryEvents parse first arrived := by
  obtain ⟨hdone, hparsed⟩ := h
  rw [List.filterMap_append] at hdone hparsed
  rw [List.map_append] at hparsed
  obtain ⟨arrived, others, rfl, hfirst, -⟩ := List.map_eq_append_iff.1 hparsed.symm
  exact ⟨arrived, List.prefix_append _ _, fun hmem => hdone (List.mem_append_left _ hmem),
    hfirst.symm⟩

/-- Chunks without a line at which the loop stops are readable when each is a text of its own. -/
theorem readableChunks_iff {buffer text : List Char} {chunks : List (List UInt8)}
    {missing : List UInt8} (htext : Utf8.decode (chunks.flatten ++ missing) = .ok text)
    (hgoes : ¬ ∃ line ∈ (completeLines (buffer ++ text)).1, LineStops parse line) :
    ReadableChunks parse buffer chunks ↔
      ∀ chunk ∈ chunks, ∃ own, Utf8.decode chunk = .ok own := by
  induction chunks generalizing buffer text with
  | nil => simp [ReadableChunks]
  | cons chunk chunks ih =>
      rw [List.flatten_cons, List.append_assoc] at htext
      -- A chunk that is a text leaves its open line in the buffer, and the rest of the text after
      -- it.
      have hrest : ∀ own, Utf8.decode chunk = .ok own →
          (¬ ∃ line ∈ (completeLines (buffer ++ own)).1, LineStops parse line) ∧
          (ReadableChunks parse (completeLines (buffer ++ own)).2 chunks ↔
            ∀ other ∈ chunks, ∃ text, Utf8.decode other = .ok text) := by
        intro own hown
        obtain ⟨more, hmore, rfl⟩ := (Utf8.decode_append hown text).1 htext
        rw [← List.append_assoc, completeLines_append (buffer ++ own)] at hgoes
        simp only [List.mem_append, or_and_right, exists_or, not_or] at hgoes
        exact ⟨hgoes.1, ih hmore hgoes.2⟩
      rw [List.forall_mem_cons]
      constructor
      · rintro ⟨own, hown, hstops | hreadable⟩
        · exact absurd hstops (hrest own hown).1
        · exact ⟨⟨own, hown⟩, (hrest own hown).2.1 hreadable⟩
      · intro h
        obtain ⟨⟨own, hown⟩, hothers⟩ := h
        exact ⟨own, hown, .inr ((hrest own hown).2.2 hothers)⟩

/-! ## What a cut body streams -/

section

variable {chunks : List (List UInt8)} {missing : List UInt8} {text : List Char}
  {events : List OpenAiApiStreamResponse}

/-- The chunks can be read when each of them can be decoded. -/
theorem CutShort.readable_iff (h : CutShort parse chunks.flatten missing text events) :
    ReadableChunks parse [] chunks ↔ ∀ chunk ∈ chunks, ∃ own, Utf8.decode chunk = .ok own :=
  readableChunks_iff h.decodes h.carries.goes_on

/-- Events without a finish reason leave the one that there is. -/
theorem acceptAll_unfinished {events : List OpenAiApiStreamResponse}
    (h : ∀ event ∈ events, ∀ choice ∈ event.choices, choice.finishReason = none)
    (state : SseState) : (acceptAll state events).2.finishReason = state.finishReason := by
  induction events generalizing state with
  | nil => rfl
  | cons event events ih =>
      obtain ⟨hevent, hevents⟩ := List.forall_mem_cons.1 h
      rw [acceptAll, ih hevents, SseState.accept]
      cases hchoices : event.choices with
      | nil => rfl
      | cons choice choices =>
          rw [hchoices] at hevent
          simp [hevent choice List.mem_cons_self]

/-- A text of which the stream is read to its end is streamed as a complete response. -/
theorem sseStream_text (fallbackModel : String) {body : List UInt8}
    (htext : Utf8.decode body = .ok text)
    (hcarries : CarryEvents parse (completeLines text).1 events)
    (hunfinished : ∀ event ∈ events, ∀ choice ∈ event.choices, choice.finishReason = none) :
    ∃ response : OpenAiResponse,
      sseStream parse fallbackModel [.ok body] =
        (deltas [] (pieces events) ++
          [.messageComplete response.message, .responseComplete response], .ok ()) ∧
      AssembledMessage (fragments events) (deltas [] (pieces events)) response.message ∧
      response.finishReason = .other := by
  have hstart : SseState.After {} [] := ⟨rfl, rfl⟩
  have hitems := (hstart.acceptAll events).1
  refine ⟨(acceptAll {} events).2.response fallbackModel, ?_,
    response_assembled fallbackModel events, acceptAll_unfinished hunfinished {}⟩
  rw [sseStream, readChunks_cons htext, List.nil_append, handleLines_events hcarries, hitems]
  simp only [readChunks, List.append_nil]
  rfl

/-- A cut body whose chunks are texts is streamed as a complete response of the events that
arrived. -/
theorem CutShort.completes (h : CutShort parse chunks.flatten missing text events)
    (htexts : ∀ chunk ∈ chunks, ∃ own, Utf8.decode chunk = .ok own) (fallbackModel : String) :
    ∃ arrived, arrived <+: events ∧ ∃ response : OpenAiResponse,
      sseStream parse fallbackModel (chunks.map .ok) =
        (deltas [] (pieces arrived) ++
          [.messageComplete response.message, .responseComplete response], .ok ()) ∧
      AssembledMessage (fragments arrived) (deltas [] (pieces arrived)) response.message ∧
      response.finishReason = .other := by
  obtain ⟨received, hreceived⟩ := Utf8.decode_flatten htexts
  obtain ⟨more, -, rfl⟩ := (Utf8.decode_append hreceived text).1 h.decodes
  have hcarries := h.carries
  rw [completeLines_append] at hcarries
  obtain ⟨arrived, harrived, hfirst⟩ := hcarries.init
  have hunfinished : ∀ event ∈ arrived, ∀ choice ∈ event.choices, choice.finishReason = none :=
    fun event hevent => h.unfinished event (harrived.subset hevent)
  refine ⟨arrived, harrived, ?_⟩
  rw [sseStream_readable fallbackModel hreceived (h.readable_iff.2 htexts)]
  exact sseStream_text fallbackModel hreceived hfirst hunfinished

/-- A cut body with a chunk that is no text ends in an error. -/
theorem CutShort.fails (h : CutShort parse chunks.flatten missing text events)
    {chunk : List UInt8} (hmem : chunk ∈ chunks) {error : Utf8.Utf8Error}
    (hchunk : Utf8.decode chunk = .error error) (fallbackModel : String) :
    ReportsTruncation (sseStream parse fallbackModel (chunks.map .ok)) := by
  have hunreadable : ¬ ReadableChunks parse [] chunks := by
    intro hreadable
    obtain ⟨own, hown⟩ := h.readable_iff.1 hreadable chunk hmem
    rw [hchunk] at hown
    cases hown
  obtain ⟨failure, hfailure⟩ : ∃ error : Utf8.Utf8Error,
      (readChunks parse [] {} (chunks.map .ok)).2 = .error (.transport error.toString) :=
    readChunks_unreadable hunreadable
  -- What was streamed before the failure are deltas only: a message comes at the end of the stream.
  obtain ⟨after, hassembles, -⟩ := readChunks_assembles parse [] {} (chunks.map .ok)
  refine ⟨⟨_, (sseStream_error fallbackModel).2 hfailure⟩, ?_⟩
  rw [sseStream]
  rcases hresult : readChunks parse [] {} (chunks.map .ok) with ⟨items, error | state⟩
  · rw [hresult] at hassembles
    exact hassembles.deltas
  · rw [hresult] at hfailure
    cases hfailure

/-- A cut body is reported as one exactly when one of its chunks is no text of its own, as where
the cut is inside a character. -/
theorem truncation_reported_iff (fallbackModel : String)
    (h : CutShort parse chunks.flatten missing text events) :
    ReportsTruncation (sseStream parse fallbackModel (chunks.map .ok)) ↔
      ∃ chunk ∈ chunks, ∃ error, Utf8.decode chunk = .error error := by
  constructor
  · rintro ⟨⟨failure, hfailure⟩, -⟩
    by_contra hnone
    have htexts : ∀ chunk ∈ chunks, ∃ own, Utf8.decode chunk = .ok own := by
      intro chunk hmem
      cases hchunk : Utf8.decode chunk with
      | error error => exact absurd ⟨chunk, hmem, error, hchunk⟩ hnone
      | ok own => exact ⟨own, rfl⟩
    obtain ⟨arrived, -, response, hstream, -⟩ := h.completes htexts fallbackModel
    rw [hstream] at hfailure
    cases hfailure
  · rintro ⟨chunk, hmem, error, hchunk⟩
    exact h.fails hmem hchunk fallbackModel

end

/-- The first lines of a body with interleaved calls carry its first event. -/
theorem opening_carries : CarryEvents parseCalls
    (completeLines (interleavedLines.take 1).flatten.flatten).1 [openingEvent] := by
  have hpayloads : (completeLines (interleavedLines.take 1).flatten.flatten).1.filterMap
      linePayload = [openingPayload] := by
    decide +kernel
  refine ⟨?_, ?_⟩
  · rw [hpayloads]
    decide +kernel
  · simp [hpayloads, parseCalls]

/-- That body, cut inside a letter of a comment after the first deltas. -/
def cutInCharacter : List (List UInt8) :=
  interleavedChunks.take 1 ++ [[0x3A, 0xC3]]

/-- A body that is cut within a character of a call's arguments, after it has said hi, is reported
as truncated. -/
theorem truncation_reported_iff_in_character :
    ReportsTruncation (sseStream parseCalls "gpt-4o-mini" (cutInCharacter.map .ok)) ∧
      (sseStream parseCalls "gpt-4o-mini" (cutInCharacter.map .ok)).1 =
        [.textDelta "Hi", .toolCallDelta ⟨"tool_call_1", "find", "[1,"⟩] := by
  have hlines : (completeLines ((interleavedLines.take 1).flatten.flatten ++ [':', 'é'])).1 =
      (completeLines (interleavedLines.take 1).flatten.flatten).1 := by
    decide +kernel
  have hcut : CutShort parseCalls cutInCharacter.flatten [0xA9]
      ((interleavedLines.take 1).flatten.flatten ++ [':', 'é']) [openingEvent] := by
    refine ⟨by decide +kernel, ?_, by simp [openingEvent]⟩
    rw [hlines]
    exact opening_carries
  have herror : Utf8.decode [0x3A, 0xC3] = .error ⟨1, none⟩ := by decide
  have hlast : [0x3A, 0xC3] ∈ cutInCharacter := List.mem_append_right _ (List.mem_singleton_self _)
  exact ⟨(truncation_reported_iff "gpt-4o-mini" hcut).2 ⟨_, hlast, _, herror⟩, by decide +kernel⟩

/-- A body that is cut after the first arguments of a call streams the call with these. -/
theorem truncated_call_completes :
    let received := interleavedChunks.take 1
    let message : OpenAiAssistantMessage := ⟨"Hi", [⟨"tool_call_1", "find", "[1,"⟩]⟩
    (∃ text, CutShort parseCalls received.flatten [] text [openingEvent]) ∧
      sseStream parseCalls "gpt-4o-mini" (received.map .ok) =
        ([.textDelta "Hi", .toolCallDelta ⟨"tool_call_1", "find", "[1,"⟩,
          .messageComplete message,
          .responseComplete ⟨"gpt-4o-mini", message, .other, ⟨0, 0, 0⟩⟩], .ok ()) ∧
      ¬ ReportsTruncation (sseStream parseCalls "gpt-4o-mini" (received.map .ok)) := by
  intro received message
  have hcut : CutShort parseCalls received.flatten [] (interleavedLines.take 1).flatten.flatten
      [openingEvent] := by
    refine ⟨by decide +kernel, opening_carries, ?_⟩
    simp [openingEvent]
  have hstream : sseStream parseCalls "gpt-4o-mini" (received.map .ok) =
      ([.textDelta "Hi", .toolCallDelta ⟨"tool_call_1", "find", "[1,"⟩,
        .messageComplete message,
        .responseComplete ⟨"gpt-4o-mini", message, .other, ⟨0, 0, 0⟩⟩], .ok ()) := by
    decide +kernel
  refine ⟨⟨_, hcut⟩, hstream, ?_⟩
  intro h
  obtain ⟨⟨error, herror⟩, -⟩ := h
  rw [hstream] at herror
  cases herror

end Fiddlesticks.Provider.OpenAi

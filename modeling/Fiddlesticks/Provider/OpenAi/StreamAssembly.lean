import Fiddlesticks.Provider.OpenAi.ToolAssembly

/-!
# The assembly of a streamed response

What the HTTP transport makes of a body that comes line by line: the deltas of its events in the
order of the source, each tool call as the fragments of its index so far, and a response with the
text of all deltas and one call for each index (`sse_assembly_faithful`).
-/

namespace Fiddlesticks.Provider.OpenAi

/-! ## The source -/

/-- A piece of text or of a tool call in an event. -/
inductive Piece where
  | text (delta : String)
  | toolCall (fragment : OpenAiApiDeltaToolCall)

/-- The text of an event, unless it is empty. -/
def contentPieces (content : Option String) : List Piece :=
  if content.getD "" = "" then [] else [.text (content.getD "")]

/-- The pieces of events, in order. Only the first choice of an event counts. -/
def pieces (events : List OpenAiApiStreamResponse) : List Piece :=
  events.flatMap fun event => match event.choices with
    | [] => []
    | choice :: _ =>
        contentPieces choice.delta.content ++ (choice.delta.toolCalls.getD []).map .toolCall

/-- The text of a piece. -/
def Piece.textOf : Piece → Option String
  | .text delta => some delta
  | .toolCall _ => none

/-- The fragment of a piece. -/
def Piece.fragmentOf : Piece → Option OpenAiApiDeltaToolCall
  | .text _ => none
  | .toolCall fragment => some fragment

/-- The text of all pieces. -/
def textAfter (events : List OpenAiApiStreamResponse) : String :=
  String.join ((pieces events).filterMap (·.textOf))

/-- The chunks of pieces: texts as they are, and for a fragment its call as the fragments up to it
make it. -/
def deltas (earlier : List OpenAiApiDeltaToolCall) : List Piece → List OpenAiStreamChunk
  | [] => []
  | .text delta :: pieces => .textDelta delta :: deltas earlier pieces
  | .toolCall fragment :: pieces =>
      .toolCallDelta (callAfter (earlier ++ [fragment]) fragment.callIndex) ::
        deltas (earlier ++ [fragment]) pieces

/-- The text of a chunk. -/
def OpenAiStreamChunk.text : OpenAiStreamChunk → Option String
  | textDelta delta => some delta
  | _ => none

/-- The pieces of events are those of each part. -/
theorem pieces_append (first rest : List OpenAiApiStreamResponse) :
    pieces (first ++ rest) = pieces first ++ pieces rest :=
  List.flatMap_append

/-- The fragments among the pieces of a choice are its calls. -/
theorem contentPieces_fragments (content : Option String)
    (calls : List OpenAiApiDeltaToolCall) :
    (contentPieces content ++ calls.map Piece.toolCall).filterMap (·.fragmentOf) = calls := by
  have hcalls : (calls.map Piece.toolCall).filterMap (·.fragmentOf) = calls := by
    rw [List.filterMap_map]
    exact List.filterMap_some
  rw [List.filterMap_append, hcalls, contentPieces]
  split <;> rfl

/-- Empty text adds nothing to the text. -/
theorem contentPieces_text (content : Option String) (calls : List OpenAiApiDeltaToolCall) :
    String.join ((contentPieces content ++ calls.map Piece.toolCall).filterMap (·.textOf)) =
      content.getD "" := by
  have hcalls : (calls.map Piece.toolCall).filterMap (·.textOf) = [] := by
    rw [List.filterMap_map]
    exact List.filterMap_eq_nil_iff.2 fun _ _ => rfl
  rw [List.filterMap_append, hcalls, List.append_nil, contentPieces]
  split
  · rename_i hempty
    rw [hempty]
    rfl
  · exact String.empty_append

/-- The fragments of the pieces are those of the events. -/
theorem pieces_fragments (events : List OpenAiApiStreamResponse) :
    (pieces events).filterMap (·.fragmentOf) = fragments events := by
  induction events with
  | nil => rfl
  | cons event events ih =>
      rw [← List.singleton_append, pieces_append, List.filterMap_append, ih, fragments_append]
      congr 1
      rw [pieces, fragments, List.flatMap_singleton, List.flatMap_singleton]
      cases event.choices with
      | nil => rfl
      | cons choice choices => exact contentPieces_fragments _ _

/-- Deltas follow those of the pieces before them. -/
theorem deltas_append (earlier : List OpenAiApiDeltaToolCall) (first rest : List Piece) :
    deltas earlier (first ++ rest) =
      deltas earlier first ++ deltas (earlier ++ first.filterMap (·.fragmentOf)) rest := by
  induction first generalizing earlier with
  | nil => rw [List.filterMap_nil, List.append_nil]; rfl
  | cons piece first ih =>
      cases piece with
      | text delta => exact congrArg (_ :: ·) (ih earlier)
      | toolCall fragment =>
          rw [List.cons_append, deltas, ih, List.append_assoc]
          rfl

/-- The text of the chunks is that of the pieces. -/
theorem deltas_text (earlier : List OpenAiApiDeltaToolCall) (pieces : List Piece) :
    (deltas earlier pieces).filterMap (·.text) = pieces.filterMap (·.textOf) := by
  induction pieces generalizing earlier with
  | nil => rfl
  | cons piece pieces ih =>
      cases piece with
      | text delta => exact congrArg (delta :: ·) (ih earlier)
      | toolCall fragment => exact ih _

/-- The chunks of pieces are deltas. -/
theorem deltas_isDelta (earlier : List OpenAiApiDeltaToolCall) (pieces : List Piece) :
    ∀ item ∈ deltas earlier pieces, item.isDelta := by
  induction pieces generalizing earlier with
  | nil => nofun
  | cons piece pieces ih =>
      cases piece with
      | text delta => exact List.forall_mem_cons.2 ⟨rfl, ih earlier⟩
      | toolCall fragment => exact List.forall_mem_cons.2 ⟨rfl, ih _⟩

/-- The snapshots of fragments are the chunks of their pieces. -/
theorem assembleCalls_deltas (earlier rest : List OpenAiApiDeltaToolCall) :
    (assembleCalls rest (assembleCalls earlier ∅).2).1.map .toolCallDelta =
        deltas earlier (rest.map .toolCall) ∧
      (assembleCalls rest (assembleCalls earlier ∅).2).2 =
        (assembleCalls (earlier ++ rest) ∅).2 := by
  induction rest generalizing earlier with
  | nil => simp [assembleCalls, deltas]
  | cons fragment rest ih =>
      obtain ⟨hsnapshots, hcalls⟩ := ih (earlier ++ [fragment])
      rw [assembleCalls_snoc] at hsnapshots hcalls
      refine ⟨?_, ?_⟩
      · rw [assembleCalls, List.map_cons, List.map_cons, deltas, ← hsnapshots,
          (assembled earlier).entry]
        rfl
      · rw [List.append_assoc] at hcalls
        exact hcalls

/-! ## The events of a body -/

/-- The chunks that events yield and the state after them. -/
def acceptAll : SseState → List OpenAiApiStreamResponse → List OpenAiStreamChunk × SseState
  | state, [] => ([], state)
  | state, event :: events =>
      let (items, state) := state.accept event
      let (more, state) := acceptAll state events
      (items ++ more, state)

/-- The state is the one that events lead to. -/
structure SseState.After (state : SseState) (events : List OpenAiApiStreamResponse) : Prop where
  content_eq : state.content = textAfter events
  calls_eq : state.toolCalls = (assembleCalls (fragments events) ∅).2

/-- An event yields the chunks of its pieces. -/
theorem SseState.After.accept {state : SseState} {earlier : List OpenAiApiStreamResponse}
    (h : state.After earlier) (event : OpenAiApiStreamResponse) :
    (state.accept event).1 = deltas (fragments earlier) (pieces [event]) ∧
      (state.accept event).2.After (earlier ++ [event]) := by
  have hfragments := pieces_fragments [event]
  unfold SseState.accept
  -- Only the first choice of an event is looked at.
  cases hchoices : event.choices with
  | nil =>
      have hpieces : pieces [event] = [] := by simp [pieces, hchoices]
      simp only [hpieces, List.filterMap_nil] at hfragments ⊢
      refine ⟨rfl, ?_, ?_⟩
      · rw [textAfter, pieces_append, hpieces, List.append_nil]
        exact h.content_eq
      · rw [fragments_append, ← hfragments, List.append_nil]
        exact h.calls_eq
  | cons choice choices =>
      have hpieces : pieces [event] = contentPieces choice.delta.content ++
          (choice.delta.toolCalls.getD []).map .toolCall := by
        simp [pieces, hchoices]
      have hevent : fragments [event] = choice.delta.toolCalls.getD [] := by
        rw [← hfragments, hpieces, contentPieces_fragments]
      obtain ⟨hsnapshots, hcalls⟩ :=
        assembleCalls_deltas (fragments earlier) (choice.delta.toolCalls.getD [])
      rw [← h.calls_eq] at hsnapshots hcalls
      refine ⟨?_, ?_, ?_⟩
      · show (if choice.delta.content.getD "" = "" then [] else [_]) ++ _ = _
        rw [hpieces, contentPieces, hsnapshots]
        split <;> rfl
      · rw [textAfter, pieces_append, hpieces, List.filterMap_append, String.join_append,
          contentPieces_text]
        exact congrArg (· ++ _) h.content_eq
      · rw [fragments_append, hevent]
        exact hcalls

/-- Events yield the chunks of their pieces. -/
theorem SseState.After.acceptAll {state : SseState} {earlier : List OpenAiApiStreamResponse}
    (h : state.After earlier) (events : List OpenAiApiStreamResponse) :
    (acceptAll state events).1 = deltas (fragments earlier) (pieces events) ∧
      (acceptAll state events).2.After (earlier ++ events) := by
  induction events generalizing state earlier with
  | nil =>
      rw [List.append_nil]
      exact ⟨rfl, h⟩
  | cons event events ih =>
      obtain ⟨hitems, hstate⟩ := h.accept event
      obtain ⟨hmore, hfinal⟩ := ih hstate
      refine ⟨?_, ?_⟩
      · rw [← List.singleton_append (l := events), pieces_append, deltas_append, pieces_fragments,
          ← fragments_append, ← hitems, ← hmore]
        rfl
      · rw [List.append_assoc] at hfinal
        exact hfinal

/-! ## Lines -/

/-- The line ends in its only newline. -/
def IsLine (line : List Char) : Prop :=
  ∃ text, '\n' ∉ text ∧ line = text ++ ['\n']

/-- The chunk is made of these lines. -/
structure LineChunk (chunk : List UInt8) (lines : List (List Char)) : Prop where
  decodes : Utf8.decode chunk = .ok lines.flatten
  lines : ∀ line ∈ lines, IsLine line

/-- The lines carry these events, and not the end of the stream. -/
structure CarryEvents (parse : String → Except String OpenAiApiStreamResponse)
    (lines : List (List Char)) (events : List OpenAiApiStreamResponse) : Prop where
  not_done : "[DONE]" ∉ lines.filterMap linePayload
  parsed : (lines.filterMap linePayload).map parse = events.map .ok

/-- Lines are complete and leave nothing in the buffer. -/
theorem completeLines_flatten {lines : List (List Char)} (h : ∀ line ∈ lines, IsLine line) :
    completeLines lines.flatten = (lines, []) := by
  induction lines with
  | nil => rfl
  | cons line lines ih =>
      obtain ⟨text, htext, rfl⟩ := h line List.mem_cons_self
      have hrest := ih fun other hmem => h other (List.mem_cons_of_mem _ hmem)
      rw [List.flatten_cons, List.append_assoc, List.singleton_append]
      clear h ih
      induction text with
      | nil =>
          rw [List.nil_append, completeLines_cons, if_pos rfl, hrest]
          rfl
      | cons c text ih =>
          obtain ⟨hc, htext⟩ := List.ne_and_not_mem_of_not_mem_cons htext
          rw [List.cons_append, completeLines_cons, if_neg hc.symm, ih htext]
          rfl

section

variable {parse : String → Except String OpenAiApiStreamResponse}

/-- Lines that carry events are read as these. -/
theorem handleLines_events {lines : List (List Char)} {events : List OpenAiApiStreamResponse}
    (h : CarryEvents parse lines events) (state : SseState) :
    handleLines parse state lines =
      ((acceptAll state events).1, .reading (acceptAll state events).2) := by
  induction lines generalizing events state with
  | nil =>
      obtain rfl : events = [] := List.map_eq_nil_iff.1 h.parsed.symm
      rfl
  | cons line lines ih =>
      obtain ⟨hdone, hparsed⟩ := h
      rw [handleLines, handleLine]
      cases hpayload : linePayload line with
      | none =>
          rw [List.filterMap_cons_none hpayload] at hdone hparsed
          simp only [ih ⟨hdone, hparsed⟩, List.nil_append]
      | some payload =>
          rw [List.filterMap_cons_some hpayload] at hdone hparsed
          obtain ⟨hpayloadDone, hdone⟩ := List.ne_and_not_mem_of_not_mem_cons hdone
          cases events with
          | nil => cases hparsed
          | cons event events =>
              obtain ⟨hevent, hparsed⟩ := List.cons.inj hparsed
              simp only [hpayloadDone.symm, if_false, hevent, ih ⟨hdone, hparsed⟩]
              rfl

/-- Chunks made of lines are read line by line. -/
theorem readChunks_lines {chunks : List (List UInt8)} {lines : List (List (List Char))}
    (h : List.Forall₂ LineChunk chunks lines) (state : SseState)
    (more : List (Except String (List UInt8))) :
    readChunks parse [] state (chunks.map .ok ++ more) =
      match handleLines parse state lines.flatten with
      | (items, .reading after) =>
          (items ++ (readChunks parse [] after more).1, (readChunks parse [] after more).2)
      | (items, .finished after) => (items, .ok after)
      | (items, .failed error) => (items, .error error) := by
  induction h generalizing state with
  | nil => rfl
  | @cons chunk chunkLines chunks lines hchunk _ ih =>
      rw [List.map_cons, List.cons_append, readChunks_cons hchunk.decodes, List.nil_append,
        completeLines_flatten hchunk.lines, List.flatten_cons, handleLines_append]
      -- The buffer is empty again after the chunk, and the lines may have ended the stream.
      rcases handleLines parse state chunkLines with ⟨items, after | after | error⟩
      · simp only [ih after]
        rcases handleLines parse after lines.flatten with ⟨rest, last | last | error⟩ <;> simp
      · rfl
      · rfl

section

variable {chunks : List (List UInt8)} {lines : List (List (List Char))}
  {before after : List (List Char)} {last : List Char} {events : List OpenAiApiStreamResponse}

/-- The body is read up to its first `[DONE]`. -/
theorem readChunks_done (hchunks : List.Forall₂ LineChunk chunks lines)
    (hbody : lines.flatten = before ++ last :: after) (hevents : CarryEvents parse before events)
    (hlast : linePayload last = some "[DONE]") (more : List (Except String (List UInt8))) :
    readChunks parse [] {} (chunks.map .ok ++ more) =
      ((acceptAll {} events).1, .ok (acceptAll {} events).2) := by
  have hstop : handleLine parse (acceptAll {} events).2 last =
      ([], .finished (acceptAll {} events).2) := by
    rw [handleLine, hlast]
    rfl
  rw [readChunks_lines hchunks, hbody, handleLines_append, handleLines_events hevents]
  simp only [handleLines, hstop, List.append_nil]

/-- The body is read up to a payload that is not an event. -/
theorem readChunks_failed (hchunks : List.Forall₂ LineChunk chunks lines)
    (hbody : lines.flatten = before ++ last :: after) (hevents : CarryEvents parse before events)
    {payload error : String} (hlast : linePayload last = some payload)
    (hdone : payload ≠ "[DONE]") (hparse : parse payload = .error error)
    (more : List (Except String (List UInt8))) :
    readChunks parse [] {} (chunks.map .ok ++ more) =
      ((acceptAll {} events).1, .error (.transport error)) := by
  have hstop : handleLine parse (acceptAll {} events).2 last =
      ([], .failed (.transport error)) := by
    simp only [handleLine, hlast, hdone, if_false, hparse]
  rw [readChunks_lines hchunks, hbody, handleLines_append, handleLines_events hevents]
  simp only [handleLines, hstop, List.append_nil]

end

end

/-! ## Final calls -/

/-- The final calls are those that the fragments stand for, in the order of their indices. -/
theorem final_calls (fragments : List OpenAiApiDeltaToolCall) :
    ∃ indices : List UInt32, indices.Pairwise (· < ·) ∧
      (∀ index, index ∈ indices ↔ ∃ fragment ∈ fragments, fragment.callIndex = index) ∧
      (assembleCalls fragments ∅).2.toList.map Prod.snd = indices.map (callAfter fragments) := by
  refine ⟨(assembleCalls fragments ∅).2.toList.map Prod.fst, ?_, ?_, ?_⟩
  · rw [List.pairwise_map]
    exact Std.ExtTreeMap.ordered_keys_toList.imp Std.compare_eq_lt.1
  · intro index
    constructor
    · intro hindex
      obtain ⟨⟨index, call⟩, hentry, rfl⟩ := List.mem_map.1 hindex
      exact (mem_final_entries.1 hentry).1
    · intro hsome
      exact List.mem_map.2 ⟨_, mem_final_entries.2 ⟨hsome, rfl⟩, rfl⟩
  · rw [List.map_map]
    refine List.map_congr_left ?_
    intro ⟨index, call⟩ hentry
    exact (mem_final_entries.1 hentry).2.symm

/-- A snapshot is the call as the fragments up to its own make it. -/
theorem deltas_snapshot {earlier first rest : List OpenAiApiDeltaToolCall}
    {fragment : OpenAiApiDeltaToolCall} {pieces : List Piece}
    (h : pieces.filterMap (·.fragmentOf) = first ++ fragment :: rest) :
    ((deltas earlier pieces).filterMap (·.snapshot))[first.length]? =
      some (callAfter (earlier ++ first ++ [fragment]) fragment.callIndex) := by
  induction pieces generalizing earlier first with
  | nil => cases first <;> cases h
  | cons piece pieces ih =>
      cases piece with
      | text delta => exact ih h
      | toolCall other =>
          cases first with
          | nil =>
              obtain ⟨rfl, -⟩ := List.cons.inj h
              rw [List.append_nil]
              rfl
          | cons head first =>
              obtain ⟨rfl, hrest⟩ := List.cons.inj h
              rw [← List.singleton_append (l := first), ← List.append_assoc earlier]
              exact ih hrest

/-- Fragments of other indices do not change a call. -/
theorem callAfter_append_others {fragments rest : List OpenAiApiDeltaToolCall} {index : UInt32}
    (h : ∀ other ∈ rest, other.callIndex ≠ index) :
    callAfter (fragments ++ rest) index = callAfter fragments index := by
  have hrest : rest.filter (·.callIndex = index) = [] := by simpa using h
  simp only [callAfter, idAfter, nameAfter, argumentsAfter, List.filter_append, hrest,
    List.append_nil]

/-! ## The whole stream -/

/-- The message is assembled from fragments: one call for each index, in the order of the indices,
each as the fragments of its index make it, with the text that was streamed. -/
structure AssembledMessage (fragments : List OpenAiApiDeltaToolCall)
    (streamed : List OpenAiStreamChunk) (message : OpenAiAssistantMessage) : Prop where
  content : message.content = String.join (streamed.filterMap (·.text))
  calls : ∃ indices : List UInt32, indices.Pairwise (· < ·) ∧
    (∀ index, index ∈ indices ↔ ∃ fragment ∈ fragments, fragment.callIndex = index) ∧
    message.toolCalls = indices.map (callAfter fragments)
  lastSnapshot : ∀ first fragment rest, fragments = first ++ fragment :: rest →
    (∀ later ∈ rest, later.callIndex ≠ fragment.callIndex) →
      (streamed.filterMap (·.snapshot))[first.length]? =
        some (callAfter fragments fragment.callIndex)

/-- The response after events is assembled from their fragments. -/
theorem response_assembled (fallbackModel : String) (events : List OpenAiApiStreamResponse) :
    AssembledMessage (fragments events) (deltas [] (pieces events))
      ((acceptAll {} events).2.response fallbackModel).message := by
  have hstart : SseState.After {} [] := ⟨rfl, rfl⟩
  obtain ⟨-, hcontent, hcalls⟩ := hstart.acceptAll events
  refine ⟨?_, ?_, ?_⟩
  · rw [deltas_text]
    exact hcontent
  · obtain ⟨indices, hincreasing, hindices, hfinal⟩ := final_calls (fragments events)
    refine ⟨indices, hincreasing, hindices, ?_⟩
    rw [← hfinal]
    exact congrArg (·.toList.map Prod.snd) hcalls
  · intro first fragment rest hsplit hlast
    rw [deltas_snapshot ((pieces_fragments events).trans hsplit), hsplit, List.nil_append,
      List.append_cons first fragment rest, callAfter_append_others hlast]

/-- A body that comes line by line, whose payloads before the first `[DONE]` are events, streams
the deltas of the events and then the message and response that their fragments assemble. Before a
payload that is not an event it streams the same deltas and ends with the error of the parser.
Lines without payload, and all that follows the line at which the loop stops, do not matter. -/
theorem sse_assembly_faithful (parse : String → Except String OpenAiApiStreamResponse)
    (fallbackModel : String) {chunks : List (List UInt8)} {lines : List (List (List Char))}
    (hchunks : List.Forall₂ LineChunk chunks lines) {before after : List (List Char)}
    {last : List Char} (hbody : lines.flatten = before ++ last :: after)
    {events : List OpenAiApiStreamResponse} (hevents : CarryEvents parse before events)
    (more : List (Except String (List UInt8))) :
    let stream := sseStream parse fallbackModel (chunks.map .ok ++ more)
    let streamed := deltas [] (pieces events)
    (∀ item ∈ streamed, item.isDelta) ∧
    (linePayload last = some "[DONE]" →
      ∃ response : OpenAiResponse,
        stream = (streamed ++ [.messageComplete response.message, .responseComplete response],
          .ok ()) ∧
        AssembledMessage (fragments events) streamed response.message) ∧
    (∀ payload error, linePayload last = some payload → payload ≠ "[DONE]" →
      parse payload = .error error → stream = (streamed, .error (.transport error))) := by
  have hstart : SseState.After {} [] := ⟨rfl, rfl⟩
  have hitems := (hstart.acceptAll events).1
  refine ⟨deltas_isDelta _ _, fun hlast => ?_, fun payload error hlast hdone hparse => ?_⟩
  · refine ⟨(acceptAll {} events).2.response fallbackModel, ?_,
      response_assembled fallbackModel events⟩
    rw [sseStream, readChunks_done hchunks hbody hevents hlast, hitems]
    rfl
  · rw [sseStream, readChunks_failed hchunks hbody hevents hlast hdone hparse, hitems]
    rfl

/-- The payload of an event with text and the first fragment of a call. -/
def openingPayload : String :=
  "\x7b\"choices\":[\x7b\"delta\":\x7b\"content\":\"Hi\",\"tool_calls\":[\x7b\"index\":1," ++
    "\"function\":\x7b\"name\":\"find\",\"arguments\":\"[1,\"\x7d\x7d]\x7d\x7d]\x7d"

/-- The payload of an event with a fragment of another call and the rest of the first. -/
def closingPayload : String :=
  "\x7b\"choices\":[\x7b\"delta\":\x7b\"tool_calls\":[\x7b\"index\":0,\"id\":\"a\"\x7d," ++
    "\x7b\"index\":1,\"function\":\x7b\"arguments\":\"2]\"\x7d\x7d]\x7d\x7d]\x7d"

/-- The event of `openingPayload`. -/
def openingEvent : OpenAiApiStreamResponse :=
  ⟨none, [⟨⟨some "Hi", some [⟨some 1, none, some ⟨some "find", some "[1,"⟩⟩]⟩, none⟩]⟩

/-- The event of `closingPayload`. -/
def closingEvent : OpenAiApiStreamResponse :=
  ⟨none, [⟨⟨none, some [⟨some 0, some "a", none⟩, ⟨some 1, none, some ⟨none, some "2]"⟩⟩]⟩, none⟩]⟩

/-- The parser on these payloads. -/
def parseCalls (payload : String) : Except String OpenAiApiStreamResponse :=
  if payload = openingPayload then .ok openingEvent
  else if payload = closingPayload then .ok closingEvent
  else .error "expected value at line 1 column 1"

/-- The characters of a line with this text. -/
def textLine (text : String) : List Char :=
  text.toList ++ ['\n']

/-- The lines of a body with a comment that goes on after its end, in two chunks. -/
def interleavedLines : List (List (List Char)) :=
  [[textLine ("data: " ++ openingPayload), textLine ": ping"],
    [textLine ("data: " ++ closingPayload), textLine "data: [DONE]", textLine "data: ?"]]

/-- The chunks of these lines. -/
def interleavedChunks : List (List UInt8) :=
  interleavedLines.map fun lines => (String.ofList lines.flatten).toUTF8.data.toList

/-- A chunk of whole lines has those lines. -/
theorem lineChunk_textLine {chunk : List UInt8} (texts : List String)
    (hdecodes : Utf8.decode chunk = .ok (texts.map textLine).flatten)
    (htexts : ∀ text ∈ texts, '\n' ∉ text.toList) : LineChunk chunk (texts.map textLine) := by
  refine ⟨hdecodes, ?_⟩
  intro line hline
  obtain ⟨text, htext, rfl⟩ := List.mem_map.1 hline
  exact ⟨text.toList, htexts text htext, rfl⟩

/-- The lines of `interleavedLines` up to its end. -/
theorem interleavedLines_events :
    CarryEvents parseCalls [textLine ("data: " ++ openingPayload), textLine ": ping",
      textLine ("data: " ++ closingPayload)] [openingEvent, closingEvent] := by
  have hpayloads : [textLine ("data: " ++ openingPayload), textLine ": ping",
      textLine ("data: " ++ closingPayload)].filterMap linePayload =
        [openingPayload, closingPayload] := by
    decide +kernel
  have hdifferent : closingPayload ≠ openingPayload := by decide +kernel
  refine ⟨?_, ?_⟩
  · rw [hpayloads]
    decide +kernel
  · simp [hpayloads, parseCalls, hdifferent]

/-- Two calls whose fragments are interleaved: each ends up with its own arguments. -/
theorem sse_assembly_faithful_interleaved :
    List.Forall₂ LineChunk interleavedChunks interleavedLines ∧
      ∃ response : OpenAiResponse,
        sseStream parseCalls "gpt-4o-mini"
            (interleavedChunks.map .ok ++ [.error "connection reset"]) =
          ([.textDelta "Hi", .toolCallDelta ⟨"tool_call_1", "find", "[1,"⟩,
              .toolCallDelta ⟨"a", "", ""⟩, .toolCallDelta ⟨"tool_call_1", "find", "[1,2]"⟩,
              .messageComplete response.message, .responseComplete response], .ok ()) ∧
          response.message =
            ⟨"Hi", [⟨"a", "", ""⟩, ⟨"tool_call_1", "find", "[1,2]"⟩]⟩ := by
  have hchunks : List.Forall₂ LineChunk interleavedChunks interleavedLines := by
    refine .cons ?_ (.cons ?_ .nil)
    · exact lineChunk_textLine ["data: " ++ openingPayload, ": ping"] (by decide +kernel)
        (by decide +kernel)
    · exact lineChunk_textLine ["data: " ++ closingPayload, "data: [DONE]", "data: ?"]
        (by decide +kernel) (by decide +kernel)
  have hbody : interleavedLines.flatten =
      [textLine ("data: " ++ openingPayload), textLine ": ping",
        textLine ("data: " ++ closingPayload)] ++
          textLine "data: [DONE]" :: [textLine "data: ?"] := rfl
  obtain ⟨-, hdone, -⟩ := sse_assembly_faithful parseCalls "gpt-4o-mini" hchunks hbody
    interleavedLines_events [.error "connection reset"]
  obtain ⟨response, hstream, hmessage⟩ := hdone (by decide +kernel)
  have hstreamed : deltas [] (pieces [openingEvent, closingEvent]) =
      [.textDelta "Hi", .toolCallDelta ⟨"tool_call_1", "find", "[1,"⟩,
        .toolCallDelta ⟨"a", "", ""⟩, .toolCallDelta ⟨"tool_call_1", "find", "[1,2]"⟩] := by
    decide +kernel
  obtain ⟨indices, hincreasing, hindices, hcalls⟩ := hmessage.calls
  obtain rfl : indices = [0, 1] := by
    refine hincreasing.eq_of_mem_iff (by decide) fun index => (hindices index).trans ?_
    simp [fragments, openingEvent, closingEvent, OpenAiApiDeltaToolCall.callIndex]
    grind
  refine ⟨hchunks, response, ?_, ?_⟩
  · rw [hstream, hstreamed]
    rfl
  · have hcontent := hmessage.content
    rw [hstreamed] at hcontent
    show OpenAiAssistantMessage.mk response.message.content response.message.toolCalls = _
    rw [hcalls, hcontent]
    decide +kernel

end Fiddlesticks.Provider.OpenAi

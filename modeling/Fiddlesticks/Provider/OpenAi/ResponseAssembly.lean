import Fiddlesticks.Collect.ByKey
import Fiddlesticks.Provider.OpenAi.ResponsesEvents
import Fiddlesticks.Provider.OpenAi.StreamAssembly

/-!
# The assembly of a websocket response

What `ResponsesEventAccumulator` makes of the events of a response: the final calls are those shown
on the way and then those of the output, the last one of each identifier, and the final text is that
of the last message of the output that has any. So the calls are those of the output when no event
names another (`reported_calls_iff`), and no text is lost when the output has one message with text
(`streamed_text_final_iff`).
-/

namespace Fiddlesticks.Provider.OpenAi

open Collect

/-! ## Events -/

/-- The type of an event. -/
def eventType (event : JsonValue) : String :=
  (event.getStr "type").getD ""

/-- The item that an event announces. -/
def announcedItem (event : JsonValue) : Option JsonValue :=
  if eventType event = "response.output_item.added" ∨ eventType event = "response.output_item.done"
    then event.get "item"
  else none

/-- The identifier under which an event accumulates a function call, with its fallbacks. -/
def accumulatedId (event : JsonValue) : Option String :=
  if eventType event = "response.function_call_arguments.delta" then
    some (((event.getStr "call_id").or
      ((event.get "item").bind (·.getStr "call_id"))).getD "tool_call_0")
  else
    match announcedItem event with
    | some item =>
        if item.getStr "type" = some "function_call" then
          some (((item.getStr "call_id").or (item.getStr "id")).getD "tool_call_0")
        else none
    | none => none

/-- The text that an event streams. -/
def textDelta (event : JsonValue) : String :=
  if eventType event = "response.output_text.delta" then (event.getStr "delta").getD "" else ""

/-- The text of the message that an event announces. -/
def announcedText (event : JsonValue) : String :=
  match announcedItem event with
  | some item => if item.getStr "type" = some "message" then parseMessageText item else ""
  | none => ""

/-- The event ends a response. -/
def IsTerminal (event : JsonValue) : Prop :=
  eventType event = "response.completed" ∨ eventType event = "response.failed" ∨
    eventType event = "response.incomplete" ∨ eventType event = "response.cancelled"

instance (event : JsonValue) : Decidable (IsTerminal event) :=
  inferInstanceAs (Decidable (_ ∨ _))

/-- The output items of a terminal event. -/
def outputOf (event : JsonValue) : List JsonValue :=
  (((event.get "response").getD .null).getArray "output").getD []

/-- The events of a response, one after the other. -/
def ResponsesEventAccumulator.handleEvents (accumulator : ResponsesEventAccumulator) :
    List JsonValue → Except ProviderError (List OpenAiStreamChunk × ResponsesEventAccumulator)
  | [] => return ([], accumulator)
  | event :: events => do
      let (chunks, accumulator) ← accumulator.handleEvent event
      let (more, accumulator) ← accumulator.handleEvents events
      return (chunks ++ more, accumulator)

/-! ## One event -/

/-- What events leave in the accumulator and have given as chunks. -/
structure Accumulated (events : List JsonValue) (chunks : List OpenAiStreamChunk)
    (accumulator : ResponsesEventAccumulator) : Prop where
  calls : accumulator.toolCalls =
    insertAll OpenAiToolCall.id ∅ (chunks.filterMap (·.snapshot))
  ids : (chunks.filterMap (·.snapshot)).map (·.id) = events.filterMap accumulatedId
  streamed : String.join (chunks.filterMap (·.text)) = String.join (events.map textDelta)
  silent : String.join (events.map textDelta) = "" →
    (accumulator.text = "" ↔ ∀ event ∈ events, announcedText event = "")

/-- Nothing has been accumulated yet. -/
theorem Accumulated.new (fallbackModel : String) :
    Accumulated [] [] (.new fallbackModel) :=
  ⟨rfl, rfl, rfl, fun _ => ⟨nofun, fun _ => rfl⟩⟩

variable {events : List JsonValue} {chunks : List OpenAiStreamChunk}
  {accumulator : ResponsesEventAccumulator}

/-- The entry of an identifier has it. -/
theorem Accumulated.entry_id (h : Accumulated events chunks accumulator) (callId : String) :
    (accumulator.entry callId).id = callId := by
  rw [ResponsesEventAccumulator.entry, h.calls, getElem?_insertAll]
  cases hlast : lastWith OpenAiToolCall.id (chunks.filterMap (·.snapshot)) callId with
  | none => simp
  | some call => simpa using (lastWith_some hlast).2

/-- One more event, from what it does to the accumulator and shows. -/
theorem Accumulated.step (h : Accumulated events chunks accumulator) {event : JsonValue}
    {items : List OpenAiStreamChunk} {next : ResponsesEventAccumulator}
    (hcalls : next.toolCalls =
      insertAll OpenAiToolCall.id accumulator.toolCalls (items.filterMap (·.snapshot)))
    (hids : (items.filterMap (·.snapshot)).map (·.id) = (accumulatedId event).toList)
    (hstreamed : String.join (items.filterMap (·.text)) = textDelta event)
    (htext : next.text =
      (if accumulator.text = "" then announcedText event else accumulator.text) ++
        textDelta event) :
    Accumulated (events ++ [event]) (chunks ++ items) next := by
  refine ⟨?_, ?_, ?_, ?_⟩
  · rw [hcalls, h.calls, List.filterMap_append, insertAll_append]
  · rw [List.filterMap_append, List.map_append, h.ids, hids, List.filterMap_append]
    cases hid : accumulatedId event <;> simp [hid]
  · rw [List.filterMap_append, String.join_append, h.streamed, hstreamed, List.map_append,
      String.join_append]
    simp [String.join]
  · intro hsilent
    rw [List.map_append, String.join_append, String.append_eq_empty_iff] at hsilent
    obtain ⟨hbefore, hdelta⟩ := hsilent
    have hdelta : textDelta event = "" := by simpa [String.join] using hdelta
    rw [htext, hdelta, String.append_empty, List.forall_mem_append, List.forall_mem_singleton,
      ← h.silent hbefore]
    by_cases hempty : accumulator.text = ""
    · simp [hempty]
    · simp [hempty]

/-- A text that is empty is the empty one. -/
theorem ite_text_empty (text : String) : (if text = "" then "" else text) = text := by
  split
  · rename_i hempty
    exact hempty.symm
  · rfl

/-- An event that changes nothing. -/
theorem Accumulated.ignore (h : Accumulated events chunks accumulator) {event : JsonValue}
    {items : List OpenAiStreamChunk} (hid : accumulatedId event = none)
    (hdelta : textDelta event = "")
    (htext : accumulator.text = "" → announcedText event = "")
    (hitems : ∀ item ∈ items, item.snapshot = none ∧ item.text = none) :
    Accumulated (events ++ [event]) (chunks ++ items) accumulator := by
  have hsnapshots : items.filterMap (·.snapshot) = [] :=
    List.filterMap_eq_nil_iff.2 fun item hitem => (hitems item hitem).1
  have htexts : items.filterMap (·.text) = [] :=
    List.filterMap_eq_nil_iff.2 fun item hitem => (hitems item hitem).2
  refine h.step ?_ ?_ ?_ ?_
  · rw [hsnapshots]
    rfl
  · rw [hsnapshots, hid]
    rfl
  · rw [htexts, hdelta]
    rfl
  · rw [hdelta, String.append_empty]
    split
    · rename_i hempty
      rw [hempty, htext hempty]
    · rfl

/-- An event that updates the entry of its identifier. -/
theorem Accumulated.showEntry (h : Accumulated events chunks accumulator) {event : JsonValue}
    {callId : String} (hid : accumulatedId event = some callId) (hdelta : textDelta event = "")
    (htext : announcedText event = "") (name arguments : String) :
    let shown := accumulator.showEntry callId { accumulator.entry callId with name, arguments }
    Accumulated (events ++ [event]) (chunks ++ shown.1) shown.2 := by
  have hentry := h.entry_id callId
  refine h.step ?_ ?_ ?_ ?_
  · show accumulator.toolCalls.insert callId _ = accumulator.toolCalls.insert (_ : String) _
    rw [hentry]
  · rw [hid]
    exact congrArg (fun id => [id]) hentry
  · rw [hdelta]
    rfl
  · rw [hdelta, htext, String.append_empty, ite_text_empty]
    rfl

/-- A text delta. -/
theorem Accumulated.handleTextDelta (h : Accumulated events chunks accumulator) {event : JsonValue}
    (htype : eventType event = "response.output_text.delta") :
    Accumulated (events ++ [event]) (chunks ++ (accumulator.handleTextDelta event).1)
      (accumulator.handleTextDelta event).2 := by
  have hid : accumulatedId event = none := by simp [accumulatedId, announcedItem, htype]
  have htext : announcedText event = "" := by simp [announcedText, announcedItem, htype]
  have hdelta : textDelta event = (event.getStr "delta").getD "" := by simp [textDelta, htype]
  unfold ResponsesEventAccumulator.handleTextDelta
  by_cases hempty : (event.getStr "delta").getD "" = ""
  · simp only [hempty, if_true]
    exact h.ignore hid (hdelta.trans hempty) (fun _ => htext) nofun
  · simp only [hempty, if_false]
    refine h.step rfl ?_ ?_ ?_
    · rw [hid]
      rfl
    · rw [hdelta]
      exact String.empty_append
    · rw [hdelta, htext, ite_text_empty]

/-- A delta of arguments. -/
theorem Accumulated.handleArgumentsDelta (h : Accumulated events chunks accumulator)
    {event : JsonValue} (htype : eventType event = "response.function_call_arguments.delta") :
    Accumulated (events ++ [event]) (chunks ++ (accumulator.handleArgumentsDelta event).1)
      (accumulator.handleArgumentsDelta event).2 := by
  have htext : announcedText event = "" := by simp [announcedText, announcedItem, htype]
  have hdelta : textDelta event = "" := by simp [textDelta, htype]
  unfold ResponsesEventAccumulator.handleArgumentsDelta
  generalize hcallId : ((event.getStr "call_id").or
    ((event.get "item").bind (·.getStr "call_id"))).getD "tool_call_0" = callId
  have hid : accumulatedId event = some callId := by simp [accumulatedId, htype, hcallId]
  exact h.showEntry hid hdelta htext _ _

/-- An output item. -/
theorem Accumulated.handleOutputItem (h : Accumulated events chunks accumulator)
    {event : JsonValue} (htype : eventType event = "response.output_item.added" ∨
      eventType event = "response.output_item.done") :
    Accumulated (events ++ [event]) (chunks ++ (accumulator.handleOutputItem event).1)
      (accumulator.handleOutputItem event).2 := by
  have hdelta : textDelta event = "" := by
    rcases htype with htype | htype <;> simp [textDelta, htype]
  have hannounced : announcedItem event = event.get "item" := if_pos htype
  have hid : accumulatedId event = match announcedItem event with
      | some item =>
          if item.getStr "type" = some "function_call" then
            some (((item.getStr "call_id").or (item.getStr "id")).getD "tool_call_0")
          else none
      | none => none := by
    rcases htype with htype | htype <;> simp [accumulatedId, htype]
  have htext : announcedText event = match announcedItem event with
      | some item => if item.getStr "type" = some "message" then parseMessageText item else ""
      | none => "" := rfl
  unfold ResponsesEventAccumulator.handleOutputItem
  rw [hannounced] at hid htext
  cases hitem : event.get "item" with
  | none =>
      rw [hitem] at hid htext
      exact h.ignore hid hdelta (fun _ => htext) nofun
  | some item =>
      rw [hitem] at hid htext
      by_cases hcall : item.getStr "type" = some "function_call"
      · simp only [hcall, if_true] at hid htext ⊢
        exact h.showEntry hid hdelta (by simpa using htext) _ _
      · simp only [hcall, if_false] at hid ⊢
        -- A message is taken in only while no text is there: the deltas come first.
        by_cases hmessage : item.getStr "type" = some "message" ∧ accumulator.text = ""
        · simp only [hmessage, and_self, if_true] at htext ⊢
          refine h.step rfl ?_ ?_ ?_
          · rw [hid]
            rfl
          · rw [hdelta]
            rfl
          · rw [hdelta, htext, if_pos hmessage.2, String.append_empty]
        · rw [if_neg hmessage]
          refine h.ignore hid hdelta (fun hempty => ?_) nofun
          simp only [hempty, and_true] at hmessage
          rw [htext]
          exact if_neg hmessage

/-- An event of another type changes nothing. -/
theorem Accumulated.other (h : Accumulated events chunks accumulator) {event : JsonValue}
    {items : List OpenAiStreamChunk}
    (htext : eventType event ≠ "response.output_text.delta")
    (harguments : eventType event ≠ "response.function_call_arguments.delta")
    (hadded : eventType event ≠ "response.output_item.added")
    (hdone : eventType event ≠ "response.output_item.done")
    (hitems : ∀ item ∈ items, item.snapshot = none ∧ item.text = none) :
    Accumulated (events ++ [event]) (chunks ++ items) accumulator := by
  have hannounced : announcedItem event = none := by simp [announcedItem, hadded, hdone]
  refine h.ignore ?_ ?_ (fun _ => ?_) hitems
  · simp [accumulatedId, harguments, hannounced]
  · simp [textDelta, htext]
  · simp [announcedText, hannounced]

/-- A terminal event ends in its response and leaves the accumulator. -/
theorem handleEvent_terminal (accumulator : ResponsesEventAccumulator) {event : JsonValue}
    (h : IsTerminal event) :
    ∃ response, parseCompletedResponse ((event.get "response").getD .null)
        accumulator.fallbackModel accumulator.text accumulator.toolCalls = .ok response ∧
      accumulator.handleEvent event =
        .ok ([.messageComplete response.message, .responseComplete response], accumulator) := by
  refine ⟨_, rfl, ?_⟩
  unfold ResponsesEventAccumulator.handleEvent
  rcases h with h | h | h | h <;> rw [eventType] at h <;> rw [h] <;> rfl

/-- An event that is not an error is taken in. -/
theorem Accumulated.handleEvent (h : Accumulated events chunks accumulator) {event : JsonValue}
    (herror : eventType event ≠ "error") :
    ∃ items next, accumulator.handleEvent event = .ok (items, next) ∧
      Accumulated (events ++ [event]) (chunks ++ items) next := by
  -- The four terminal types share one branch of the source, which leaves the accumulator as it is.
  by_cases hterminal : IsTerminal event
  · obtain ⟨response, -, hevent⟩ := handleEvent_terminal accumulator hterminal
    refine ⟨_, _, hevent, ?_⟩
    refine h.other ?_ ?_ ?_ ?_ ?_
    · rcases hterminal with h | h | h | h <;> simp [h]
    · rcases hterminal with h | h | h | h <;> simp [h]
    · rcases hterminal with h | h | h | h <;> simp [h]
    · rcases hterminal with h | h | h | h <;> simp [h]
    · simp [OpenAiStreamChunk.snapshot, OpenAiStreamChunk.text]
  · unfold ResponsesEventAccumulator.handleEvent
    split
    case h_1 htype => exact absurd htype herror
    case h_2 htype => exact ⟨_, _, rfl, h.handleTextDelta htype⟩
    case h_3 htype => exact ⟨_, _, rfl, h.handleArgumentsDelta htype⟩
    case h_4 htype => exact ⟨_, _, rfl, h.handleOutputItem (.inl htype)⟩
    case h_5 htype => exact ⟨_, _, rfl, h.handleOutputItem (.inr htype)⟩
    case h_6 htype => exact absurd (.inl htype) hterminal
    case h_7 htype => exact absurd (.inr (.inl htype)) hterminal
    case h_8 htype => exact absurd (.inr (.inr (.inl htype))) hterminal
    case h_9 htype => exact absurd (.inr (.inr (.inr htype))) hterminal
    case h_10 htext harguments hadded hdone _ _ _ _ =>
        exact ⟨_, _, rfl, h.other htext harguments hadded hdone nofun⟩

/-- Events without an error are taken in. -/
theorem Accumulated.handleEvents (h : Accumulated events chunks accumulator)
    {more : List JsonValue} (herror : ∀ event ∈ more, eventType event ≠ "error") :
    ∃ items final, accumulator.handleEvents more = .ok (items, final) ∧
      Accumulated (events ++ more) (chunks ++ items) final := by
  induction more generalizing events chunks accumulator with
  | nil =>
      refine ⟨[], accumulator, rfl, ?_⟩
      rwa [List.append_nil, List.append_nil]
  | cons event more ih =>
      obtain ⟨hevent, hmore⟩ := List.forall_mem_cons.1 herror
      obtain ⟨items, next, hnext, hstep⟩ := h.handleEvent hevent
      obtain ⟨rest, final, hfinal, hrun⟩ := ih hstep hmore
      refine ⟨items ++ rest, final, ?_, ?_⟩
      · rw [ResponsesEventAccumulator.handleEvents, hnext]
        show (do
          let (more, accumulator) ← next.handleEvents more
          return (items ++ more, accumulator)) = _
        rw [hfinal]
        rfl
      · rwa [List.append_assoc, List.append_assoc] at hrun

/-! ## The output of a response -/

/-- The function call items of an output. -/
def callItems (output : List JsonValue) : List JsonValue :=
  output.filter fun item => item.getStr "type" = some "function_call"

/-- The call of a function call item. -/
def itemCall (item : JsonValue) : OpenAiToolCall :=
  { id := (item.getStr "call_id").getD ""
    name := (item.getStr "name").getD ""
    arguments := (item.getStr "arguments").getD "" }

/-- Each function call item has a `call_id` of its own. -/
structure OwnCallIds (output : List JsonValue) : Prop where
  given : ∀ item ∈ callItems output, (item.getStr "call_id").isSome
  distinct : ((callItems output).map (·.getStr "call_id")).Nodup

/-- The texts of the assistant messages of an output. -/
def assistantTexts (output : List JsonValue) : List String :=
  (output.filter fun item =>
    item.getStr "type" = some "message" ∧ item.getStr "role" = some "assistant").map
      parseMessageText

/-- The texts of the assistant's messages, item by item. -/
theorem assistantTexts_cons (item : JsonValue) (output : List JsonValue) :
    assistantTexts (item :: output) =
      if item.getStr "type" = some "message" ∧ item.getStr "role" = some "assistant" then
        parseMessageText item :: assistantTexts output
      else assistantTexts output := by
  rw [assistantTexts, List.filter_cons]
  split
  · rename_i hmessage
    rw [if_pos (of_decide_eq_true hmessage)]
    rfl
  · rename_i hother
    rw [if_neg fun hmessage => hother (decide_eq_true hmessage)]
    rfl

/-- The function calls of an output, item by item. -/
theorem callItems_cons (item : JsonValue) (output : List JsonValue) :
    callItems (item :: output) =
      if item.getStr "type" = some "function_call" then item :: callItems output
      else callItems output := by
  rw [callItems, List.filter_cons]
  split <;> simp_all [callItems]

/-- The text of an output is that of its last assistant message with text. -/
theorem parseOutput_text (output : List JsonValue) (messageContent : String)
    (toolCalls : CallsById) :
    (parseOutput output (messageContent, toolCalls)).1 =
      ((assistantTexts output).filter (· ≠ "")).getLast?.getD messageContent := by
  induction output generalizing messageContent toolCalls with
  | nil => rfl
  | cons item output ih =>
      rw [parseOutput.eq_def, assistantTexts_cons]
      dsimp only
      split
      case h_1 htype =>
        rw [ih]
        by_cases hrole : item.getStr "role" = some "assistant"
        -- The text is overwritten and not appended to, except by a message without text.
        · by_cases htext : parseMessageText item = ""
          · simp [htype, hrole, htext]
          · simp [htype, hrole, htext, List.getLast?_cons]
        · simp [hrole]
      case h_2 htype =>
        rw [ih]
        simp [htype]
      case h_3 hmessage hcall =>
        rw [ih, if_neg fun hassistant => hmessage hassistant.1]

/-- The calls of an output are inserted by their ids. -/
theorem parseOutput_calls {output : List JsonValue}
    (hgiven : ∀ item ∈ callItems output, (item.getStr "call_id").isSome) (messageContent : String)
    (toolCalls : CallsById) :
    (parseOutput output (messageContent, toolCalls)).2 =
      insertAll OpenAiToolCall.id toolCalls ((callItems output).map itemCall) := by
  induction output generalizing messageContent toolCalls with
  | nil => rfl
  | cons item output ih =>
      rw [callItems_cons] at hgiven ⊢
      rw [parseOutput.eq_def]
      dsimp only
      split
      case h_1 htype =>
        have hcall : item.getStr "type" ≠ some "function_call" := by simp [htype]
        rw [if_neg hcall] at hgiven ⊢
        exact ih hgiven _ _
      case h_2 htype =>
        rw [if_pos htype] at hgiven ⊢
        obtain ⟨hid, hgiven⟩ := List.forall_mem_cons.1 hgiven
        obtain ⟨callId, hcallId⟩ := Option.isSome_iff_exists.1 hid
        rw [ih hgiven, List.map_cons, itemCall, hcallId]
        rfl
      case h_3 hmessage hcall =>
        rw [if_neg hcall] at hgiven ⊢
        exact ih hgiven _ _

/-- The calls with an identifier are those of the items with it. -/
theorem OwnCallIds.exists_call_iff {output : List JsonValue} (h : OwnCallIds output)
    {id : String} : (∃ call ∈ (callItems output).map itemCall, call.id = id) ↔
      ∃ item ∈ callItems output, item.getStr "call_id" = some id := by
  constructor
  · rintro ⟨call, hcall, rfl⟩
    obtain ⟨item, hitem, rfl⟩ := List.mem_map.1 hcall
    obtain ⟨callId, hcallId⟩ := Option.isSome_iff_exists.1 (h.given item hitem)
    refine ⟨item, hitem, ?_⟩
    rw [itemCall, hcallId]
    rfl
  · rintro ⟨item, hitem, hid⟩
    refine ⟨_, List.mem_map_of_mem hitem, ?_⟩
    rw [itemCall, hid]
    rfl

/-- The calls of an output have distinct identifiers. -/
theorem OwnCallIds.nodup {output : List JsonValue} (h : OwnCallIds output) :
    (((callItems output).map itemCall).map OpenAiToolCall.id).Nodup := by
  have hids : ((callItems output).map itemCall).map OpenAiToolCall.id =
      ((callItems output).map (·.getStr "call_id")).map (·.getD "") := by
    rw [List.map_map, List.map_map]
    rfl
  rw [hids]
  refine h.distinct.map_on fun first hfirst second hsecond hsame => ?_
  obtain ⟨item, hitem, rfl⟩ := List.mem_map.1 hfirst
  obtain ⟨other, hother, rfl⟩ := List.mem_map.1 hsecond
  obtain ⟨callId, hcallId⟩ := Option.isSome_iff_exists.1 (h.given item hitem)
  obtain ⟨otherId, hotherId⟩ := Option.isSome_iff_exists.1 (h.given other hother)
  rw [hcallId, hotherId] at hsame ⊢
  exact congrArg some hsame

/-! ## Final calls -/

section

variable (fallbackModel : String) {terminal : JsonValue}

/-- The response that ends a run. -/
theorem run_response (hevents : ∀ event ∈ events, eventType event ≠ "error")
    (hterminal : IsTerminal terminal) :
    ∃ chunks accumulator response,
      (ResponsesEventAccumulator.new fallbackModel).handleEvents events =
        .ok (chunks, accumulator) ∧
      accumulator.handleEvent terminal =
        .ok ([.messageComplete response.message, .responseComplete response], accumulator) ∧
      Accumulated events chunks accumulator ∧
      response.message.content =
        ((assistantTexts (outputOf terminal)).filter (· ≠ "")).getLast?.getD accumulator.text ∧
      (OwnCallIds (outputOf terminal) → response.message.toolCalls =
        byKey OpenAiToolCall.id (chunks.filterMap (·.snapshot) ++
          (callItems (outputOf terminal)).map itemCall)) := by
  obtain ⟨chunks, accumulator, hrun, haccumulated⟩ :=
    (Accumulated.new fallbackModel).handleEvents hevents
  have haccumulated : Accumulated events chunks accumulator := haccumulated
  obtain ⟨response, hresponse, hend⟩ := handleEvent_terminal accumulator hterminal
  obtain rfl := Except.ok.inj hresponse
  refine ⟨chunks, accumulator, _, hrun, hend, haccumulated, ?_, fun hown => ?_⟩
  · exact parseOutput_text _ _ _
  · rw [byKey, insertAll_append, ← haccumulated.calls,
      ← parseOutput_calls hown.given accumulator.text]
    rfl

/-- In every response that ends in a terminal event whose function call items have a `call_id` each
of their own, the calls of the response are these items exactly when no event before has accumulated
a call under an identifier that none of them has. -/
theorem reported_calls_iff (hevents : ∀ event ∈ events, eventType event ≠ "error")
    (hterminal : IsTerminal terminal) (hown : OwnCallIds (outputOf terminal)) :
    ∃ chunks accumulator response,
      (ResponsesEventAccumulator.new fallbackModel).handleEvents events =
        .ok (chunks, accumulator) ∧
      accumulator.handleEvent terminal =
        .ok ([.messageComplete response.message, .responseComplete response], accumulator) ∧
      (response.message.toolCalls.Perm ((callItems (outputOf terminal)).map itemCall) ↔
        ∀ event ∈ events, ∀ id, accumulatedId event = some id →
          ∃ item ∈ callItems (outputOf terminal), item.getStr "call_id" = some id) := by
  obtain ⟨chunks, accumulator, response, hrun, hend, haccumulated, -, hcalls⟩ :=
    run_response fallbackModel hevents hterminal
  refine ⟨chunks, accumulator, response, hrun, hend, ?_⟩
  rw [hcalls hown, byKey_append_perm_iff, and_iff_left hown.nodup]
  simp only [hown.exists_call_iff]
  refine (List.forall_mem_map (f := OpenAiToolCall.id) (P := fun id =>
    ∃ item ∈ callItems (outputOf terminal), item.getStr "call_id" = some id)).symm.trans ?_
  rw [haccumulated.ids]
  simp only [List.mem_filterMap, forall_exists_index, and_imp]
  exact ⟨fun h event hevent id hid => h id event hevent hid,
    fun h id event hevent hid => h event hevent id hid⟩

end

/-- A delta of arguments, with other fields of the event. -/
def argumentsEvent (fields : List (String × JsonValue)) : JsonValue :=
  .object (("type", .string "response.function_call_arguments.delta") ::
    ("delta", .string "\x7b\x7d") :: fields)

/-- A response that has completed with this output. -/
def completedEvent (output : List JsonValue) : JsonValue :=
  .object [("type", .string "response.completed"),
    ("response", .object [("status", .string "completed"), ("output", .array output)])]

/-- A function call item. -/
def callItem : JsonValue :=
  .object [("type", .string "function_call"), ("id", .string "fc_1"),
    ("call_id", .string "call_1"), ("name", .string "lookup"), ("arguments", .string "\x7b\x7d")]

/-- The call of the demo has an id of its own. -/
theorem ownCallIds_callItem : OwnCallIds (outputOf (completedEvent [callItem])) :=
  ⟨by decide, by decide⟩

/-- Arguments that come with the identifier of their call. -/
theorem reported_calls_iff_named :
    ∃ chunks accumulator response,
      (ResponsesEventAccumulator.new "gpt-4o-mini").handleEvents
          [argumentsEvent [("call_id", .string "call_1")]] = .ok (chunks, accumulator) ∧
      accumulator.handleEvent (completedEvent [callItem]) =
        .ok ([.messageComplete response.message, .responseComplete response], accumulator) ∧
      response.message.toolCalls.Perm [⟨"call_1", "lookup", "\x7b\x7d"⟩] := by
  have hevents : ∀ event ∈ [argumentsEvent [("call_id", .string "call_1")]],
      eventType event ≠ "error" := by decide
  have hterminal : IsTerminal (completedEvent [callItem]) := by decide
  obtain ⟨chunks, accumulator, response, hrun, hend, hiff⟩ :=
    reported_calls_iff "gpt-4o-mini" hevents hterminal ownCallIds_callItem
  refine ⟨chunks, accumulator, response, hrun, hend, hiff.2 ?_⟩
  intro event hevent id hid
  obtain rfl := List.mem_singleton.1 hevent
  have hcallId : accumulatedId (argumentsEvent [("call_id", .string "call_1")]) =
      some "call_1" := by decide
  refine ⟨callItem, List.mem_filter.2 ⟨.head _, by decide⟩, ?_⟩
  rw [← hid, hcallId]
  decide

/-- Arguments that come without it leave a call that the output does not have. -/
theorem unnamed_arguments_add_call :
    ∃ chunks accumulator response,
      (ResponsesEventAccumulator.new "gpt-4o-mini").handleEvents
          [argumentsEvent [("item_id", .string "fc_1")]] = .ok (chunks, accumulator) ∧
      accumulator.handleEvent (completedEvent [callItem]) =
        .ok ([.messageComplete response.message, .responseComplete response], accumulator) ∧
      OwnCallIds (outputOf (completedEvent [callItem])) ∧
      response.message.toolCalls =
        [⟨"call_1", "lookup", "\x7b\x7d"⟩, ⟨"tool_call_0", "", "\x7b\x7d"⟩] ∧
      ¬ response.message.toolCalls.Perm
        ((callItems (outputOf (completedEvent [callItem]))).map itemCall) := by
  refine ⟨_, _, _, rfl, rfl, ownCallIds_callItem, by decide +kernel, by decide +kernel⟩

section

variable (fallbackModel : String) {terminal : JsonValue}

/-! ## Final text -/

/-- Empty texts add nothing. -/
theorem join_filter_ne_empty (texts : List String) :
    String.join (texts.filter (· ≠ "")) = String.join texts := by
  induction texts with
  | nil => rfl
  | cons text texts ih =>
      by_cases hempty : text = ""
      · simpa [hempty] using ih
      · simpa [hempty] using ih

/-- The last text is no longer than all texts together. -/
theorem length_last_le_join (text : String) (texts : List String) :
    (texts.getLast?.getD text).length ≤ (String.join (text :: texts)).length := by
  induction texts generalizing text with
  | nil => simp
  | cons next texts ih =>
      rw [List.getLast?_cons, Option.getD_some, String.join_cons, String.length_append]
      exact (ih next).trans (Nat.le_add_left _ _)

/-- The last of several texts is not all of them. -/
theorem last_ne_join {first second : String} {texts : List String} (hfirst : first ≠ "")
    (fallback : String) :
    (first :: second :: texts).getLast?.getD fallback ≠ String.join (first :: second :: texts) := by
  intro hsame
  have hlength := congrArg String.length hsame
  rw [List.getLast?_cons, Option.getD_some, List.getLast?_cons, Option.getD_some,
    String.join_cons, String.length_append] at hlength
  have hlast := length_last_le_join second texts
  have hpositive : 0 < first.length :=
    Nat.pos_of_ne_zero fun hzero => hfirst (String.length_eq_zero_iff.1 hzero)
  omega

/-- In every response that ends in a terminal event whose assistant messages are the streamed text,
the final text is the streamed one exactly when at most one message has text, and none that an event
announced if none of these has. -/
theorem streamed_text_final_iff (hevents : ∀ event ∈ events, eventType event ≠ "error")
    (hterminal : IsTerminal terminal)
    (hstreamed : String.join (events.map textDelta) =
      String.join (assistantTexts (outputOf terminal))) :
    ∃ chunks accumulator response,
      (ResponsesEventAccumulator.new fallbackModel).handleEvents events =
        .ok (chunks, accumulator) ∧
      accumulator.handleEvent terminal =
        .ok ([.messageComplete response.message, .responseComplete response], accumulator) ∧
      (response.message.content = String.join (chunks.filterMap (·.text)) ↔
        ((assistantTexts (outputOf terminal)).filter (· ≠ "")).length ≤ 1 ∧
          ((assistantTexts (outputOf terminal)).filter (· ≠ "") = [] →
            ∀ event ∈ events, announcedText event = "")) := by
  obtain ⟨chunks, accumulator, response, hrun, hend, haccumulated, hcontent, -⟩ :=
    run_response fallbackModel hevents hterminal
  refine ⟨chunks, accumulator, response, hrun, hend, ?_⟩
  rw [hcontent, haccumulated.streamed, hstreamed, ← join_filter_ne_empty]
  have hsilent := haccumulated.silent
  rw [hstreamed, ← join_filter_ne_empty] at hsilent
  have hne : ∀ text ∈ (assistantTexts (outputOf terminal)).filter (· ≠ ""), text ≠ "" := by
    intro text htext
    simpa using (List.mem_filter.1 htext).2
  generalize (assistantTexts (outputOf terminal)).filter (· ≠ "") = texts at hsilent hne ⊢
  match texts with
  | [] => simpa [String.join] using hsilent rfl
  | [text] => simp
  | first :: second :: rest =>
      -- a message before the last one with text is lost
      have hlast : (first :: second :: rest).getLast?.getD accumulator.text ≠ _ :=
        last_ne_join (hne first List.mem_cons_self) _
      exact ⟨fun hsame => absurd hsame hlast, fun h => absurd h.1 (by simp)⟩

end

/-- A text delta. -/
def textEvent (delta : String) : JsonValue :=
  .object [("type", .string "response.output_text.delta"), ("delta", .string delta)]

/-- A message item of the assistant. -/
def messageItem (text : String) : JsonValue :=
  .object [("type", .string "message"), ("role", .string "assistant"),
    ("content", .array [.object [("type", .string "output_text"), ("text", .string text)]])]

/-- A text that comes in two deltas of one message. -/
theorem streamed_text_final_iff_one_message :
    ∃ chunks accumulator response,
      (ResponsesEventAccumulator.new "gpt-4o-mini").handleEvents [textEvent "Hel", textEvent "lo"] =
        .ok (chunks, accumulator) ∧
      accumulator.handleEvent (completedEvent [messageItem "Hello"]) =
        .ok ([.messageComplete response.message, .responseComplete response], accumulator) ∧
      response.message.content = String.join (chunks.filterMap (·.text)) := by
  have hevents : ∀ event ∈ [textEvent "Hel", textEvent "lo"], eventType event ≠ "error" := by
    decide
  have hterminal : IsTerminal (completedEvent [messageItem "Hello"]) := by decide
  have hstreamed : String.join ([textEvent "Hel", textEvent "lo"].map textDelta) =
      String.join (assistantTexts (outputOf (completedEvent [messageItem "Hello"]))) := by
    decide +kernel
  obtain ⟨chunks, accumulator, response, hrun, hend, hiff⟩ :=
    streamed_text_final_iff "gpt-4o-mini" hevents hterminal hstreamed
  exact ⟨chunks, accumulator, response, hrun, hend, hiff.2 (by decide +kernel)⟩

/-- The text of the first of two messages is lost. -/
theorem first_message_lost :
    let output := [messageItem "First. ", messageItem "Second."]
    String.join ([textEvent "First. ", textEvent "Second."].map textDelta) =
        String.join (assistantTexts (outputOf (completedEvent output))) ∧
      ∃ chunks accumulator response,
        (ResponsesEventAccumulator.new "gpt-4o-mini").handleEvents
            [textEvent "First. ", textEvent "Second."] = .ok (chunks, accumulator) ∧
        accumulator.handleEvent (completedEvent output) =
          .ok ([.messageComplete response.message, .responseComplete response], accumulator) ∧
        chunks = [.textDelta "First. ", .textDelta "Second."] ∧
        response.message.content = "Second." ∧
        response.message.content ≠ String.join (chunks.filterMap (·.text)) := by
  intro output
  exact ⟨by decide +kernel, _, _, _, rfl, rfl, by decide +kernel, by decide +kernel,
    by decide +kernel⟩

end Fiddlesticks.Provider.OpenAi

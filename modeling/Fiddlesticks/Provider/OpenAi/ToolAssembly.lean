import Fiddlesticks.Provider.OpenAi.SseChunking

/-!
# Assembled tool calls

The tool calls of a streamed response are assembled from fragments by index. The snapshots shown
on the way and the calls of the final response, with the identifiers that the fragments give them.
-/

namespace Fiddlesticks.Provider.OpenAi

/-! ## Fragments -/

/-- The index of the call that a fragment belongs to. -/
def OpenAiApiDeltaToolCall.callIndex (fragment : OpenAiApiDeltaToolCall) : UInt32 :=
  fragment.index.getD 0

/-- The identifier that fragments give to the call of an index: the last one that comes with a
fragment of that index, or a placeholder. -/
def idAfter (fragments : List OpenAiApiDeltaToolCall) (index : UInt32) : String :=
  ((fragments.filter (·.callIndex = index)).filterMap (·.id)).getLast?.getD s!"tool_call_{index}"

/-- Fragments are assembled part by part. -/
theorem assembleCalls_append (first rest : List OpenAiApiDeltaToolCall) (toolCalls : ToolCallMap) :
    assembleCalls (first ++ rest) toolCalls =
      ((assembleCalls first toolCalls).1 ++
          (assembleCalls rest (assembleCalls first toolCalls).2).1,
        (assembleCalls rest (assembleCalls first toolCalls).2).2) := by
  induction first generalizing toolCalls with
  | nil => rfl
  | cons fragment first ih => simp [assembleCalls, ih]

/-- The last fragment goes to what those before it have come to. -/
theorem assembleCalls_snoc (fragments : List OpenAiApiDeltaToolCall)
    (fragment : OpenAiApiDeltaToolCall) :
    let assembled := assembleCalls fragments ∅
    assembleCalls (fragments ++ [fragment]) ∅ =
      (assembled.1 ++ [fragment.entry assembled.2],
        assembled.2.insert fragment.callIndex (fragment.entry assembled.2)) := by
  rw [assembleCalls_append]
  rfl

/-- A fragment without an identifier keeps the one there is. -/
theorem idAfter_snoc_self (fragments : List OpenAiApiDeltaToolCall)
    (fragment : OpenAiApiDeltaToolCall) :
    idAfter (fragments ++ [fragment]) fragment.callIndex =
      fragment.id.getD (idAfter fragments fragment.callIndex) := by
  unfold idAfter
  cases hid : fragment.id <;> simp [hid]

/-- The name that fragments give to the call of an index: the last one that comes with a fragment of
that index. -/
def nameAfter (fragments : List OpenAiApiDeltaToolCall) (index : UInt32) : String :=
  ((fragments.filter (·.callIndex = index)).filterMap
    (·.function.bind (·.name))).getLast?.getD ""

/-- The arguments of the call of an index: those of its fragments, one after the other. -/
def argumentsAfter (fragments : List OpenAiApiDeltaToolCall) (index : UInt32) : String :=
  String.join ((fragments.filter (·.callIndex = index)).filterMap
    (·.function.bind (·.arguments)))

/-- The call of an index that fragments stand for. -/
def callAfter (fragments : List OpenAiApiDeltaToolCall) (index : UInt32) : OpenAiToolCall :=
  { id := idAfter fragments index
    name := nameAfter fragments index
    arguments := argumentsAfter fragments index }

/-- A fragment updates what there is of its call. -/
theorem callAfter_snoc_self (fragments : List OpenAiApiDeltaToolCall)
    (fragment : OpenAiApiDeltaToolCall) :
    let call := callAfter fragments fragment.callIndex
    callAfter (fragments ++ [fragment]) fragment.callIndex =
      { id := fragment.id.getD call.id
        name := (fragment.function.bind (·.name)).getD call.name
        arguments := call.arguments ++ (fragment.function.bind (·.arguments)).getD "" } := by
  have hname : nameAfter (fragments ++ [fragment]) fragment.callIndex =
      (fragment.function.bind (·.name)).getD (nameAfter fragments fragment.callIndex) := by
    unfold nameAfter
    cases hname : fragment.function.bind (·.name) <;> simp [hname]
  have harguments : argumentsAfter (fragments ++ [fragment]) fragment.callIndex =
      argumentsAfter fragments fragment.callIndex ++
        (fragment.function.bind (·.arguments)).getD "" := by
    unfold argumentsAfter
    cases harguments : fragment.function.bind (·.arguments) <;> simp [harguments]
  simp only [callAfter, idAfter_snoc_self, hname, harguments]

/-- A fragment changes the call of its own index only. -/
theorem callAfter_snoc_other {fragments : List OpenAiApiDeltaToolCall}
    {fragment : OpenAiApiDeltaToolCall} {index : UInt32} (h : fragment.callIndex ≠ index) :
    callAfter (fragments ++ [fragment]) index = callAfter fragments index := by
  simp [callAfter, idAfter, nameAfter, argumentsAfter, h]

/-- A call without fragments is the one that the first of them would find. -/
theorem callAfter_eq_new {fragments : List OpenAiApiDeltaToolCall} {index : UInt32}
    (h : ¬ ∃ fragment ∈ fragments, fragment.callIndex = index) :
    callAfter fragments index = { id := s!"tool_call_{index}", name := "", arguments := "" } := by
  have hfilter : fragments.filter (·.callIndex = index) = [] := by simpa using h
  simp [callAfter, idAfter, nameAfter, argumentsAfter, hfilter, String.join]

/-- The entry after a fragment, from the one that it finds. -/
theorem entry_eq (fragment : OpenAiApiDeltaToolCall) (toolCalls : ToolCallMap) :
    let call := toolCalls[fragment.callIndex]?.getD
      { id := s!"tool_call_{fragment.callIndex}", name := "", arguments := "" }
    fragment.entry toolCalls =
      { id := fragment.id.getD call.id
        name := (fragment.function.bind (·.name)).getD call.name
        arguments := call.arguments ++ (fragment.function.bind (·.arguments)).getD "" } := by
  unfold OpenAiApiDeltaToolCall.entry OpenAiApiDeltaToolCall.callIndex
  cases hcall : toolCalls[fragment.index.getD 0]? <;> cases fragment.id <;>
    cases fragment.function <;> simp [hcall]

/-- The calls under assembly are those that the fragments stand for. -/
def Assembled (fragments : List OpenAiApiDeltaToolCall) : Prop :=
  ∀ index, (assembleCalls fragments ∅).2[index]? =
    if ∃ fragment ∈ fragments, fragment.callIndex = index then some (callAfter fragments index)
    else none

/-- The entry of a fragment is the call that it continues. -/
theorem Assembled.entry {fragments : List OpenAiApiDeltaToolCall} (h : Assembled fragments)
    (fragment : OpenAiApiDeltaToolCall) :
    fragment.entry (assembleCalls fragments ∅).2 =
      callAfter (fragments ++ [fragment]) fragment.callIndex := by
  rw [entry_eq, h, callAfter_snoc_self]
  by_cases hsome : ∃ other ∈ fragments, other.callIndex = fragment.callIndex
  · rw [if_pos hsome, Option.getD_some]
  · rw [if_neg hsome, Option.getD_none, callAfter_eq_new hsome]

/-- Every sequence of fragments is assembled. -/
theorem assembled (fragments : List OpenAiApiDeltaToolCall) : Assembled fragments := by
  induction fragments using List.reverseRecOn with
  | nil =>
      intro index
      simp [assembleCalls]
  | append_singleton fragments fragment ih =>
      intro index
      rw [assembleCalls_snoc, Std.ExtTreeMap.getElem?_insert]
      by_cases hindex : fragment.callIndex = index
      · subst hindex
        simp [ih.entry]
      · have hne : compare fragment.callIndex index ≠ .eq := by simpa using hindex
        simp only [hne, if_false, ih index, callAfter_snoc_other hindex]
        simp [or_and_right, exists_or, hindex]

/-- The identifiers of the snapshots are those that the fragments have given so far. -/
theorem mem_snapshot_ids {fragments : List OpenAiApiDeltaToolCall} {id : String} :
    (∃ snapshot ∈ (assembleCalls fragments ∅).1, snapshot.id = id) ↔
      ∃ before fragment after, fragments = before ++ fragment :: after ∧
        idAfter (before ++ [fragment]) fragment.callIndex = id := by
  induction fragments using List.reverseRecOn with
  | nil => simp [assembleCalls]
  | append_singleton fragments last ih =>
      rw [assembleCalls_snoc]
      simp only [List.mem_append, List.mem_singleton, or_and_right, exists_or, exists_eq_left, ih,
        (assembled fragments).entry]
      constructor
      · rintro (⟨before, fragment, after, rfl, hid⟩ | hid)
        · exact ⟨before, fragment, after ++ [last], by simp, hid⟩
        · exact ⟨fragments, last, [], rfl, hid⟩
      · intro h
        obtain ⟨before, fragment, after, hsplit, hid⟩ := h
        rcases snoc_eq_append_cons.1 hsplit with ⟨rfl, rfl, rfl⟩ | ⟨init, rfl, rfl⟩
        · exact .inr hid
        · exact .inl ⟨before, fragment, init, rfl, hid⟩

/-- The final entries are the calls that the fragments stand for. -/
theorem mem_final_entries {fragments : List OpenAiApiDeltaToolCall} {index : UInt32}
    {call : OpenAiToolCall} : (index, call) ∈ (assembleCalls fragments ∅).2.toList ↔
      (∃ fragment ∈ fragments, fragment.callIndex = index) ∧ callAfter fragments index = call := by
  rw [Std.ExtTreeMap.mem_toList_iff_getElem?_eq_some, assembled fragments index]
  by_cases hsome : ∃ fragment ∈ fragments, fragment.callIndex = index
  · rw [if_pos hsome]
    exact ⟨fun hcall => ⟨hsome, Option.some.inj hcall⟩, fun hcall => congrArg some hcall.2⟩
  · rw [if_neg hsome]
    exact ⟨nofun, fun hcall => absurd hcall.1 hsome⟩

/-- The identifiers of the final calls are those that the fragments have given at their end. -/
theorem mem_final_ids {fragments : List OpenAiApiDeltaToolCall} {id : String} :
    (∃ call ∈ (assembleCalls fragments ∅).2.toList.map Prod.snd, call.id = id) ↔
      ∃ fragment ∈ fragments, idAfter fragments fragment.callIndex = id := by
  constructor
  · intro h
    obtain ⟨call, hcall, rfl⟩ := h
    obtain ⟨⟨index, final⟩, hentry, rfl⟩ := List.mem_map.1 hcall
    obtain ⟨⟨fragment, hfragment, rfl⟩, rfl⟩ := mem_final_entries.1 hentry
    exact ⟨fragment, hfragment, rfl⟩
  · intro h
    obtain ⟨fragment, hfragment, rfl⟩ := h
    exact ⟨_, List.mem_map.2 ⟨_, mem_final_entries.2 ⟨⟨fragment, hfragment, rfl⟩, rfl⟩, rfl⟩, rfl⟩

/-- Every snapshot has the identifier of a final call exactly when the fragments leave no call with
an identifier that none ends up with. -/
theorem snapshot_ids_final_iff {fragments : List OpenAiApiDeltaToolCall} :
    (∀ snapshot ∈ (assembleCalls fragments ∅).1,
        ∃ call ∈ (assembleCalls fragments ∅).2.toList.map Prod.snd, call.id = snapshot.id) ↔
      ∀ before fragment after, fragments = before ++ fragment :: after →
        ∃ last ∈ fragments, idAfter fragments last.callIndex =
          idAfter (before ++ [fragment]) fragment.callIndex := by
  constructor
  · intro h before fragment after hsplit
    obtain ⟨snapshot, hsnapshot, hid⟩ := mem_snapshot_ids.2 ⟨before, fragment, after, hsplit, rfl⟩
    obtain ⟨last, hlast, hfinal⟩ := mem_final_ids.1 (h snapshot hsnapshot)
    exact ⟨last, hlast, hfinal.trans hid⟩
  · intro h snapshot hsnapshot
    obtain ⟨before, fragment, after, hsplit, hid⟩ := mem_snapshot_ids.1 ⟨snapshot, hsnapshot, rfl⟩
    obtain ⟨last, hlast, hfinal⟩ := h before fragment after hsplit
    exact mem_final_ids.2 ⟨last, hlast, hfinal.trans hid⟩

/-- The final calls have distinct identifiers when different indices end up with different ones. -/
theorem final_ids_nodup_iff {fragments : List OpenAiApiDeltaToolCall} :
    (((assembleCalls fragments ∅).2.toList.map Prod.snd).map OpenAiToolCall.id).Nodup ↔
      ∀ first ∈ fragments, ∀ second ∈ fragments,
        idAfter fragments first.callIndex = idAfter fragments second.callIndex →
          first.callIndex = second.callIndex := by
  have hentries : (assembleCalls fragments ∅).2.toList.Nodup :=
    Std.ExtTreeMap.ordered_keys_toList.imp fun hlt heq => by simp [heq] at hlt
  rw [List.map_map, List.nodup_map_iff_inj_on hentries]
  constructor
  · intro hinj first hfirst second hsecond hsame
    have hcall := mem_final_entries.2 ⟨⟨first, hfirst, rfl⟩, rfl⟩
    have hother := mem_final_entries.2 ⟨⟨second, hsecond, rfl⟩, rfl⟩
    exact congrArg Prod.fst (hinj _ hcall _ hother hsame)
  · rintro hdistinct ⟨index, call⟩ hcall ⟨index', other⟩ hother hsame
    obtain ⟨⟨first, hfirst, rfl⟩, rfl⟩ := mem_final_entries.1 hcall
    obtain ⟨⟨second, hsecond, rfl⟩, rfl⟩ := mem_final_entries.1 hother
    rw [hdistinct first hfirst second hsecond hsame]

/-! ## The events of a body -/

section

variable (parse : String → Except String OpenAiApiStreamResponse)

/-- The events of lines, up to one at which the loop stops. -/
def lineEvents : List (List Char) → List OpenAiApiStreamResponse
  | [] => []
  | line :: lines =>
      match linePayload line with
      | none => lineEvents lines
      | some payload =>
          if payload = "[DONE]" then []
          else
            match parse payload with
            | .error _ => []
            | .ok parsed => parsed :: lineEvents lines

/-- The events that the loop over the chunks handles. -/
def bodyEvents : List Char → List (Except String (List UInt8)) → List OpenAiApiStreamResponse
  | _, [] => []
  | _, .error _ :: _ => []
  | buffer, .ok bytes :: chunks =>
      match Utf8.decode bytes with
      | .error _ => []
      | .ok text =>
          let (lines, buffer) := completeLines (buffer ++ text)
          match handleLines parse {} lines with
          | (_, .reading _) => lineEvents parse lines ++ bodyEvents buffer chunks
          | _ => lineEvents parse lines

/-- The fragments of tool calls in events. -/
def fragments (events : List OpenAiApiStreamResponse) : List OpenAiApiDeltaToolCall :=
  events.flatMap fun event =>
    (event.choices.head?.bind (·.delta.toolCalls)).getD []

/-- The fragments of events are those of each part. -/
theorem fragments_append (first rest : List OpenAiApiStreamResponse) :
    fragments (first ++ rest) = fragments first ++ fragments rest :=
  List.flatMap_append

/-- The tool call snapshot of a chunk. -/
def OpenAiStreamChunk.snapshot : OpenAiStreamChunk → Option OpenAiToolCall
  | toolCallDelta call => some call
  | _ => none

/-- The chunk is a delta of text or of a tool call. -/
def OpenAiStreamChunk.isDelta : OpenAiStreamChunk → Bool
  | textDelta _ | toolCallDelta _ => true
  | messageComplete _ | responseComplete _ => false

/-- Chunks yielded on the way and the tool calls after them are those that fragments assemble. -/
structure Assembles (assembled : List OpenAiApiDeltaToolCall) (before : ToolCallMap)
    (items : List OpenAiStreamChunk) (after : ToolCallMap) : Prop where
  deltas : ∀ item ∈ items, item.isDelta
  snapshots : items.filterMap (·.snapshot) = (assembleCalls assembled before).1
  calls : after = (assembleCalls assembled before).2

/-- No fragments give no items. -/
theorem Assembles.nil (toolCalls : ToolCallMap) : Assembles [] toolCalls [] toolCalls :=
  ⟨by simp, rfl, rfl⟩

/-- Items of fragments follow those of the fragments before them. -/
theorem Assembles.append {first rest : List OpenAiApiDeltaToolCall}
    {before middle after : ToolCallMap} {items more : List OpenAiStreamChunk}
    (h : Assembles first before items middle) (h' : Assembles rest middle more after) :
    Assembles (first ++ rest) before (items ++ more) after where
  deltas := by
    intro item hitem
    rcases List.mem_append.1 hitem with hitem | hitem
    · exact h.deltas item hitem
    · exact h'.deltas item hitem
  snapshots := by
    rw [List.filterMap_append, h.snapshots, h'.snapshots, assembleCalls_append, h.calls]
  calls := by rw [h'.calls, assembleCalls_append, h.calls]

/-- An event assembles its fragments. -/
theorem accept_assembles (state : SseState) (event : OpenAiApiStreamResponse) :
    Assembles (fragments [event]) state.toolCalls (state.accept event).1
      (state.accept event).2.toolCalls := by
  unfold SseState.accept fragments
  cases hchoices : event.choices with
  | nil => simpa [hchoices] using Assembles.nil _
  | cons choice choices =>
      simp only [List.flatMap_singleton, hchoices, List.head?_cons, Option.bind_some]
      refine ⟨?_, ?_, rfl⟩
      · intro item hitem
        rcases List.mem_append.1 hitem with hitem | hitem
        · split at hitem
          · cases hitem
          · obtain rfl := List.mem_singleton.1 hitem
            rfl
        · obtain ⟨snapshot, -, rfl⟩ := List.mem_map.1 hitem
          rfl
      · rw [List.filterMap_append, List.filterMap_map]
        have htext : (if choice.delta.content.getD "" = "" then []
            else [OpenAiStreamChunk.textDelta (choice.delta.content.getD "")]).filterMap
              (·.snapshot) = [] := by
          split <;> rfl
        rw [htext, List.nil_append]
        exact List.filterMap_some

variable {parse}

/-- Handling lines assembles the fragments of their events. -/
theorem handleLines_assembles (parse : String → Except String OpenAiApiStreamResponse)
    (state : SseState) (lines : List (List Char)) :
    ∃ after, Assembles (fragments (lineEvents parse lines)) state.toolCalls
        (handleLines parse state lines).1 after ∧
      ∀ last, (handleLines parse state lines).2 = .reading last ∨
        (handleLines parse state lines).2 = .finished last → last.toolCalls = after := by
  induction lines generalizing state with
  | nil => exact ⟨_, .nil _, by rintro last (h | h) <;> cases h; rfl⟩
  | cons line lines ih =>
      rw [handleLines, handleLine, lineEvents]
      cases hpayload : linePayload line with
      | none => exact ih state
      | some payload =>
          by_cases hdone : payload = "[DONE]"
          · simp only [hdone, if_true]
            exact ⟨_, .nil _, by rintro last (h | h) <;> cases h; rfl⟩
          · cases hparse : parse payload with
            | error error =>
                simp only [hdone, if_false, hparse]
                exact ⟨_, .nil _, by rintro last (h | h) <;> cases h⟩
            | ok parsed =>
                simp only [hdone, if_false, hparse]
                obtain ⟨after, hafter, hlast⟩ := ih (state.accept parsed).2
                refine ⟨after, ?_, hlast⟩
                rw [← List.singleton_append (l := lineEvents parse lines), fragments_append]
                exact (accept_assembles state parsed).append hafter

/-- Whether lines end the loop does not depend on its state. -/
theorem bodyEvents_cons {bytes : List UInt8} {text : List Char}
    (hchunk : Utf8.decode bytes = .ok text)
    (buffer : List Char) (state : SseState) (chunks : List (Except String (List UInt8))) :
    bodyEvents parse buffer (.ok bytes :: chunks) =
      match handleLines parse state (completeLines (buffer ++ text)).1 with
      | (_, .reading _) =>
          lineEvents parse (completeLines (buffer ++ text)).1 ++
            bodyEvents parse (completeLines (buffer ++ text)).2 chunks
      | _ => lineEvents parse (completeLines (buffer ++ text)).1 := by
  simp only [bodyEvents, hchunk]
  generalize completeLines (buffer ++ text) = completed
  obtain ⟨lines, rest⟩ := completed
  have hstops : (∃ after, (handleLines parse {} lines).2 = .reading after) ↔
      ∃ after, (handleLines parse state lines).2 = .reading after :=
    (handleLines_reading_iff parse {} lines).trans (handleLines_reading_iff parse state lines).symm
  revert hstops
  dsimp only
  rcases handleLines parse {} lines with ⟨fresh, other | other | failure⟩ <;>
    rcases handleLines parse state lines with ⟨items, next | next | error⟩ <;> simp

/-- The loop over the chunks assembles the fragments of the events that it handles. -/
theorem readChunks_assembles (parse : String → Except String OpenAiApiStreamResponse)
    (buffer : List Char) (state : SseState) (chunks : List (Except String (List UInt8))) :
    ∃ after, Assembles (fragments (bodyEvents parse buffer chunks)) state.toolCalls
        (readChunks parse buffer state chunks).1 after ∧
      ∀ last, (readChunks parse buffer state chunks).2 = .ok last → last.toolCalls = after := by
  induction chunks generalizing buffer state with
  | nil => exact ⟨_, .nil _, by rintro last h; cases h; rfl⟩
  | cons chunk chunks ih =>
      cases chunk with
      | error error => exact ⟨_, .nil _, by rintro last h; cases h⟩
      | ok bytes =>
          cases hdecode : Utf8.decode bytes with
          | error error =>
              simp only [readChunks, bodyEvents, hdecode]
              exact ⟨_, .nil _, by rintro last h; cases h⟩
          | ok text =>
              rw [readChunks_cons hdecode, bodyEvents_cons hdecode buffer state]
              obtain ⟨middle, hmiddle, hlines⟩ :=
                handleLines_assembles parse state (completeLines (buffer ++ text)).1
              rcases hresult : handleLines parse state (completeLines (buffer ++ text)).1 with
                ⟨items, next | next | error⟩
              · obtain ⟨after, hafter, hlast⟩ := ih (completeLines (buffer ++ text)).2 next
                rw [hresult] at hmiddle
                rw [hlines next (.inl (congrArg Prod.snd hresult))] at hafter
                refine ⟨after, ?_, hlast⟩
                rw [fragments_append]
                exact hmiddle.append hafter
              · rw [hresult] at hmiddle
                refine ⟨middle, hmiddle, ?_⟩
                rintro last ⟨⟩
                exact hlines next (.inr (congrArg Prod.snd hresult))
              · rw [hresult] at hmiddle
                exact ⟨middle, hmiddle, by rintro last ⟨⟩⟩

/-! ## An accepted stream -/

/-- The items of an accepted stream: the deltas that its fragments assemble, then the final message
and the response with the assembled calls. -/
theorem sseStream_accepted {fallbackModel : String} {chunks : List (Except String (List UInt8))}
    (h : (sseStream parse fallbackModel chunks).2 = .ok ()) :
    ∃ (deltas : List OpenAiStreamChunk) (response : OpenAiResponse),
      (sseStream parse fallbackModel chunks).1 =
        deltas ++ [.messageComplete response.message, .responseComplete response] ∧
      (∀ item ∈ deltas, item.isDelta) ∧
      let assembled := assembleCalls (fragments (bodyEvents parse [] chunks)) ∅
      deltas.filterMap (·.snapshot) = assembled.1 ∧
      response.message.toolCalls = assembled.2.toList.map Prod.snd := by
  obtain ⟨after, hassembles, hlast⟩ := readChunks_assembles parse [] {} chunks
  unfold sseStream at h ⊢
  generalize readChunks parse [] {} chunks = result at hassembles hlast h ⊢
  rcases result with ⟨items, error | state⟩
  · cases h
  · refine ⟨items, state.response fallbackModel, rfl, hassembles.deltas, hassembles.snapshots, ?_⟩
    have hcalls : state.toolCalls = _ := (hlast state rfl).trans hassembles.calls
    show state.toolCalls.toList.map Prod.snd = _
    rw [hcalls]

end

end Fiddlesticks.Provider.OpenAi

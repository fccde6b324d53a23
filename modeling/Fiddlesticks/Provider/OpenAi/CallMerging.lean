import Fiddlesticks.Provider.OpenAi.StreamAssembly

/-!
# Merged tool calls

Fragments of different tool calls end up in one call of the final message when they have the same
index, and an absent index is 0. Where the argument text of a fragment ends up is read off the final
message: it is the call that shows the text, whatever the text is (`calls_kept_apart_iff`).
-/

namespace Fiddlesticks.Provider.OpenAi

/-! ## Where fragments end up -/

/-- The final calls of fragments. -/
def assembledCalls (received : List OpenAiApiDeltaToolCall) : List OpenAiToolCall :=
  (assembleCalls received ∅).2.toList.map Prod.snd

/-- The fragment with another argument text. -/
def OpenAiApiDeltaToolCall.withArguments (fragment : OpenAiApiDeltaToolCall) (text : String) :
    OpenAiApiDeltaToolCall :=
  { fragment with function := some ⟨fragment.function.bind (·.name), some text⟩ }

/-- Other arguments leave the index of a fragment. -/
@[simp]
theorem withArguments_callIndex (fragment : OpenAiApiDeltaToolCall) (text : String) :
    (fragment.withArguments text).callIndex = fragment.callIndex := rfl

/-- The arguments of a fragment are those it was given. -/
@[simp]
theorem withArguments_arguments (fragment : OpenAiApiDeltaToolCall) (text : String) :
    (fragment.withArguments text).function.bind (·.arguments) = some text := rfl

/-- The argument text of the fragment between others is found in the final call at a position. -/
def EndsUpIn (before : List OpenAiApiDeltaToolCall) (fragment : OpenAiApiDeltaToolCall)
    (after : List OpenAiApiDeltaToolCall) (position : Nat) : Prop :=
  ∃ first last : String, ∀ text,
    (assembledCalls (before ++ fragment.withArguments text :: after))[position]?.map
      (·.arguments) = some (first ++ text ++ last)

/-- The fragment belongs to the call of an identifier: it has the identifier, or has none and the
index of a fragment that has it. -/
def BelongsTo (received : List OpenAiApiDeltaToolCall) (id : String)
    (fragment : OpenAiApiDeltaToolCall) : Prop :=
  fragment.id = some id ∨
    fragment.id = none ∧ ∃ named ∈ received, named.id = some id ∧ named.index = fragment.index

/-- Fragments that belong to calls of different identifiers end up in different final calls. -/
def KeptApart (received : List OpenAiApiDeltaToolCall) : Prop :=
  ∀ id other : String, id ≠ other →
    ∀ before fragment after, received = before ++ fragment :: after →
      BelongsTo received id fragment →
    ∀ before' fragment' after', received = before' ++ fragment' :: after' →
      BelongsTo received other fragment' →
    ∃ position position', position ≠ position' ∧ EndsUpIn before fragment after position ∧
      EndsUpIn before' fragment' after' position'

/-- Fragments with different identifiers have different indices, where an absent index is 0. -/
def IndexedApart (received : List OpenAiApiDeltaToolCall) : Prop :=
  ∀ fragment ∈ received, ∀ fragment' ∈ received, ∀ id other : String,
    fragment.id = some id → fragment'.id = some other → id ≠ other →
      fragment.index.getD 0 ≠ fragment'.index.getD 0

/-! ## The final call of an index -/

/-- Arguments of an index are joined part by part. -/
theorem argumentsAfter_append (first rest : List OpenAiApiDeltaToolCall) (index : UInt32) :
    argumentsAfter (first ++ rest) index =
      argumentsAfter first index ++ argumentsAfter rest index := by
  rw [argumentsAfter, List.filter_append, List.filterMap_append, String.join_append]
  rfl

/-- The argument text of a fragment is that of the call of its index. -/
theorem argumentsAfter_cons_withArguments (fragment : OpenAiApiDeltaToolCall) (text : String)
    (rest : List OpenAiApiDeltaToolCall) (index : UInt32) :
    argumentsAfter (fragment.withArguments text :: rest) index =
      (if fragment.callIndex = index then text else "") ++ argumentsAfter rest index := by
  rw [← List.singleton_append, argumentsAfter_append]
  congr 1
  by_cases hsame : fragment.callIndex = index
  · simp [argumentsAfter, hsame]
  · simp [argumentsAfter, hsame, String.join]

/-- The list holds the indices of the fragments in increasing order. -/
structure IndicesOf (received : List OpenAiApiDeltaToolCall) (indices : List UInt32) : Prop where
  increasing : indices.Pairwise (· < ·)
  mem_iff : ∀ index, index ∈ indices ↔ ∃ fragment ∈ received, fragment.callIndex = index

/-- The assembled calls are those of the indices in order. -/
theorem IndicesOf.calls {received : List OpenAiApiDeltaToolCall} {indices : List UInt32}
    (h : IndicesOf received indices) :
    assembledCalls received = indices.map (callAfter received) := by
  obtain ⟨others, hincreasing, hothers, hcalls⟩ := final_calls received
  have hsame : others = indices :=
    hincreasing.eq_of_mem_iff h.increasing fun index =>
      (hothers index).trans (h.mem_iff index).symm
  rw [← hsame]
  exact hcalls

/-- The argument text of a fragment does not change its index. -/
theorem IndicesOf.withArguments {before : List OpenAiApiDeltaToolCall}
    {fragment : OpenAiApiDeltaToolCall} {after : List OpenAiApiDeltaToolCall}
    {indices : List UInt32} (h : IndicesOf (before ++ fragment :: after) indices)
    (text : String) : IndicesOf (before ++ fragment.withArguments text :: after) indices := by
  refine ⟨h.increasing, fun index => (h.mem_iff index).trans ?_⟩
  simp only [List.mem_append, List.mem_cons, or_and_right, exists_or, exists_eq_left,
    withArguments_callIndex]

/-- The argument text of a fragment ends up in the call of its index. -/
theorem endsUpIn_iff {before : List OpenAiApiDeltaToolCall} {fragment : OpenAiApiDeltaToolCall}
    {after : List OpenAiApiDeltaToolCall} {indices : List UInt32}
    (h : IndicesOf (before ++ fragment :: after) indices) (position : Nat) :
    EndsUpIn before fragment after position ↔ indices[position]? = some fragment.callIndex := by
  have harguments : ∀ text index,
      (callAfter (before ++ fragment.withArguments text :: after) index).arguments =
        argumentsAfter before index ++
          ((if fragment.callIndex = index then text else "") ++ argumentsAfter after index) := by
    intro text index
    show argumentsAfter _ index = _
    rw [argumentsAfter_append, argumentsAfter_cons_withArguments]
  constructor
  · rintro ⟨first, last, hfound⟩
    simp only [(h.withArguments _).calls, List.getElem?_map, Option.map_map] at hfound
    cases hposition : indices[position]? with
    | none =>
        have hempty := hfound ""
        rw [hposition] at hempty
        cases hempty
    | some index =>
        rw [hposition] at hfound
        by_contra hother
        have hne : fragment.callIndex ≠ index := fun hsame => hother (congrArg some hsame.symm)
        have hsame : first ++ "" ++ last = first ++ "x" ++ last := by
          have hempty := Option.some.inj (hfound "")
          have hx := Option.some.inj (hfound "x")
          rw [Function.comp_apply, harguments, if_neg hne] at hempty hx
          exact hempty.symm.trans hx
        -- A call of another index does not depend on the text, so it cannot hold the text once as
        -- the empty one and once as a character.
        have hlength := congrArg String.length hsame
        simp at hlength
  · intro hposition
    refine ⟨argumentsAfter before fragment.callIndex, argumentsAfter after fragment.callIndex,
      fun text => ?_⟩
    rw [(h.withArguments text).calls, List.getElem?_map, hposition]
    simp only [Option.map_some, harguments, if_true, String.append_assoc]

/-! ## Calls that are kept apart -/

/-- A fragment that belongs to the call of an identifier has the index of one with the
identifier. -/
theorem BelongsTo.index {received : List OpenAiApiDeltaToolCall} {id : String}
    {fragment : OpenAiApiDeltaToolCall} (h : BelongsTo received id fragment)
    (hmem : fragment ∈ received) :
    ∃ named ∈ received, named.id = some id ∧ named.callIndex = fragment.callIndex := by
  rcases h with hid | ⟨-, named, hnamed, hid, hindex⟩
  · exact ⟨fragment, hmem, hid, rfl⟩
  · exact ⟨named, hnamed, hid, congrArg (·.getD 0) hindex⟩

/-- Calls are kept apart exactly when their indices are. -/
theorem keptApart_iff (received : List OpenAiApiDeltaToolCall) :
    KeptApart received ↔ IndexedApart received := by
  obtain ⟨indices, hincreasing, hindices, -⟩ := final_calls received
  have hnodup : indices.Nodup := hincreasing.imp fun hlt heq => by simp [heq] at hlt
  have hends : ∀ before fragment after, received = before ++ fragment :: after → ∀ position,
      EndsUpIn before fragment after position ↔ indices[position]? = some fragment.callIndex := by
    rintro before fragment after rfl position
    exact endsUpIn_iff ⟨hincreasing, hindices⟩ position
  constructor
  · intro happart fragment hfragment fragment' hfragment' id other hid hother hne hindex
    obtain ⟨before, after, hsplit⟩ := List.append_of_mem hfragment
    obtain ⟨before', after', hsplit'⟩ := List.append_of_mem hfragment'
    obtain ⟨position, position', hpositions, hposition, hposition'⟩ := happart id other hne
      before fragment after hsplit (.inl hid) before' fragment' after' hsplit' (.inl hother)
    rw [hends _ _ _ hsplit] at hposition
    rw [hends _ _ _ hsplit'] at hposition'
    -- One index has one position, and the two positions differ.
    have hbound := (List.getElem?_eq_some_iff.1 hposition).1
    refine hpositions ((List.getElem?_inj hbound hnodup).1 ?_)
    rw [hposition, hposition']
    exact congrArg some hindex
  · intro happart id other hne before fragment after hsplit hbelongs before' fragment' after'
      hsplit' hbelongs'
    have hmem : fragment ∈ received := by simp [hsplit]
    have hmem' : fragment' ∈ received := by simp [hsplit']
    obtain ⟨named, hnamed, hid, hindex⟩ := hbelongs.index hmem
    obtain ⟨named', hnamed', hother, hindex'⟩ := hbelongs'.index hmem'
    -- The fragments that name the two calls have the indices of these two.
    have hdifferent : fragment.callIndex ≠ fragment'.callIndex := by
      rw [← hindex, ← hindex']
      exact happart named hnamed named' hnamed' id other hid hother hne
    obtain ⟨position, hposition⟩ :=
      List.getElem?_of_mem ((hindices _).2 ⟨fragment, hmem, rfl⟩)
    obtain ⟨position', hposition'⟩ :=
      List.getElem?_of_mem ((hindices _).2 ⟨fragment', hmem', rfl⟩)
    refine ⟨position, position', ?_, (hends _ _ _ hsplit _).2 hposition,
      (hends _ _ _ hsplit' _).2 hposition'⟩
    rintro rfl
    exact hdifferent (Option.some.inj (hposition.symm.trans hposition'))

/-- The calls of an accepted stream are kept apart exactly when their indices are. -/
theorem calls_kept_apart_iff (parse : String → Except String OpenAiApiStreamResponse)
    (fallbackModel : String) (chunks : List (Except String (List UInt8)))
    (haccepted : (sseStream parse fallbackModel chunks).2 = .ok ()) :
    let received := fragments (bodyEvents parse [] chunks)
    (∃ response, .responseComplete response ∈ (sseStream parse fallbackModel chunks).1 ∧
      response.message.toolCalls = assembledCalls received) ∧
    (KeptApart received ↔ IndexedApart received) := by
  obtain ⟨deltas, response, hitems, -, -, hcalls⟩ := sseStream_accepted haccepted
  refine ⟨⟨response, ?_, hcalls⟩, keptApart_iff _⟩
  rw [hitems]
  simp

/-! ## Two calls in one event -/

/-- The payload of an event with two calls, before whose identifiers come these fields. -/
def twoCallsPayload (first second : String) : String :=
  "\x7b\"choices\":[\x7b\"delta\":\x7b\"tool_calls\":[\x7b" ++ first ++
    "\"id\":\"a\",\"function\":\x7b\"name\":\"read\",\"arguments\":\"1\"\x7d\x7d,\x7b" ++ second ++
    "\"id\":\"b\",\"function\":\x7b\"name\":\"send\",\"arguments\":\"2\"\x7d\x7d]\x7d\x7d]\x7d"

/-- The event with two calls at these indices. -/
def twoCalls (first second : Option UInt32) : OpenAiApiStreamResponse :=
  ⟨none, [⟨⟨none, some [⟨first, some "a", some ⟨some "read", some "1"⟩⟩,
    ⟨second, some "b", some ⟨some "send", some "2"⟩⟩]⟩, none⟩]⟩

/-- The parser on these payloads. -/
def parseTwoCalls (payload : String) : Except String OpenAiApiStreamResponse :=
  if payload = twoCallsPayload "" "" then .ok (twoCalls none none)
  else if payload = twoCallsPayload "\"index\":0," "\"index\":1," then
    .ok (twoCalls (some 0) (some 1))
  else .error "expected value at line 1 column 1"

/-- The body with an event, in one chunk. -/
def eventBody (payload : String) : List (Except String (List UInt8)) :=
  [.ok ("data: " ++ payload ++ "\ndata: [DONE]\n").toUTF8.data.toList]

/-- Calls with indices of their own are kept apart. -/
theorem calls_kept_apart_iff_indexed :
    let body := eventBody (twoCallsPayload "\"index\":0," "\"index\":1,")
    KeptApart (fragments (bodyEvents parseTwoCalls [] body)) ∧
      ∃ response, .responseComplete response ∈ (sseStream parseTwoCalls "gpt-4o-mini" body).1 ∧
        response.message.toolCalls = [⟨"a", "read", "1"⟩, ⟨"b", "send", "2"⟩] := by
  intro body
  obtain ⟨⟨response, hmem, hcalls⟩, hiff⟩ := calls_kept_apart_iff parseTwoCalls "gpt-4o-mini" body
    (by decide +kernel)
  have hreceived : fragments (bodyEvents parseTwoCalls [] body) =
      [⟨some 0, some "a", some ⟨some "read", some "1"⟩⟩,
        ⟨some 1, some "b", some ⟨some "send", some "2"⟩⟩] := by
    decide +kernel
  refine ⟨hiff.2 ?_, response, hmem, ?_⟩
  · rw [hreceived]
    simp [IndexedApart]
  · rw [hcalls, hreceived]
    decide +kernel

/-- Calls without indices are merged: one call is left, with the arguments of both. -/
theorem unindexed_calls_merge :
    let body := eventBody (twoCallsPayload "" "")
    let message : OpenAiAssistantMessage := ⟨"", [⟨"b", "send", "12"⟩]⟩
    sseStream parseTwoCalls "gpt-4o-mini" body =
        ([.toolCallDelta ⟨"a", "read", "1"⟩, .toolCallDelta ⟨"b", "send", "12"⟩,
          .messageComplete message,
          .responseComplete ⟨"gpt-4o-mini", message, .other, ⟨0, 0, 0⟩⟩], .ok ()) ∧
      ¬ KeptApart (fragments (bodyEvents parseTwoCalls [] body)) := by
  intro body message
  have hreceived : fragments (bodyEvents parseTwoCalls [] body) =
      [⟨none, some "a", some ⟨some "read", some "1"⟩⟩,
        ⟨none, some "b", some ⟨some "send", some "2"⟩⟩] := by
    decide +kernel
  refine ⟨by decide +kernel, ?_⟩
  rw [hreceived, keptApart_iff]
  intro happart
  exact happart _ (.head _) _ (.tail _ (.head _)) "a" "b" rfl rfl (by decide) rfl

end Fiddlesticks.Provider.OpenAi

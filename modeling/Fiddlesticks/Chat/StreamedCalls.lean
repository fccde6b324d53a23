import Fiddlesticks.Chat.Agreement
import Fiddlesticks.Chat.RoundLog
import Fiddlesticks.Provider.OpenAi.ToolAssembly

/-!
# Streamed calls are executed once

A streamed round over a response body executes the tool calls of its final response exactly when
the identifiers of the calls are stable: every identifier shown on the way is that of a final call,
and different calls end up with different ones.
-/

namespace Fiddlesticks.Chat

open Effect Prog Provider Provider.OpenAi Tooling

/-! ## Streams of an adapter -/

/-- The events that an adapter makes of the stream of its transport. -/
def adapterStream (provider : ProviderId)
    (stream : List OpenAiStreamChunk × Except ProviderError Unit) : ProviderStream :=
  stream.1.map (fun chunk => .ok (mapStreamChunk provider chunk)) ++
    match stream.2 with
    | .ok _ => []
    | .error error => [.error error]

/-- The tool calls of the final response of a stream. -/
def finalCalls (events : ProviderStream) : List ToolCall :=
  match events.getLast? with
  | some (.ok (.responseComplete response)) => responseCalls response
  | _ => []

/-- The identifiers of tool calls are stable: each identifier that a fragment leaves its call with
is one that a call ends up with, and different calls end up with different ones. -/
structure StableIds (fragments : List OpenAiApiDeltaToolCall) : Prop where
  shown : ∀ before fragment after, fragments = before ++ fragment :: after →
    ∃ last ∈ fragments, idAfter fragments last.callIndex =
      idAfter (before ++ [fragment]) fragment.callIndex
  distinct : ∀ first ∈ fragments, ∀ second ∈ fragments,
    idAfter fragments first.callIndex = idAfter fragments second.callIndex →
      first.callIndex = second.callIndex

/-- The executed calls are the final ones, each id once. -/
structure ExecutedOnce (executed calls : List ToolCall) : Prop where
  same : executed.Perm calls
  ids : (executed.map ToolCall.id).Nodup

/-- A stream without errors is consumed whole. -/
theorem consumed_map_ok (round : StreamRound) (events : List StreamEvent) :
    consumed round (events.map .ok) = events.foldl StreamRound.update round := by
  rw [consumed, List.foldl_map]

/-- The calls of a response with nothing but calls are its calls. -/
theorem collectOutput_toolCalls (calls : List ToolCall) :
    (collectOutput (calls.map .toolCall)).2 = calls := by
  induction calls with
  | nil => rfl
  | cons call calls ih => simp [collectOutput, ih]

/-- The calls of a response are those of its message. -/
theorem responseCalls_intoModelResponse (provider : ProviderId) (response : OpenAiResponse) :
    responseCalls (response.intoModelResponse provider) =
      response.message.toolCalls.map (·.toToolCall) := by
  have hcalls : response.message.toolCalls.map (fun call => OutputItem.toolCall call.toToolCall) =
      (response.message.toolCalls.map (·.toToolCall)).map .toolCall := by
    rw [List.map_map]
    rfl
  rw [responseCalls, OpenAiResponse.intoModelResponse, hcalls]
  split
  · exact collectOutput_toolCalls _
  · exact collectOutput_toolCalls _

/-- Deltas are mapped to deltas, with their snapshots. -/
theorem deltas_mapStreamChunk (provider : ProviderId) {deltas : List OpenAiStreamChunk}
    (hdeltas : ∀ item ∈ deltas, item.isDelta) :
    (∀ e ∈ deltas.map (mapStreamChunk provider),
        (deltaText e).isSome ∨ (deltaCall e).isSome) ∧
      (deltas.map (mapStreamChunk provider)).filterMap deltaCall =
        (deltas.filterMap (·.snapshot)).map (·.toToolCall) := by
  induction deltas with
  | nil => simp
  | cons item deltas ih =>
      obtain ⟨hevents, hcalls⟩ :=
        ih fun other hother => hdeltas other (List.mem_cons_of_mem _ hother)
      have hitem := hdeltas item List.mem_cons_self
      cases item with
      | textDelta delta =>
          refine ⟨?_, hcalls⟩
          simpa [mapStreamChunk, deltaText] using hevents
      | toolCallDelta call =>
          refine ⟨?_, congrArg _ hcalls⟩
          simpa [mapStreamChunk, deltaCall] using hevents
      | messageComplete message => cases hitem
      | responseComplete response => cases hitem

/-! ## The round over an accepted body -/

section

variable {parse : String → Except String OpenAiApiStreamResponse} {fallbackModel : String}
  {chunks : List (Except String (List UInt8))} (provider : ProviderId)

/-- The events over an accepted body. -/
theorem adapterStream_accepted (haccepted : (sseStream parse fallbackModel chunks).2 = .ok ()) :
    ∃ (deltas : List StreamEvent) (message : Message) (response : ModelResponse),
      adapterStream provider (sseStream parse fallbackModel chunks) =
        (deltas ++ [StreamEvent.messageComplete message, .responseComplete response]).map .ok ∧
      (∀ e ∈ deltas, (deltaText e).isSome ∨ (deltaCall e).isSome) ∧
      let assembled := assembleCalls (fragments (bodyEvents parse [] chunks)) ∅
      deltas.filterMap deltaCall = assembled.1.map (·.toToolCall) ∧
      responseCalls response = (assembled.2.toList.map Prod.snd).map (·.toToolCall) := by
  obtain ⟨deltas, response, hitems, hdeltas, hsnapshots, hcalls⟩ := sseStream_accepted haccepted
  obtain ⟨hevents, hdeltaCalls⟩ := deltas_mapStreamChunk provider hdeltas
  refine ⟨deltas.map (mapStreamChunk provider), ⟨.assistant, response.message.content⟩,
    response.intoModelResponse provider, ?_, hevents, ?_, ?_⟩
  · rw [adapterStream, haccepted, hitems, List.append_nil, List.map_append, List.map_append,
      List.map_map]
    rfl
  · rw [hdeltaCalls, hsnapshots]
  · rw [responseCalls_intoModelResponse, hcalls]

/-- The end of a stream inserts the calls of its response. -/
theorem toolCalls_update_final (round : StreamRound) (message : Message)
    (response : ModelResponse) :
    ((round.update (.messageComplete message)).update (.responseComplete response)).toolCalls =
      insertCalls round.toolCalls (responseCalls response) := by
  show insertCalls (round.update (.messageComplete message)).toolCalls (responseCalls response) = _
  simp only [StreamRound.update]
  split <;> rfl

/-- The round over an accepted body is left with its snapshots and the calls of its final response,
in the order of their ids. -/
theorem roundCalls_sseStream (haccepted : (sseStream parse fallbackModel chunks).2 = .ok ()) :
    let stream := adapterStream provider (sseStream parse fallbackModel chunks)
    let assembled := assembleCalls (fragments (bodyEvents parse [] chunks)) ∅
    finalCalls stream = (assembled.2.toList.map Prod.snd).map (·.toToolCall) ∧
      roundCalls stream = inOrder (assembled.1.map (·.toToolCall) ++ finalCalls stream) := by
  obtain ⟨deltas, message, response, hstream, hdeltas, hsnapshots, hcalls⟩ :=
    adapterStream_accepted provider haccepted
  dsimp only
  have hfinal : finalCalls (adapterStream provider (sseStream parse fallbackModel chunks)) =
      responseCalls response := by
    rw [hstream, finalCalls, List.map_append, List.getLast?_append]
    rfl
  refine ⟨hfinal.trans hcalls, ?_⟩
  rw [hfinal, roundCalls, hstream, consumed_map_ok, List.foldl_append, StreamRound.calls,
    List.foldl_cons, List.foldl_cons, List.foldl_nil, toolCalls_update_final,
    foldl_update_deltas _ hdeltas, hsnapshots, inOrder, insertCalls, insertCalls, insertCalls,
    List.foldl_append]

/-- The round over an accepted body is left with the calls of its final response exactly when the
identifiers are stable. -/
theorem roundCalls_perm_finalCalls_iff
    (haccepted : (sseStream parse fallbackModel chunks).2 = .ok ()) :
    (roundCalls (adapterStream provider (sseStream parse fallbackModel chunks))).Perm
        (finalCalls (adapterStream provider (sseStream parse fallbackModel chunks))) ↔
      StableIds (fragments (bodyEvents parse [] chunks)) := by
  obtain ⟨hfinal, hround⟩ := roundCalls_sseStream provider haccepted
  have hids : ∀ calls : List OpenAiToolCall,
      (calls.map (·.toToolCall)).map ToolCall.id = calls.map OpenAiToolCall.id := by
    intro calls
    rw [List.map_map]
    rfl
  have hmem : ∀ (calls : List OpenAiToolCall) (id : String),
      (∃ call ∈ calls.map (·.toToolCall), call.id = id) ↔ ∃ call ∈ calls, call.id = id := by
    intro calls id
    simp only [List.mem_map, exists_exists_and_eq_and]
    rfl
  rw [hround, inOrder_snapshots_perm_iff, hfinal, hids, final_ids_nodup_iff]
  simp only [List.forall_mem_map, hmem]
  have hshown := @snapshot_ids_final_iff (fragments (bodyEvents parse [] chunks))
  exact ⟨fun ⟨h, h'⟩ => ⟨hshown.1 h, h'⟩, fun h => ⟨hshown.2 h.shown, h.distinct⟩⟩

end

/-! ## Streamed turns -/

/-- In every run of a streamed turn with a tool runtime, a round over an accepted body whose budget
is unused executes the calls of the final response, each once, exactly when the identifiers are
stable: it is over with exactly these calls, and at no point has it executed another. -/
theorem streamed_calls_executed_iff (service : ChatService)
    (hruntime : service.hasToolRuntime = true) (turn : ChatTurnRequest)
    {events : History ChatSig} {rest : Prog ChatSig (Except ChatError Unit)}
    (hpath : Path (service.streamTurnToEnd turn).run events rest) (provider : ProviderId)
    (parse : String → Except String OpenAiApiStreamResponse) (fallbackModel : String)
    (chunks : List (Except String (List UInt8)))
    (haccepted : (sseStream parse fallbackModel chunks).2 = .ok ())
    (hround : (roundLog events).streams.getLast? =
      some (adapterStream provider (sseStream parse fallbackModel chunks)))
    (hbudget : (roundLog events).streams.length ≤ service.policy.maxToolRoundTrips) :
    let calls := finalCalls (adapterStream provider (sseStream parse fallbackModel chunks))
    (∀ e after, Path (service.streamTurnToEnd turn).run (events ++ [e]) after → e.op.endsRound →
      (ExecutedOnce (roundLog events).executed calls ↔
        StableIds (fragments (bodyEvents parse [] chunks)))) ∧
    (StableIds (fragments (bodyEvents parse [] chunks)) →
      (roundLog events).executed.Subperm calls) := by
  have hrounds := streamTurn_rounds service hruntime turn
  have hperm := roundCalls_perm_finalCalls_iff provider haccepted
  refine ⟨fun e after hnext hends => ?_, fun hstable => ?_⟩
  · have hcomplete : (roundLog events).Complete service.policy.maxToolRoundTrips := by
      have hallowed := (hrounds.path hnext).1 events e [] rfl
      rcases e with ⟨op, answer⟩
      cases op with
      | stream modelRequest => exact hallowed
      | appendMessages sessionId messages => exact hallowed
      | _ => cases hends
    have hexecuted := hcomplete _ hround hbudget
    have hids : ((roundLog events).executed.map ToolCall.id).Nodup := by
      rw [hexecuted, (roundCalls_sseStream provider haccepted).2]
      exact (inOrder_increasing _).nodup
    rw [← hexecuted] at hperm
    exact ⟨fun h => hperm.1 h.same, fun h => ⟨hperm.2 h, hids⟩⟩
  · have hprefix := executed_prefix_roundCalls (fun before e after hsplit =>
      (hrounds.path hpath).1 before e after hsplit) _ hround
    exact hprefix.sublist.subperm.trans (hperm.2 hstable).subperm

/-! ## An identifier that comes late -/

/-- The line of an event. -/
def eventLine (payload : String) : List UInt8 :=
  s!"data: {payload}\n".toUTF8.data.toList

/-- The payload of an event with one fragment of a tool call. -/
def fragmentPayload (fragment : String) : String :=
  "\x7b\"choices\":[\x7b\"delta\":\x7b\"tool_calls\":[" ++ fragment ++ "]\x7d\x7d]\x7d"

/-- A fragment with the function of a call and one with its identifier. -/
def functionPayload : String :=
  fragmentPayload
    "\x7b\"index\":0,\"function\":\x7b\"name\":\"lookup\",\"arguments\":\"\x7b\x7d\"\x7d\x7d"

/-- A fragment with the identifier of a call. -/
def idPayload : String :=
  fragmentPayload "\x7b\"index\":0,\"id\":\"call_1\"\x7d"

/-- The event with one fragment. -/
def fragmentEvent (fragment : OpenAiApiDeltaToolCall) : OpenAiApiStreamResponse :=
  { model := none, choices := [⟨⟨none, some [fragment]⟩, none⟩] }

/-- The parser on these payloads. -/
def parseFragments (payload : String) : Except String OpenAiApiStreamResponse :=
  if payload = functionPayload then
    .ok (fragmentEvent ⟨some 0, none, some ⟨some "lookup", some "\x7b\x7d"⟩⟩)
  else if payload = idPayload then .ok (fragmentEvent ⟨some 0, some "call_1", none⟩)
  else .error "expected value at line 1 column 1"

/-- The body with the lines of payloads, one chunk a line. -/
def payloadChunks (payloads : List String) : List (Except String (List UInt8)) :=
  payloads.map fun payload => .ok (eventLine payload)

/-- The stream over that body. -/
def payloadStream (payloads : List String) : List OpenAiStreamChunk × Except ProviderError Unit :=
  sseStream parseFragments "gpt-4o-mini" (payloadChunks payloads)

/-- A provider that answers the user message over the given body, and then is done. -/
def streamingEnvironment (payloads : List String) : TurnEnvironment :=
  { complete := answerAfter []
    stream := fun request =>
      if request.messages.length = 1 then (payloadStream payloads).1.map (mapStreamChunk .openAi)
      else [.textDelta "done", .responseComplete (answerAfter [] request)]
    execute := fun _ call _ => .ok ⟨call.id, "result of " ++ call.id⟩
    prior := fun _ => [] }

/-- The events of a streamed turn over the body. -/
def streamingEvents (payloads : List String) : History ChatSig :=
  trace (streamingEnvironment payloads).handle
    (ChatService.streamTurnToEnd ⟨.default, true⟩ helloTurn).run {}

/-- A run of the turn up to an event, and with it. -/
theorem streamingEvents_paths (payloads : List String) (count : Nat)
    (hcount : (streamingEvents payloads)[count]?.map (·.op.endsRound) = some true) :
    (∃ rest, Path (ChatService.streamTurnToEnd ⟨.default, true⟩ helloTurn).run
        ((streamingEvents payloads).take count) rest) ∧
      ∃ e after, Path (ChatService.streamTurnToEnd ⟨.default, true⟩ helloTurn).run
        ((streamingEvents payloads).take count ++ [e]) after ∧ e.op.endsRound := by
  obtain ⟨e, he, hends⟩ := Option.map_eq_some_iff.mp hcount
  obtain ⟨hlength, rfl⟩ := List.getElem?_eq_some_iff.mp he
  have hwhole : Path (ChatService.streamTurnToEnd ⟨.default, true⟩ helloTurn).run
      (streamingEvents payloads) _ := path_trace _ _ _
  have hsplit := List.take_append_drop (count + 1) (streamingEvents payloads)
  rw [← List.take_concat_get' _ _ hlength] at hsplit
  rw [← hsplit] at hwhole
  obtain ⟨after, hafter, -⟩ := hwhole.split
  obtain ⟨rest, hrest, -⟩ := hafter.split
  exact ⟨⟨rest, hrest⟩, _, after, hafter, hends⟩

/-- A call whose arguments come after its identifier is executed once. -/
theorem streamed_calls_executed_iff_late_arguments :
    let payloads := [idPayload, functionPayload]
    let executed := (roundLog ((streamingEvents payloads).take 11)).executed
    StableIds (fragments (bodyEvents parseFragments [] (payloadChunks payloads))) ∧
      executed.Subperm (finalCalls (adapterStream .openAi (payloadStream payloads))) ∧
      executed = [⟨"call_1", "lookup", "\x7b\x7d"⟩] := by
  obtain ⟨⟨rest, hrest⟩, e, after, hafter, hends⟩ :=
    streamingEvents_paths [idPayload, functionPayload] 11 (by decide +kernel)
  obtain ⟨hover, hnever⟩ := streamed_calls_executed_iff ⟨.default, true⟩ rfl helloTurn hrest .openAi
    parseFragments "gpt-4o-mini" (payloadChunks [idPayload, functionPayload])
    (by decide +kernel) (by decide +kernel) (by decide +kernel)
  have hstable := (hover e after hafter hends).1 ⟨by decide +kernel, by decide +kernel⟩
  exact ⟨hstable, hnever hstable, by decide +kernel⟩

/-- A call whose identifier comes after its function is executed twice, once under the placeholder
that no final call has. -/
theorem placeholder_call_executed :
    let payloads := [functionPayload, idPayload]
    let events := (streamingEvents payloads).take 14
    let stream := adapterStream .openAi (payloadStream payloads)
    (payloadStream payloads).2 = .ok () ∧
      (∃ e after, Path (ChatService.streamTurnToEnd ⟨.default, true⟩ helloTurn).run
        (events ++ [e]) after ∧ e.op.endsRound) ∧
      (roundLog events).streams.getLast? = some stream ∧
      (roundLog events).streams.length ≤ ChatPolicy.default.maxToolRoundTrips ∧
      (roundLog events).executed =
        [⟨"call_1", "lookup", "\x7b\x7d"⟩, ⟨"tool_call_0", "lookup", "\x7b\x7d"⟩] ∧
      finalCalls stream = [⟨"call_1", "lookup", "\x7b\x7d"⟩] ∧
      ¬ ExecutedOnce (roundLog events).executed (finalCalls stream) := by
  refine ⟨by decide +kernel, ?_, by decide +kernel, by decide +kernel, by decide +kernel,
    by decide +kernel, fun h => ?_⟩
  · exact (streamingEvents_paths [functionPayload, idPayload] 14 (by decide +kernel)).2
  · exact absurd h.same.length_eq (by decide +kernel)

end Fiddlesticks.Chat

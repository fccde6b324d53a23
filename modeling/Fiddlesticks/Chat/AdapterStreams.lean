import Fiddlesticks.Chat.StreamedCalls
import Fiddlesticks.Provider.AdapterRequests
import Fiddlesticks.Provider.StreamedResponses

/-!
# The streams of the adapters

A chat turn takes it that the stream of a provider delivers the response that the provider would
have given as a whole (`StreamsResponse`). The adapters keep to that when their servers answer both
requests alike (`stream_delivers_response`).
-/

namespace Fiddlesticks.Chat

open Effect Prog Provider OpenAi

/-! ## Snapshots -/

/-- There are as many snapshots as fragments. -/
theorem deltas_snapshots_length (earlier : List OpenAiApiDeltaToolCall) (pieces : List Piece) :
    ((deltas earlier pieces).filterMap (·.snapshot)).length =
      (pieces.filterMap (·.fragmentOf)).length := by
  induction pieces generalizing earlier with
  | nil => rfl
  | cons piece pieces ih =>
      cases piece with
      | text delta => exact ih earlier
      | toolCall fragment => exact congrArg (· + 1) (ih _)

/-- Each snapshot is the one of a fragment, and those after it are the ones of later fragments. -/
theorem snapshots_split {events : List OpenAiApiStreamResponse} {before after : List OpenAiToolCall}
    {call : OpenAiToolCall}
    (h : (deltas [] (pieces events)).filterMap (·.snapshot) = before ++ call :: after) :
    ∃ first fragment rest, fragments events = first ++ fragment :: rest ∧
      call = callAfter (first ++ [fragment]) fragment.callIndex ∧
      ∀ mid later tail, rest = mid ++ later :: tail →
        callAfter (first ++ fragment :: mid ++ [later]) later.callIndex ∈ after := by
  have hfragments := pieces_fragments events
  have hlength : before.length < (fragments events).length := by
    rw [← hfragments, ← deltas_snapshots_length [], h, List.length_append, List.length_cons]
    omega
  have hsplit : fragments events = (fragments events).take before.length ++
      (fragments events)[before.length] :: (fragments events).drop (before.length + 1) := by
    rw [List.getElem_cons_drop, List.take_append_drop]
  have hfirst : ((fragments events).take before.length).length = before.length :=
    List.length_take_of_le hlength.le
  refine ⟨_, _, _, hsplit, ?_, ?_⟩
  · have hsnapshot := @deltas_snapshot [] _ _ _ _ (hfragments.trans hsplit)
    rw [h, hfirst, List.getElem?_append_right le_rfl, Nat.sub_self] at hsnapshot
    exact Option.some.inj hsnapshot
  · intro mid later tail hrest
    have hlater : fragments events = ((fragments events).take before.length ++
        (fragments events)[before.length] :: mid) ++ later :: tail := by
      rw [List.append_assoc, List.cons_append, ← hrest]
      exact hsplit
    have hsnapshot := @deltas_snapshot [] _ _ _ _ (hfragments.trans hlater)
    rw [h, List.length_append, hfirst, List.getElem?_append_right (Nat.le_add_right _ _),
      Nat.add_sub_cancel_left, List.length_cons, List.getElem?_cons_succ] at hsnapshot
    exact List.mem_of_getElem? hsnapshot

/-! ## The events of a stream -/

/-- Texts are joined from the right. -/
theorem join_eq_foldr (texts : List String) : String.join texts = texts.foldr (· ++ ·) "" := by
  induction texts with
  | nil => rfl
  | cons text texts ih => rw [String.join_cons, ih, List.foldr_cons]

/-- The text of a response is that of its message. -/
theorem responseText_intoModelResponse (provider : ProviderId) (response : OpenAiResponse) :
    responseText (response.intoModelResponse provider) = response.message.content := by
  have hcalls : ∀ calls : List OpenAiToolCall,
      (collectOutput (calls.map fun call => .toolCall call.toToolCall)).1 = "" := by
    intro calls
    induction calls with
    | nil => rfl
    | cons call calls ih => exact ih
  rw [responseText, OpenAiResponse.intoModelResponse]
  by_cases hempty : response.message.content = ""
  · rw [if_pos hempty, List.nil_append, hcalls, hempty]
  · simp only [if_neg hempty, List.cons_append, List.nil_append, collectOutput, if_true, hcalls,
      String.append_empty]

/-- The chat layer sees the texts of the chunks. -/
theorem deltaText_mapStreamChunk (provider : ProviderId) (items : List OpenAiStreamChunk) :
    (items.map (mapStreamChunk provider)).filterMap deltaText = items.filterMap (·.text) := by
  rw [List.filterMap_map]
  congr 1
  funext item
  cases item <;> rfl

/-- A body that conveys a response streams events that deliver it. -/
theorem streamsResponse_of_conveys (provider : ProviderId) {asked : String}
    {events : List OpenAiApiStreamResponse} {response : OpenAiResponse}
    (h : Conveys asked events response) :
    StreamsResponse ((withoutUsage response).intoModelResponse provider)
      ((deltas [] (pieces events) ++ [OpenAiStreamChunk.messageComplete response.message,
        .responseComplete (withoutUsage response)]).map (mapStreamChunk provider)) := by
  obtain ⟨hdeltas, hsnapshots⟩ := deltas_mapStreamChunk provider (deltas_isDelta [] (pieces events))
  obtain ⟨indices, -, hindices, hcalls⟩ := h.calls
  have hresponseCalls : responseCalls ((withoutUsage response).intoModelResponse provider) =
      (indices.map (callAfter (fragments events))).map (·.toToolCall) := by
    rw [hcalls]
    exact responseCalls_intoModelResponse provider (withoutUsage response)
  have hfinal : ∀ fragment ∈ fragments events,
      (callAfter (fragments events) fragment.callIndex).toToolCall ∈
        responseCalls ((withoutUsage response).intoModelResponse provider) := by
    intro fragment hfragment
    rw [hresponseCalls]
    exact List.mem_map_of_mem (List.mem_map_of_mem ((hindices _).mpr ⟨fragment, hfragment, rfl⟩))
  refine ⟨(deltas [] (pieces events)).map (mapStreamChunk provider),
    some ⟨.assistant, response.message.content⟩, ?_, hdeltas, ?_, ?_⟩
  · rw [List.map_append]
    rfl
  · rw [deltaText_mapStreamChunk, deltas_text, ← join_eq_foldr]
    exact h.content.trans (responseText_intoModelResponse provider (withoutUsage response)).symm
  · intro before call after hsplit
    rw [hsnapshots, List.map_eq_append_iff] at hsplit
    obtain ⟨earlier, later, hsnapshots, rfl, hlater⟩ := hsplit
    obtain ⟨snapshot, later, rfl, rfl, rfl⟩ := List.map_eq_cons_iff.mp hlater
    obtain ⟨first, fragment, rest, hfragments, rfl, hrest⟩ := snapshots_split hsnapshots
    have hmem : fragment ∈ fragments events := by simp [hfragments]
    have hid := h.ids first fragment rest hfragments
    refine ⟨⟨_, hfinal fragment hmem, hid.symm⟩, fun hlast => ?_⟩
    -- A later fragment of the same call would show its identifier again.
    have hothers : ∀ other ∈ rest, other.callIndex ≠ fragment.callIndex := by
      intro other hother hindex
      obtain ⟨mid, tail, rfl⟩ := List.append_of_mem hother
      refine hlast _ (List.mem_map_of_mem (hrest mid other tail rfl)) ?_
      have hotherId := h.ids (first ++ fragment :: mid) other tail (by simpa using hfragments)
      show idAfter _ _ = idAfter _ _
      rw [hotherId, hindex, hid]
    have hcall : callAfter (first ++ [fragment] ++ rest) fragment.callIndex = _ :=
      callAfter_append_others hothers
    rw [← List.append_cons, ← hfragments] at hcall
    rw [← hcall]
    exact hfinal fragment hmem

/-- The message of that stream has the text of the response. -/
theorem streamedText_of_conveys (provider : ProviderId) (events : List OpenAiApiStreamResponse)
    (response : OpenAiResponse) :
    streamedText ((withoutUsage response).intoModelResponse provider)
      ((deltas [] (pieces events) ++ [OpenAiStreamChunk.messageComplete response.message,
        .responseComplete (withoutUsage response)]).map (mapStreamChunk provider)) =
      responseText ((withoutUsage response).intoModelResponse provider) := by
  have hdeltas := (deltas_mapStreamChunk provider (deltas_isDelta [] (pieces events))).1
  have htext := responseText_intoModelResponse provider (withoutUsage response)
  rw [streamedText, List.map_append, List.filterMap_append,
    filterMap_messageText_deltas hdeltas, List.nil_append]
  split
  · rename_i hempty
    have hcontent : response.message.content = "" := htext.symm.trans hempty
    rw [hempty]
    simp only [List.map_cons, List.map_nil, mapStreamChunk, hcontent]
    rfl
  · rfl

/-! ## Both ways to ask -/

/-- A call and its stream fail with the same error, or the stream delivers the response and leaves
its text. -/
inductive Delivered : Except ProviderError ModelResponse →
    Except ProviderError (List StreamEvent × Except ProviderError Unit) → Prop where
  | failed (error : ProviderError) : Delivered (.error error) (.error error)
  | delivered {response : ModelResponse} {events : List StreamEvent}
      (h : StreamsResponse { response with usage := {} } events)
      (htext : streamedText { response with usage := {} } events = responseText response) :
      Delivered (.ok response) (.ok (events, .ok ()))

/-- The two programs of an adapter are related. -/
theorem complete_related_stream (json : SerdeJson) (adapter : Adapter) (request : ModelRequest) :
    let asked := buildOpenAiRequest adapter.fallbackModel request false
    Related (EventMirrors json asked.model) (fun _ => false) (fun _ => false)
      (fun _ _ => Delivered) [] [] (adapter.complete json request).run
      (adapter.stream json request).run := by
  intro asked
  rw [adapter.complete_eq, adapter.stream_eq]
  refine Related.except_seq (Q := fun _ _ => RepliesMirror json asked.model)
    (ask_mirrors adapter request rfl) ?_ ?_ ?_
  · intro h h' reply reply' hreplies
    cases hreplies with
    | conveyed hparsed hcarries hconveys =>
        rw [hparsed]
        refine .pure ?_
        show Delivered _ (.ok ((sseStream _ asked.model _).1.map _, (sseStream _ asked.model _).2))
        rw [hconveys.stream hcarries]
        exact .delivered (streamsResponse_of_conveys _ hconveys) (streamedText_of_conveys _ _ _)
  · rintro h h' error result ⟨⟩
    exact ⟨rfl, .failed error⟩
  · rintro h h' reply error ⟨⟩

/-- Against servers that answer a plain request and one for a stream alike, `complete` and `stream`
of an adapter come to the same: the stream fails with the error of the call, or it delivers the
response of the call, but for its usage. Each of the two returns when the other one does. -/
theorem stream_delivers_response (json : SerdeJson) (adapter : Adapter) (request : ModelRequest)
    {events events' : History AdapterSig}
    (hmirror : List.Forall₂ (EventMirrors json
      (buildOpenAiRequest adapter.fallbackModel request false).model) events events') :
    (∀ result, Path (adapter.complete json request).run events (.pure result) →
      ∃ result', Path (adapter.stream json request).run events' (.pure result') ∧
        Delivered result result') ∧
    (∀ result', Path (adapter.stream json request).run events' (.pure result') →
      ∃ result, Path (adapter.complete json request).run events (.pure result) ∧
        Delivered result result') := by
  have hrelated := complete_related_stream json adapter request
  refine ⟨fun result hpath => ?_, fun result' hpath => ?_⟩
  · obtain ⟨found, result', hpath', hvisible, hdelivered⟩ :=
      hrelated.path (fun _ => nofun) hpath (by rwa [visible_of_none])
    rw [visible_of_none] at hvisible
    exact ⟨result', hvisible ▸ hpath', hdelivered⟩
  · obtain ⟨found, result, hpath', hvisible, hdelivered⟩ :=
      hrelated.symm.path (fun _ => nofun) hpath
        (visible_of_none events' ▸ List.Forall₂.flip hmirror)
    rw [visible_of_none] at hvisible
    exact ⟨result, hvisible ▸ hpath', hdelivered⟩

/-! ## A model that wants the limit under its other name -/

/-- A request with a token limit. -/
def greeting : ModelRequest :=
  { model := "llama", messages := [⟨.user, "hello"⟩], options := { maxTokens := some 64 }
    tools := [], toolResults := [], metadata := ∅ }

/-- The request of the adapter for it. -/
def greetingPost : HttpPost :=
  { url := "http://localhost:11434/v1/chat/completions"
    header := { name := "authorization", value := "Bearer ollama-local" }
    body :=
      { model := "llama", messages := [⟨"user", "hello", none⟩], tools := none, temperature := none
        maxTokens := some 64, maxCompletionTokens := none, stream := false } }

/-- The payload of an event with a part of the text. -/
def textPayload : String :=
  "\x7b\"choices\":[\x7b\"delta\":\x7b\"content\":\"I look it up.\"\x7d\x7d]\x7d"

/-- The payload of the last event. -/
def finishPayload : String :=
  "\x7b\"choices\":[\x7b\"delta\":\x7b\x7d,\"finish_reason\":\"tool_calls\"\x7d]\x7d"

/-- The events of the stream: a text, a tool call in two fragments, and the end. -/
def lookupEvents : List OpenAiApiStreamResponse :=
  [{ model := none, choices := [⟨⟨some "I look it up.", none⟩, none⟩] },
    fragmentEvent ⟨some 0, some "call_1", none⟩,
    fragmentEvent ⟨some 0, none, some ⟨some "lookup", some "\x7b\x7d"⟩⟩,
    { model := none, choices := [⟨⟨none, none⟩, some "tool_calls"⟩] }]

/-- The parsers on the bodies of this server. -/
def lookupJson : SerdeJson :=
  { value := fun _ => none
    errorEnvelope := fun text =>
      if text = refusalText then some "Use 'max_completion_tokens' instead." else none
    streamResponse := fun payload =>
      if payload = textPayload then
        .ok { model := none, choices := [⟨⟨some "I look it up.", none⟩, none⟩] }
      else if payload = finishPayload then
        .ok { model := none, choices := [⟨⟨none, none⟩, some "tool_calls"⟩] }
      else parseFragments payload }

/-- The refusal of the first request. -/
def refusal : HttpReply :=
  { status := ⟨400, some "Bad Request"⟩, text := .ok refusalText
    json := .error ⟨false, "no choices"⟩, chunks := [] }

/-- The whole response. -/
def wholeReply : HttpReply :=
  { status := ⟨200, some "OK"⟩, text := .ok ""
    json := .ok
      { model := "llama"
        choices := [⟨⟨some "I look it up.", some [⟨"call_1", ⟨"lookup", "\x7b\x7d"⟩⟩]⟩,
          some "tool_calls"⟩]
        usage := some ⟨9, 5, 14⟩ }
    chunks := [] }

/-- The body of its stream. -/
def streamedBody : List UInt8 :=
  [textPayload, idPayload, functionPayload, finishPayload, "[DONE]"].flatMap eventLine

/-- Its stream, in two chunks that cut a line. -/
def streamedReply : HttpReply :=
  { status := ⟨200, some "OK"⟩, text := .ok "", json := .error ⟨false, "no choices"⟩
    chunks := [.ok (streamedBody.take 20), .ok (streamedBody.drop 20)] }

/-- The response as the adapter gives it. -/
def lookupResponse : ModelResponse :=
  { provider := .ollama, model := "llama"
    output := [.message ⟨.assistant, "I look it up."⟩,
      .toolCall ⟨"call_1", "lookup", "\x7b\x7d"⟩]
    stopReason := .toolUse, usage := ⟨9, 5, 14⟩ }

/-- What the adapter sends and is answered. -/
def greetingEvents : History AdapterSig :=
  [⟨.post greetingPost, .ok refusal⟩,
    ⟨.post (OpenAiHttpTransport.renameLimit greetingPost), .ok wholeReply⟩]

/-- The same with a stream. -/
def streamedEvents : History AdapterSig :=
  [⟨.post (OpenAiHttpTransport.withStream true greetingPost), .ok refusal⟩,
    ⟨.post (OpenAiHttpTransport.withStream true (OpenAiHttpTransport.renameLimit greetingPost)),
      .ok streamedReply⟩]

/-- The lines of the body. -/
def streamedLines : List (List Char) :=
  [textPayload, idPayload, functionPayload, finishPayload, "[DONE]"].map fun payload =>
    s!"data: {payload}\n".toList

/-- The chunks of the demo carry its events. -/
theorem streamedReply_carries :
    Carries lookupJson.streamResponse lookupEvents streamedReply.chunks := by
  have htexts : List.Forall₂ (fun chunk text => Utf8.decode chunk = .ok text)
      [streamedBody.take 20, streamedBody.drop 20]
      [streamedLines.flatten.take 20, streamedLines.flatten.drop 20] :=
    .cons (by decide +kernel) (.cons (by decide +kernel) .nil)
  have hlines : (completeLines [streamedLines.flatten.take 20,
      streamedLines.flatten.drop 20].flatten).1 =
        streamedLines.take 4 ++ "data: [DONE]\n".toList :: [] := by
    decide +kernel
  have hpayloads : (streamedLines.take 4).filterMap linePayload =
      [textPayload, idPayload, functionPayload, finishPayload] := by
    decide +kernel
  refine .intro htexts hlines ⟨?_, ?_⟩ (by decide +kernel) []
  · rw [hpayloads]
    decide +kernel
  · rw [hpayloads]
    rfl

/-- The call of the demo comes in two fragments. -/
theorem lookupEvents_fragments : fragments lookupEvents =
    [⟨some 0, some "call_1", none⟩, ⟨some 0, none, some ⟨some "lookup", some "\x7b\x7d"⟩⟩] := rfl

/-- The events of the demo convey its response. -/
theorem lookupEvents_conveys : Conveys "llama" lookupEvents
    { model := "llama", message := ⟨"I look it up.", [⟨"call_1", "lookup", "\x7b\x7d"⟩]⟩
      finishReason := .toolCalls, usage := ⟨9, 5, 14⟩ } where
  model := rfl
  content := by decide +kernel
  calls := ⟨[0], by decide, by simp [lookupEvents_fragments, OpenAiApiDeltaToolCall.callIndex,
    eq_comm], by decide +kernel⟩
  ids first fragment rest h := by
    rw [lookupEvents_fragments] at h
    rcases first with _ | ⟨_, _ | ⟨_, first⟩⟩
    · cases h
      decide +kernel
    · cases h
      decide +kernel
    · simp at h
  finishReason := rfl

/-- The stream of a response with a text and a tool call delivers it. -/
theorem stream_delivers_response_demo :
    ∃ result', Path ((OllamaProvider.new OllamaProvider.defaultHttpTransport).stream lookupJson
        greeting).run streamedEvents (.pure result') ∧
      Delivered (.ok lookupResponse) result' := by
  have hmirror : List.Forall₂ (EventMirrors lookupJson "llama") greetingEvents streamedEvents :=
    .cons (.post rfl rfl (.rejected rfl rfl rfl))
      (.cons (.post rfl rfl
        (.conveyed rfl rfl rfl streamedReply_carries lookupEvents_conveys)) .nil)
  have hpath : Path ((OllamaProvider.new OllamaProvider.defaultHttpTransport).complete lookupJson
      greeting).run greetingEvents (.pure (.ok lookupResponse)) :=
    .cons (.cons (.nil _))
  exact (stream_delivers_response lookupJson (OllamaProvider.new
    OllamaProvider.defaultHttpTransport) greeting hmirror).1 _ hpath

end Fiddlesticks.Chat

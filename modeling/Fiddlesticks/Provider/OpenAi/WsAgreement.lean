import Fiddlesticks.Effect.Relational
import Fiddlesticks.Provider.OpenAi.ResponseAssembly
import Fiddlesticks.Provider.OpenAi.ResponsesWs

/-!
# Streamed and whole responses of the websocket transport

`complete` and `stream` keep different accounts of a connection: one clears its socket when it
fails, the other one hands out chunks. What they send is the same for the same answers, and the
stream hands out what `complete` returns (`ws_stream_agrees_with_complete`).
-/

namespace Fiddlesticks.Provider.OpenAi

open Effect Prog

/-! ## What a call keeps from its socket -/

/-- The operation changes the state of the connection. -/
def WsOp.assigns : WsOp → Bool
  | .assign _ => true
  | _ => false

/-- The operation changes the state of the connection or hands out a chunk. -/
def WsOp.assignsOrYields : WsOp → Bool
  | .assign _ | .yield _ => true
  | _ => false

/-- The chunk that an event hands out. -/
def handedChunk : Event WsSig → Option OpenAiStreamChunk
  | ⟨.yield chunk, _⟩ => some chunk
  | _ => none

/-- The chunks that a stream hands out. -/
def handedOut (h : History WsSig) : List OpenAiStreamChunk :=
  h.filterMap handedChunk

/-- The stream hands out deltas, and ends with the message and the response that `complete` returns,
or with its error. -/
inductive StreamedAs : List OpenAiStreamChunk → Except ProviderError OpenAiResponse →
    Except ProviderError Unit → Prop where
  | answered {deltas response} (hdeltas : ∀ chunk ∈ deltas, chunk.isDelta) :
      StreamedAs (deltas ++ [.messageComplete response.message, .responseComplete response])
        (.ok response) (.ok ())
  | failed {deltas error} (hdeltas : ∀ chunk ∈ deltas, chunk.isDelta) :
      StreamedAs deltas (.error error) (.error error)

/-- Storing the connection hands out nothing. -/
theorem handedOut_assign (h : History WsSig) (state : WsConnectionState) (answer : Unit) :
    handedOut (h ++ [⟨.assign state, answer⟩]) = handedOut h := by
  simp [handedOut, handedChunk]

/-- A yielded chunk is handed out last. -/
theorem handedOut_yield (h : History WsSig) (chunk : OpenAiStreamChunk) (answer : Unit) :
    handedOut (h ++ [⟨.yield chunk, answer⟩]) = handedOut h ++ [chunk] := by
  simp [handedOut, handedChunk]

/-- Chunks are handed out by hidden operations. -/
theorem handedOut_concealed (h : History WsSig) :
    handedOut (concealed WsOp.assignsOrYields h) = handedOut h := by
  induction h with
  | nil => rfl
  | cons e h ih =>
      obtain ⟨op, answer⟩ := e
      cases hop : op.assignsOrYields with
      | true =>
          rw [handedOut, handedOut] at ih
          rw [concealed_cons_hidden _ hop, handedOut, handedOut, List.filterMap_cons,
            List.filterMap_cons, ih]
      | false =>
          rw [concealed_cons_visible _ hop, ih, handedOut, handedOut, List.filterMap_cons_none]
          cases op <;> first | rfl | cases hop

/-! ## The chunks of an event -/

section

variable (accumulator : ResponsesEventAccumulator) (event : JsonValue)

/-- A text delta gives deltas only. -/
theorem handleTextDelta_deltas :
    ∀ chunk ∈ (accumulator.handleTextDelta event).1, chunk.isDelta := by
  unfold ResponsesEventAccumulator.handleTextDelta
  by_cases hempty : (event.getStr "delta").getD "" = ""
  · simp [hempty]
  · simp [hempty, OpenAiStreamChunk.isDelta]

/-- A delta of arguments gives deltas only. -/
theorem handleArgumentsDelta_deltas :
    ∀ chunk ∈ (accumulator.handleArgumentsDelta event).1, chunk.isDelta := by
  simp [ResponsesEventAccumulator.handleArgumentsDelta, ResponsesEventAccumulator.showEntry,
    OpenAiStreamChunk.isDelta]

/-- An output item gives deltas only. -/
theorem handleOutputItem_deltas :
    ∀ chunk ∈ (accumulator.handleOutputItem event).1, chunk.isDelta := by
  unfold ResponsesEventAccumulator.handleOutputItem
  cases event.get "item" with
  | none => simp
  | some item =>
      by_cases hcall : item.getStr "type" = some "function_call"
      · simp [hcall, ResponsesEventAccumulator.showEntry, OpenAiStreamChunk.isDelta]
      · by_cases hmessage : item.getStr "type" = some "message" ∧ accumulator.text = "" <;>
          simp [hcall, hmessage]

end

/-- An event gives deltas, or the message and the response that end the stream. -/
theorem handleEvent_chunks {accumulator next : ResponsesEventAccumulator} {event : JsonValue}
    {chunks : List OpenAiStreamChunk} (h : accumulator.handleEvent event = .ok (chunks, next)) :
    (∀ chunk ∈ chunks, chunk.isDelta) ∨ ∃ response : OpenAiResponse,
      chunks = [.messageComplete response.message, .responseComplete response] := by
  by_cases hterminal : IsTerminal event
  · obtain ⟨response, -, hevent⟩ := handleEvent_terminal accumulator hterminal
    rw [hevent] at h
    cases h
    exact .inr ⟨response, rfl⟩
  · left
    have htext := handleTextDelta_deltas accumulator event
    have harguments := handleArgumentsDelta_deltas accumulator event
    have hitem := handleOutputItem_deltas accumulator event
    unfold ResponsesEventAccumulator.handleEvent at h
    split at h
    case h_1 => cases h
    case h_2 => rwa [Except.ok.inj h] at htext
    case h_3 => rwa [Except.ok.inj h] at harguments
    case h_4 | h_5 => rwa [Except.ok.inj h] at hitem
    case h_6 htype => exact absurd (.inl htype) hterminal
    case h_7 htype => exact absurd (.inr (.inl htype)) hterminal
    case h_8 htype => exact absurd (.inr (.inr (.inl htype))) hterminal
    case h_9 htype => exact absurd (.inr (.inr (.inr htype))) hterminal
    case h_10 =>
      cases h
      simp

/-- A message gives deltas only or the message and the response of its end. -/
theorem handleText_chunks {fromStr : String → Except String JsonValue}
    {accumulator next : ResponsesEventAccumulator} {text : String} {chunks : List OpenAiStreamChunk}
    (h : handleText fromStr accumulator text = .ok (chunks, next)) :
    (∀ chunk ∈ chunks, chunk.isDelta) ∨ ∃ response : OpenAiResponse,
      chunks = [.messageComplete response.message, .responseComplete response] := by
  unfold handleText at h
  cases hevent : fromStr text with
  | error error =>
      rw [hevent] at h
      cases h
  | ok event =>
      rw [hevent] at h
      exact handleEvent_chunks h

/-- A delta has no response. -/
theorem response_of_isDelta {chunk : OpenAiStreamChunk} (h : chunk.isDelta) :
    chunk.response = none := by
  cases chunk <;> first | rfl | cases h

/-! ## Related calls -/

/-- Both programs ask the same of their connection. -/
abbrev SameConnection {α β : Type} (Q : History WsSig → α → β → Prop) (seen seen' : History WsSig)
    (p : Prog WsSig α) (q : Prog WsSig β) : Prop :=
  Related (S := WsSig) (T := WsSig) Eq WsOp.assigns WsOp.assignsOrYields (fun _ h' => Q h') seen
    seen' p q

/-- Nothing has been handed out since, and the outcomes are the same. -/
abbrev SameOutcome {α : Type} (seen' : History WsSig) (h' : History WsSig) (outcome outcome' : α) :
    Prop :=
  handedOut h' = handedOut seen' ∧ outcome = outcome'

section

variable {seen seen' : History WsSig}

/-- Both connect in the same way. -/
theorem ensureConnection_same (url : String) (state : WsConnectionState) (auth : OpenAiAuth) :
    SameConnection (SameOutcome seen') seen seen' (ensureConnection url state auth).run
      (ensureConnection url state auth).run := by
  unfold ensureConnection
  refine Related.request_seq rfl rfl (Counterpart.eq _) ?_
  rintro now _ ⟨⟩
  by_cases hstale : state.shouldReconnect now (authCacheKey auth)
  · simp only [hstale, if_true]
    refine Related.left_seq rfl fun _ => Related.right_seq rfl fun _ => ?_
    refine .both rfl rfl (Counterpart.eq _) ?_
    rintro answer _ ⟨⟩
    cases answer with
    | error error => exact .pure ⟨handedOut_assign _ _ _, rfl⟩
    | ok socket =>
        refine Related.left_seq rfl fun _ => Related.right_seq rfl fun _ => .pure ⟨?_, rfl⟩
        rw [handedOut_assign, handedOut_assign]
  · simp only [hstale]
    exact .pure ⟨rfl, rfl⟩

/-- Both send the same frames. -/
theorem send_same (socket : SocketId) (frame : WsFrame) :
    SameConnection (SameOutcome seen') seen seen' (orTransportError (send socket frame)).run
      (orTransportError (send socket frame)).run := by
  refine .both rfl rfl (Counterpart.eq _) ?_
  rintro answer _ ⟨⟩
  cases answer with
  | error error => exact .pure ⟨rfl, rfl⟩
  | ok _ =>
      refine .both rfl rfl (Counterpart.eq _) ?_
      rintro answer _ ⟨⟩
      exact .pure ⟨rfl, rfl⟩

/-- The chunks of an event are handed out, and the stream goes on. -/
theorem yieldChunks_right {α : Type} {Q : History WsSig → Except ProviderError α →
    Except ProviderError Unit → Prop} {p : WsExecution α} {g : Unit → WsExecution Unit}
    {chunks : List OpenAiStreamChunk}
    (hnext : ∀ later, handedOut later = handedOut seen' ++ chunks →
      SameConnection Q seen later p.run (g ()).run) :
    SameConnection Q seen seen' p.run (yieldChunks chunks >>= g).run := by
  induction chunks generalizing seen' with
  | nil => exact hnext seen' (List.append_nil _).symm
  | cons chunk chunks ih =>
      rw [yieldChunks, LawfulMonad.bind_assoc]
      refine Related.right_seq rfl fun _ => ih fun later hlater => hnext later ?_
      rw [hlater, handedOut_yield, List.append_assoc]
      rfl

variable (fromStr : String → Except String JsonValue)

/-- Both calls send the request in the same steps. -/
theorem sendCreateRequest_same (socket : SocketId) (request : OpenAiRequest) :
    SameConnection (SameOutcome seen') seen seen' (sendCreateRequest fromStr socket request).run
      (sendCreateRequest fromStr socket request).run :=
  Related.check_seq (fun _ hpayload => ⟨_, hpayload, send_same socket _⟩)
    fun _ hpayload => ⟨hpayload, rfl, rfl⟩

/-- The loops of `complete` and `stream` read the same messages. -/
theorem loops_agree (state : WsConnectionState) (socket : SocketId) (fuel : Nat)
    (accumulator : ResponsesEventAccumulator)
    (hdeltas : ∀ chunk ∈ handedOut seen', chunk.isDelta) :
    SameConnection (fun h' => StreamedAs (handedOut h')) seen seen'
      (completeLoop fromStr state socket fuel accumulator).run
      (streamLoop fromStr socket fuel accumulator).run := by
  induction fuel generalizing accumulator seen seen' with
  | zero =>
      refine .both rfl rfl (Counterpart.eq _) ?_
      rintro ⟨⟩
  | succ fuel ih =>
      refine Related.request_seq rfl rfl (Counterpart.eq _) ?_
      rintro answer _ ⟨⟩
      rcases answer with _ | error | text | payload | _ | _
      · exact Related.left_seq rfl fun _ => .pure (.failed hdeltas)
      · exact Related.left_seq rfl fun _ => .pure (.failed hdeltas)
      · refine Related.check_seq (fun result hresult => ⟨result, hresult, ?_⟩)
          fun error hresult => ⟨hresult, .failed hdeltas⟩
        obtain ⟨chunks, next⟩ := result
        refine yieldChunks_right fun later hlater => ?_
        rcases handleText_chunks hresult with hchunks | ⟨response, rfl⟩
        · -- Deltas leave both loops running.
          have hnone : chunks.findSome? OpenAiStreamChunk.response = none :=
            List.findSome?_eq_none_iff.mpr fun chunk hchunk =>
              response_of_isDelta (hchunks chunk hchunk)
          have hany : chunks.any (·.response.isSome) = false :=
            List.any_eq_false.mpr fun chunk hchunk => by
              simp [response_of_isDelta (hchunks chunk hchunk)]
          simp only [hnone, hany]
          refine ih next fun chunk hchunk => ?_
          rw [hlater, List.mem_append] at hchunk
          exact hchunk.elim (hdeltas chunk) (hchunks chunk)
        · refine .pure ?_
          show StreamedAs (handedOut later) _ _
          rw [hlater]
          exact .answered hdeltas
      · refine Related.except_seq (send_same socket (.pong payload)) ?_ ?_ ?_
        · rintro h h' _ _ ⟨hhanded, -⟩
          exact ih accumulator (hhanded ▸ hdeltas)
        · rintro h h' error result ⟨hhanded, rfl⟩
          exact ⟨rfl, .failed (hhanded ▸ hdeltas)⟩
        · rintro h h' _ error ⟨-, ⟨⟩⟩
      · exact Related.left_seq rfl fun _ => .pure (.failed hdeltas)
      · exact ih accumulator hdeltas

/-- The two calls are related. -/
theorem complete_alike_stream (url : String) (fuel : Nat) (request : OpenAiRequest)
    (auth : OpenAiAuth) (streamed : Bool) :
    SameConnection (fun h' => StreamedAs (handedOut h')) [] []
      (complete fromStr url fuel request auth).run
      (stream fromStr url fuel { request with stream := streamed } auth).run := by
  refine Related.request_seq rfl rfl (Counterpart.eq _) ?_
  rintro state _ ⟨⟩
  refine Related.except_seq (ensureConnection_same url state auth) ?_ ?_ ?_
  · rintro h h' state _ ⟨hhanded, ⟨⟩⟩
    have hnone : ∀ chunk ∈ handedOut h', chunk.isDelta := by
      rw [hhanded]
      nofun
    obtain ⟨socket, connectedAt, authCacheKey⟩ := state
    cases socket with
    | none => exact .pure (.failed hnone)
    | some socket =>
        simp only [ExceptT.run_bind_lift]
        refine Related.bind (sendCreateRequest_same fromStr socket request) ?_
        rintro h h' outcome _ ⟨hsent, rfl⟩
        rw [← hsent] at hnone
        cases outcome with
        | error error => exact Related.left_seq rfl fun _ => .pure (.failed hnone)
        | ok _ => exact loops_agree fromStr _ socket fuel _ hnone
  · rintro h h' error result ⟨hhanded, rfl⟩
    refine ⟨rfl, .failed ?_⟩
    rw [hhanded]
    nofun
  · rintro h h' _ error ⟨-, ⟨⟩⟩

end

/-- A `complete` call and a `stream` call over the same connection, which answers both alike, take
the same steps on it. The stream hands out deltas and then the message and the response that
`complete` returns, or it hands out deltas and fails with the error of `complete`. -/
theorem ws_stream_agrees_with_complete (fromStr : String → Except String JsonValue) (url : String)
    (fuel : Nat) (request : OpenAiRequest) (auth : OpenAiAuth) (streamed : Bool) :
    (∀ events result, Path (complete fromStr url fuel request auth).run events (.pure result) →
      ∃ events' result',
        Path (stream fromStr url fuel { request with stream := streamed } auth).run events'
          (.pure result') ∧
        visible WsOp.assignsOrYields events' = visible WsOp.assigns events ∧
        StreamedAs (handedOut events') result result') ∧
    (∀ events' result',
      Path (stream fromStr url fuel { request with stream := streamed } auth).run events'
        (.pure result') →
      ∃ events result, Path (complete fromStr url fuel request auth).run events (.pure result) ∧
        visible WsOp.assigns events = visible WsOp.assignsOrYields events' ∧
        StreamedAs (handedOut events') result result') := by
  have hrelated := complete_alike_stream fromStr url fuel request auth streamed
  have hanswer : ∀ op : WsOp, op.assignsOrYields = true → Nonempty op.Answer := by
    intro op hop
    cases op <;> first | exact ⟨()⟩ | cases hop
  have hanswer' : ∀ op : WsOp, op.assigns = true → Nonempty op.Answer := by
    intro op hop
    cases op <;> first | exact ⟨()⟩ | cases hop
  refine ⟨fun events result hpath => ?_, fun events' result' hpath => ?_⟩
  · obtain ⟨events', result', hpath', hvisible, hstreamed⟩ :=
      hrelated.path hanswer hpath (List.forall₂_refl _)
    refine ⟨events', result', hpath', hvisible, ?_⟩
    rwa [List.nil_append, handedOut_concealed] at hstreamed
  · obtain ⟨events, result, hpath', hvisible, hstreamed⟩ :=
      hrelated.symm.path hanswer' hpath (List.forall₂_same.mpr fun _ _ => rfl)
    refine ⟨events, result, hpath', hvisible, ?_⟩
    rwa [List.nil_append, handedOut_concealed] at hstreamed

/-- The text of an event with a part of the answer. -/
def helloPayload : String :=
  "\x7b\"type\":\"response.output_text.delta\",\"delta\":\"Hello\"\x7d"

/-- The text of the event that completes the response. -/
def completedPayload : String :=
  "\x7b\"type\":\"response.completed\"," ++
    "\"response\":\x7b\"status\":\"completed\",\"output\":[]\x7d\x7d"

/-- The parser on these texts. -/
def parseHello (text : String) : Except String JsonValue :=
  if text = helloPayload then .ok (textEvent "Hello")
  else if text = completedPayload then .ok (completedEvent [])
  else .error "expected value at line 1 column 1"

/-- A request. -/
def plainRequest : OpenAiRequest :=
  { model := "gpt-4o-mini", messages := [⟨.user, "hello", none⟩], tools := [], temperature := none
    maxTokens := none, stream := false }

/-- The frame for it. -/
def plainFrame : WsFrame :=
  .create ((buildResponseCreatePayload (fun text => (parseHello text).toOption)
    plainRequest).toOption.getD .null)

/-- A call that opens a socket and gets these events. -/
def plainEvents : History WsSig :=
  [⟨.lock, {}⟩, ⟨.now, (0 : Nat)⟩, ⟨.assign {}, ()⟩,
    ⟨.connect "wss://api.openai.com/v1/responses" ⟨"authorization", "Bearer sk-1"⟩, .ok (7 : Nat)⟩,
    ⟨.assign { socket := some 7, connectedAt := some 0, authCacheKey := some "api:sk-1" }, ()⟩,
    ⟨.startSend 7 plainFrame, .ok ()⟩, ⟨.flush 7 plainFrame, .ok ()⟩,
    ⟨.next 7, some (.ok (.text helloPayload))⟩, ⟨.next 7, some (.ok (.text completedPayload))⟩]

/-- Both calls get hello from a server that says it and completes. -/
theorem ws_stream_agrees_with_complete_demo :
    ∃ events' result result',
      Path (stream parseHello "wss://api.openai.com/v1/responses" 2
        { plainRequest with stream := true } (.apiKey "sk-1")).run events' (.pure result') ∧
      StreamedAs (handedOut events') (.ok result) result' := by
  have hpath : ∃ result, Path (complete parseHello "wss://api.openai.com/v1/responses" 2
      plainRequest (.apiKey "sk-1")).run plainEvents (.pure (.ok result)) :=
    ⟨_, .cons <| .cons <| .cons <| .cons <| .cons <| .cons <| .cons <| .cons <| .cons <| .nil _⟩
  obtain ⟨result, hpath⟩ := hpath
  obtain ⟨events', result', hpath', -, hstreamed⟩ := (ws_stream_agrees_with_complete parseHello
    "wss://api.openai.com/v1/responses" 2 plainRequest (.apiKey "sk-1") true).1 _ _ hpath
  exact ⟨events', result, result', hpath', hstreamed⟩

end Fiddlesticks.Provider.OpenAi

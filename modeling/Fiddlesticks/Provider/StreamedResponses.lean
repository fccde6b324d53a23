import Fiddlesticks.Effect.Relational
import Fiddlesticks.Provider.Adapters
import Fiddlesticks.Provider.OpenAi.StreamAssembly

/-!
# Streamed and whole responses

An adapter asks for a response as a whole or as a stream. `EventMirrors` relates what its
environment does in the two cases: the clock and the credentials are the same, and a server refuses
both requests alike or conveys the response in the events of a stream. The adapter then sends the
same requests, and gets a response and the stream of it (`ask_mirrors`).
-/

namespace Fiddlesticks.Provider

open Effect Prog OpenAi OpenAiHttpTransport

/-! ## What a stream conveys -/

/-- The model that events name. -/
def streamedModel (events : List OpenAiApiStreamResponse) : Option String :=
  events.findSome? (·.model)

/-- The finish reason that events give last. -/
def streamedFinish (events : List OpenAiApiStreamResponse) : Option String :=
  (events.filterMap fun event => event.choices.head?.bind (·.finishReason)).getLast?

/-- Events convey a response: its text in deltas and its calls in fragments, each under an index of
its own and with its identifier from the first fragment on. The model may be left to the request. -/
structure Conveys (asked : String) (events : List OpenAiApiStreamResponse)
    (response : OpenAiResponse) : Prop where
  model : (streamedModel events).getD asked = response.model
  content : textAfter events = response.message.content
  calls : ∃ indices : List UInt32, indices.Pairwise (· < ·) ∧
    (∀ index, index ∈ indices ↔ ∃ fragment ∈ fragments events, fragment.callIndex = index) ∧
    indices.map (callAfter (fragments events)) = response.message.toolCalls
  ids : ∀ first fragment rest, fragments events = first ++ fragment :: rest →
    idAfter (first ++ [fragment]) fragment.callIndex =
      idAfter (fragments events) fragment.callIndex
  finishReason : parseFinishReason (streamedFinish events) = response.finishReason

/-- The chunks of a body carry events and then `[DONE]`. They may cut it anywhere between two
characters, and what follows the end is not read. -/
inductive Carries (parse : String → Except String OpenAiApiStreamResponse)
    (events : List OpenAiApiStreamResponse) : List (Except String (List UInt8)) → Prop where
  | intro {chunks texts before last after}
      (hchunks : List.Forall₂ (fun chunk text => Utf8.decode chunk = .ok text) chunks texts)
      (hlines : (completeLines texts.flatten).1 = before ++ last :: after)
      (hevents : CarryEvents parse before events) (hlast : linePayload last = some "[DONE]")
      (more : List (Except String (List UInt8))) :
      Carries parse events (chunks.map .ok ++ more)

section

variable {parse : String → Except String OpenAiApiStreamResponse}

/-- The chunks of a body are read until its lines come to an end, wherever they cut it. -/
theorem readChunks_finished {chunks : List (List UInt8)} {texts : List (List Char)}
    (hchunks : List.Forall₂ (fun chunk text => Utf8.decode chunk = .ok text) chunks texts)
    {buffer : List Char} {state after : SseState} {items : List OpenAiStreamChunk}
    (hbuffer : (completeLines buffer).1 = [])
    (hlines : handleLines parse state (completeLines (buffer ++ texts.flatten)).1 =
      (items, .finished after))
    (more : List (Except String (List UInt8))) :
    readChunks parse buffer state (chunks.map .ok ++ more) = (items, .ok after) := by
  induction hchunks generalizing buffer state items with
  | nil =>
      rw [List.flatten_nil, List.append_nil, hbuffer] at hlines
      cases hlines
  | @cons chunk text chunks texts hchunk _ ih =>
      rw [List.flatten_cons, ← List.append_assoc, completeLines_append (buffer ++ text),
        handleLines_append] at hlines
      rw [List.map_cons, List.cons_append, readChunks_cons hchunk]
      rcases hresult : handleLines parse state (completeLines (buffer ++ text)).1 with
        ⟨first, reading | finished | failed⟩
      · simp only [hresult, Prod.mk.injEq] at hlines ⊢
        obtain ⟨rfl, hfinished⟩ := hlines
        have hbuffer := congrArg Prod.fst (completeLines_buffer (buffer ++ text))
        rw [ih hbuffer (Prod.ext rfl hfinished)]
        exact ⟨rfl, rfl⟩
      · rw [hresult] at hlines
        cases hlines
        rfl
      · rw [hresult] at hlines
        cases hlines

/-- A body that carries events is read as these. -/
theorem Carries.readChunks {events : List OpenAiApiStreamResponse}
    {chunks : List (Except String (List UInt8))} (h : Carries parse events chunks) :
    readChunks parse [] {} chunks = ((acceptAll {} events).1, .ok (acceptAll {} events).2) := by
  cases h with
  | @intro chunks texts before last after hchunks hlines hevents hlast more =>
      have hstop : handleLine parse (acceptAll {} events).2 last =
          ([], .finished (acceptAll {} events).2) := by
        rw [handleLine, hlast]
        rfl
      refine readChunks_finished hchunks rfl ?_ more
      rw [List.nil_append, hlines, handleLines_append, handleLines_events hevents]
      simp only [handleLines, hstop, List.append_nil]

end

/-! ## The state after events -/

/-- The model is the first that was known. -/
theorem acceptAll_model (state : SseState) (events : List OpenAiApiStreamResponse) :
    (acceptAll state events).2.model = state.model.or (streamedModel events) := by
  induction events generalizing state with
  | nil => simp [acceptAll, streamedModel]
  | cons event events ih =>
      have hevent : (state.accept event).2.model = state.model.or event.model := by
        unfold SseState.accept
        cases event.choices <;> rfl
      rw [acceptAll, ih, hevent, streamedModel, streamedModel, List.findSome?_cons]
      cases state.model <;> cases event.model <;> rfl

/-- The finish reason is the last that was streamed. -/
theorem acceptAll_finishReason (state : SseState) (events : List OpenAiApiStreamResponse) :
    (acceptAll state events).2.finishReason =
      (streamedFinish events).elim state.finishReason fun reason =>
        parseFinishReason (some reason) := by
  induction events generalizing state with
  | nil => rfl
  | cons event events ih =>
      have hevent : (state.accept event).2.finishReason =
          (event.choices.head?.bind (·.finishReason)).elim state.finishReason fun reason =>
            parseFinishReason (some reason) := by
        unfold SseState.accept
        cases event.choices with
        | nil => rfl
        | cons choice choices =>
            cases hreason : choice.finishReason <;> simp [hreason]
      rw [acceptAll, ih, hevent, streamedFinish, streamedFinish, List.filterMap_cons]
      cases event.choices.head?.bind (·.finishReason) with
      | none => rfl
      | some reason =>
          rw [List.getLast?_cons]
          generalize (events.filterMap fun event =>
            event.choices.head?.bind (·.finishReason)).getLast? = last
          cases last <;> rfl

/-- A response without its usage, which a stream does not carry. -/
def withoutUsage (response : OpenAiResponse) : OpenAiResponse :=
  { response with usage := { promptTokens := 0, completionTokens := 0, totalTokens := 0 } }

/-- The response after events is the one that they convey, but for its usage. -/
theorem Conveys.response {asked : String} {events : List OpenAiApiStreamResponse}
    {response : OpenAiResponse} (h : Conveys asked events response) :
    (acceptAll {} events).2.response asked = withoutUsage response := by
  have hstart : SseState.After {} [] := ⟨rfl, rfl⟩
  obtain ⟨-, hcontent, hcalls⟩ := hstart.acceptAll events
  obtain ⟨indices, hincreasing, hindices, hconveyed⟩ := h.calls
  obtain ⟨final, hfinal, hmem, hassembled⟩ := final_calls (fragments events)
  obtain rfl : final = indices :=
    hfinal.eq_of_mem_iff hincreasing fun index => (hmem index).trans (hindices index).symm
  have hmodel := acceptAll_model {} events
  have hfinish : (acceptAll {} events).2.finishReason = response.finishReason := by
    rw [← h.finishReason, acceptAll_finishReason]
    cases streamedFinish events <;> rfl
  unfold SseState.response SseState.calls
  rw [hmodel, hfinish, hcontent, hcalls]
  show OpenAiResponse.mk _ ⟨_, ((assembleCalls (fragments events) ∅).2.toList.map Prod.snd)⟩ _ _ = _
  rw [hassembled, hconveyed, List.nil_append, h.content]
  exact congrArg (OpenAiResponse.mk · _ _ _) h.model

/-- A body that conveys a response streams the deltas of its events, and then the response without
its usage. -/
theorem Conveys.stream {parse : String → Except String OpenAiApiStreamResponse} {asked : String}
    {events : List OpenAiApiStreamResponse} {response : OpenAiResponse}
    {chunks : List (Except String (List UInt8))} (h : Conveys asked events response)
    (hchunks : Carries parse events chunks) :
    sseStream parse asked chunks =
      (deltas [] (pieces events) ++ [.messageComplete response.message,
        .responseComplete (withoutUsage response)], .ok ()) := by
  have hstart : SseState.After {} [] := ⟨rfl, rfl⟩
  have hitems := (hstart.acceptAll events).1
  simp only [sseStream, hchunks.readChunks, h.response, hitems]
  rfl

/-! ## Servers that answer both requests alike -/

section

variable (json : SerdeJson) (asked : String)

/-- A server answers the request for a stream as it answers the plain one: neither is answered, or
both are refused in the same words, or the stream conveys the response. -/
inductive Mirrors : HttpAnswer → HttpAnswer → Prop where
  | unanswered (error : RequestError) : Mirrors (.error error) (.error error)
  | rejected {reply reply' : HttpReply} (hfailed : reply.status.isSuccess = false)
      (hstatus : reply'.status = reply.status) (htext : reply'.text = reply.text) :
      Mirrors (.ok reply) (.ok reply')
  | conveyed {reply reply' : HttpReply} {events response}
      (hsuccess : reply.status.isSuccess = true) (hsuccess' : reply'.status.isSuccess = true)
      (hparsed : parseResponse reply = .ok response)
      (hcarries : Carries json.streamResponse events reply'.chunks)
      (hconveys : Conveys asked events response) : Mirrors (.ok reply) (.ok reply')

/-- The environment does the same in both cases, but for the answers of servers, which mirror each
other. -/
inductive EventMirrors : Event AdapterSig → Event AdapterSig → Prop where
  | now (now) : EventMirrors ⟨.now, now⟩ ⟨.now, now⟩
  | credential (op answer) : EventMirrors ⟨.credential op, answer⟩ ⟨.credential op, answer⟩
  | post {post post' answer answer'} (hplain : post.body.stream = false)
      (hpost' : post' = withStream true post) (h : Mirrors json asked answer answer') :
      EventMirrors ⟨.post post, answer⟩ ⟨.post post', answer'⟩

/-- Both requests fail with the same error, or one is answered by a response and the other by its
stream. -/
inductive RepliesMirror : Except ProviderError HttpReply → Except ProviderError HttpReply →
    Prop where
  | failed (error : ProviderError) : RepliesMirror (.error error) (.error error)
  | conveyed {reply reply' : HttpReply} {events response}
      (hparsed : parseResponse reply = .ok response)
      (hcarries : Carries json.streamResponse events reply'.chunks)
      (hconveys : Conveys asked events response) : RepliesMirror (.ok reply) (.ok reply')

end

section

variable {json : SerdeJson} {asked : String}

/-- An operation that is not a request to a server is its own counterpart, with its own answer. -/
theorem eventMirrors_same {op : AdapterOp} (hop : ∀ post, op ≠ .post post) :
    Counterpart (S := AdapterSig) (T := AdapterSig) (EventMirrors json asked) op op ∧
      ∀ answer answer', EventMirrors json asked ⟨op, answer⟩ ⟨op, answer'⟩ → answer = answer' := by
  cases op with
  | post post => exact absurd rfl (hop post)
  | now =>
      refine ⟨⟨?_, ?_⟩, ?_⟩
      · rintro answer e' ⟨⟩
        rfl
      · rintro e answer' ⟨⟩
        rfl
      · rintro answer answer' ⟨⟩
        rfl
  | credential op =>
      refine ⟨⟨?_, ?_⟩, ?_⟩
      · rintro answer e' ⟨⟩
        rfl
      · rintro e answer' ⟨⟩
        rfl
      · rintro answer answer' ⟨⟩
        rfl

/-- The counterpart of a plain request is the one for a stream. -/
theorem eventMirrors_post {post : HttpPost} (hplain : post.body.stream = false) :
    Counterpart (S := AdapterSig) (T := AdapterSig) (EventMirrors json asked) (.post post)
      (.post (withStream true post)) := by
  have hback : ∀ post : HttpPost, post.body.stream = false →
      withStream false (withStream true post) = post := by
    rintro ⟨url, header, body⟩ hplain
    simp only [withStream, ← hplain]
  refine ⟨?_, ?_⟩
  · intro answer e' h
    cases h with
    | post _ hpost' => rw [hpost']
  · intro e answer' h
    cases h with
    | @post other _ _ _ hother hpost' =>
        rw [← hback other hother, ← hpost', hback post hplain]

/-- The same request is asked for again, or neither is. -/
theorem Mirrors.refused_eq {answer answer' : HttpAnswer} (h : Mirrors json asked answer answer') :
    refused json answer' = refused json answer := by
  cases h with
  | unanswered error => rfl
  | rejected hfailed hstatus htext =>
      simp only [refused, parseError, errorMessage, hstatus, htext]
  | conveyed hsuccess hsuccess' =>
      simp only [refused, hsuccess, hsuccess']
      rfl

/-- What answers that mirror each other come to. -/
theorem Mirrors.settled {answer answer' : HttpAnswer} (h : Mirrors json asked answer answer') :
    RepliesMirror json asked (settle json answer) (settle json answer') := by
  cases h with
  | unanswered error => exact .failed _
  | rejected hfailed hstatus htext =>
      simp only [settle, parseError, errorMessage, hstatus, htext, hfailed]
      exact .failed _
  | conveyed hsuccess hsuccess' hparsed hcarries hconveys =>
      simp only [settle, hsuccess, hsuccess', if_true]
      exact .conveyed hparsed hcarries hconveys

/-! ## The requests of an adapter -/

variable {transport : OpenAiHttpTransport} {request : OpenAiRequest} {auth : OpenAiAuth}
  {seen seen' : History AdapterSig}

/-- A plain request asks for no stream. -/
theorem attempt_plain (hplain : request.stream = false) {tokenParameter : OpenAiTokenParameter}
    {post : HttpPost} (h : transport.attempt json request auth tokenParameter = .ok post) :
    post.body.stream = false := by
  have hsame : { request with stream := false } = request := by rw [← hplain]
  have hpost : transport.attempt json { request with stream := false } auth tokenParameter =
      (transport.attempt json request auth tokenParameter).map (withStream false) :=
    attempt_stream false tokenParameter
  rw [hsame, h] at hpost
  rw [Except.ok.inj hpost]
  rfl

/-- The loop over the token parameters goes the same way for a stream. -/
theorem sendAccepted_mirrors (hplain : request.stream = false)
    (parameters : List OpenAiTokenParameter) :
    Related (EventMirrors json asked) (fun _ => false) (fun _ => false)
      (fun _ _ => RepliesMirror json asked) seen seen'
      (transport.sendAccepted json request auth parameters).run
      (transport.sendAccepted json { request with stream := true } auth parameters).run := by
  induction parameters with
  | nil => exact .pure (.failed _)
  | cons tokenParameter rest ih =>
      have hpost' :
          transport.attempt json { request with stream := true } auth tokenParameter = _ :=
        attempt_stream true tokenParameter
      rw [sendAccepted, sendAccepted, hpost']
      refine Related.check_seq (fun post hpost => ⟨withStream true post, by rw [hpost]; rfl, ?_⟩)
        fun error hpost => ⟨by rw [hpost]; rfl, .failed error⟩
      refine Related.request_seq rfl rfl (eventMirrors_post (attempt_plain hplain hpost)) ?_
      intro answer answer' hanswers
      cases hanswers with
      | post _ _ hmirrors =>
          rw [hmirrors.refused_eq]
          by_cases hagain : tokenParameter = .maxTokens ∧ refused json answer
          · rw [if_pos hagain, if_pos hagain]
            exact ih
          · rw [if_neg hagain, if_neg hagain]
            exact .pure hmirrors.settled

/-- An adapter gets its key without asking a server. -/
theorem resolve_uses (adapter : Adapter) :
    Uses (S := AdapterSig) (fun op => ∀ post, op ≠ .post post) adapter.resolve.run := by
  have hkey : ∀ provider missing, Uses (S := AdapterSig) (fun op => ∀ post, op ≠ .post post)
      (resolveApiKey provider missing).run := by
    intro provider missing
    refine uses_except_bind (uses_map _ (uses_request fun post => nofun)) fun now => ?_
    refine uses_except_bind (uses_map _ (uses_request fun post => nofun)) fun answer => ?_
    split <;> exact uses_pure _
  unfold Adapter.resolve
  cases adapter.provider with
  | ollama => exact uses_pure _
  | _ => exact hkey _ _

/-- An adapter asks for a response and for its stream in the same way. -/
theorem ask_mirrors (adapter : Adapter) (request : ModelRequest) {plain : OpenAiRequest}
    (hplain : plain.stream = false) :
    Related (EventMirrors json asked) (fun _ => false) (fun _ => false)
      (fun _ _ => RepliesMirror json asked) seen seen' (adapter.ask json request plain).run
      (adapter.ask json request { plain with stream := true }).run := by
  refine Related.check_seq (fun _ hvalid => ⟨_, hvalid, ?_⟩) fun error hinvalid =>
    ⟨hinvalid, .failed error⟩
  refine Related.except_seq (Related.self ((resolve_uses adapter).mono fun op hop =>
    ⟨⟨rfl, rfl⟩, eventMirrors_same hop⟩)) ?_ ?_ ?_
  · rintro h h' auth auth' ⟨rfl, rfl, hauth⟩
    obtain rfl := Except.ok.inj hauth
    exact sendAccepted_mirrors hplain _
  · rintro h h' error result ⟨rfl, rfl, rfl⟩
    exact ⟨rfl, .failed error⟩
  · rintro h h' auth error ⟨rfl, rfl, hauth⟩
    cases hauth

end

end Fiddlesticks.Provider

import Fiddlesticks.Effect.Pool
import Fiddlesticks.Provider.Adapters

/-!
# What the adapters send

Any number of adapter calls run over one credential manager that others use too. A request goes to
the endpoint of its adapter and carries the key that was live for the provider of that adapter when
the call asked for it (`keys_stay_with_their_provider`).
-/

namespace Fiddlesticks.Provider

open Effect Prog OpenAi OpenAiHttpTransport

/-! ## One call -/

/-- The key of an adapter, with the events that it took to get it. -/
inductive Adapter.GotKey (adapter : Adapter) : String → History AdapterSig → Prop where
  | placeholder (h : adapter.provider = .ollama) : GotKey adapter "ollama-local" []
  | granted {key now} (h : adapter.provider ≠ .ollama) :
      GotKey adapter key [⟨.now, now⟩,
        ⟨.credential (.withApiKey adapter.provider now), .ok (.apiKey (some key))⟩]

/-- What an adapter may ask for next. -/
inductive Adapter.MayAsk (json : SerdeJson) (adapter : Adapter) (asked : OpenAiRequest) :
    History AdapterSig → AdapterOp → Prop where
  | now (h : adapter.provider ≠ .ollama) : MayAsk json adapter asked [] .now
  | key {now} (h : adapter.provider ≠ .ollama) :
      MayAsk json adapter asked [⟨.now, now⟩] (.credential (.withApiKey adapter.provider now))
  | post {key got sent post} (hkey : adapter.GotKey key got)
      (hpost : MaySend json adapter.transport asked (.apiKey key) sent post) :
      MayAsk json adapter asked (got ++ sent) (.post post)

/-- What the shared steps of an adapter's calls come to. -/
inductive Adapter.Asked (json : SerdeJson) (adapter : Adapter) (request : ModelRequest)
    (asked : OpenAiRequest) : History AdapterSig → Except ProviderError HttpReply → Prop where
  | invalid {error} (h : request.validate = .error error) :
      Asked json adapter request asked [] (.error error)
  | noKey {h error} (hvalid : request.validate = .ok ())
      (hposts : ∀ e ∈ h, ∀ post, e.op ≠ .post post) :
      Asked json adapter request asked h (.error error)
  | exchanged {key got events outcome} (hvalid : request.validate = .ok ())
      (hkey : adapter.GotKey key got)
      (hexchange : Exchange json adapter.transport asked (.apiKey key) events outcome) :
      Asked json adapter request asked (got ++ events) outcome

section

variable {json : SerdeJson} {adapter : Adapter} {request : ModelRequest} {asked : OpenAiRequest}

/-- An operation is one that the adapter may ask for next. -/
abbrev Adapter.Guard (json : SerdeJson) (adapter : Adapter) (request : ModelRequest)
    (asked : OpenAiRequest) (h : History AdapterSig) (e : Event AdapterSig) : Prop :=
  request.validate = .ok () ∧ adapter.MayAsk json asked h e.op

/-- What the credential of an adapter comes to. -/
def Adapter.Resolved (adapter : Adapter) (h : History AdapterSig) :
    Except ProviderError OpenAiAuth → Prop
  | .ok auth => ∃ key, auth = .apiKey key ∧ adapter.GotKey key h
  | .error _ => ∀ e ∈ h, ∀ post, e.op ≠ .post post

/-- A key is looked up for the provider of the adapter. -/
theorem resolveApiKey_obeys (hvalid : request.validate = .ok ())
    (hprovider : adapter.provider ≠ .ollama) (missing : String) :
    Obeys (adapter.Guard json request asked) adapter.Resolved []
      (resolveApiKey adapter.provider missing).run := by
  refine obeys_request_seq (fun _ => ⟨hvalid, .now hprovider⟩) fun now => ?_
  refine obeys_request_seq (fun _ => ⟨hvalid, .key hprovider⟩) fun answer => ?_
  have hnone : ∀ answer error, adapter.Resolved [⟨.now, now⟩,
      ⟨.credential (.withApiKey adapter.provider now), answer⟩] (.error error) := by
    intro answer error e he post
    rcases List.mem_pair.mp he with rfl | rfl <;> simp
  cases answer with
  | error error => exact (obeys_except_throw error).mpr (hnone _ error)
  | ok answer =>
      cases answer with
      | apiKey secret =>
          cases secret with
          | none => exact (obeys_except_throw _).mpr (hnone _ _)
          | some key => exact (obeys_except_pure _).mpr ⟨key, rfl, .granted hprovider⟩
      | _ => exact (obeys_except_throw _).mpr (hnone _ _)

/-- Each adapter looks its key up before it asks. -/
theorem resolve_obeys (hvalid : request.validate = .ok ()) :
    Obeys (adapter.Guard json request asked) adapter.Resolved [] adapter.resolve.run := by
  obtain ⟨provider, transport, fallbackModel⟩ := adapter
  cases provider with
  | openAi => exact resolveApiKey_obeys hvalid (by simp) _
  | anthropic => exact resolveApiKey_obeys hvalid (by simp) _
  | openCodeZen => exact resolveApiKey_obeys hvalid (by simp) _
  | ollama => exact (obeys_except_pure _).mpr ⟨_, rfl, .placeholder rfl⟩

/-- A call of an adapter asks for what it may and comes to what its server answers. -/
theorem ask_obeys :
    Obeys (adapter.Guard json request asked) (adapter.Asked json request asked) []
      (adapter.ask json request asked).run := by
  refine obeys_check_seq (fun _ hvalid => ?_) fun error hinvalid => .invalid hinvalid
  refine obeys_except_seq (resolve_obeys hvalid) ?_ fun h error hposts => .noKey hvalid hposts
  rintro got auth ⟨key, rfl, hkey⟩
  refine (sendAccepted_obeys got).mono ?_ ?_
  · rintro h e ⟨sent, post, rfl, hop, hsend⟩
    refine ⟨hvalid, ?_⟩
    rw [hop]
    exact .post hkey hsend
  · rintro h outcome ⟨events, rfl, hexchange⟩
    exact .exchanged hvalid hkey hexchange

end

/-! ## Calls over one manager -/

/-- What a call may ask for next. -/
def AdapterCall.MayAsk (json : SerdeJson) (call : AdapterCall) (h : History AdapterSig)
    (op : AdapterOp) : Prop :=
  match call.asks with
  | some (adapter, request, asked) => request.validate = .ok () ∧ adapter.MayAsk json asked h op
  | none => ∃ asked, op = .credential asked

/-- `complete` sends its request and at most once a second one. -/
theorem complete_obeys (json : SerdeJson) (adapter : Adapter) (request : ModelRequest) :
    Obeys (adapter.Guard json request (buildOpenAiRequest adapter.fallbackModel request false))
      (fun _ _ => True) [] (adapter.complete json request).run := by
  rw [adapter.complete_eq]
  refine obeys_except_seq ask_obeys (fun h reply _ => ?_) fun _ _ _ => trivial
  refine obeys_check_seq (fun response _ => ?_) fun _ _ => trivial
  exact (obeys_except_pure _).mpr trivial

/-- So does `stream`. -/
theorem stream_obeys (json : SerdeJson) (adapter : Adapter) (request : ModelRequest) :
    Obeys (adapter.Guard json request (buildOpenAiRequest adapter.fallbackModel request true))
      (fun _ _ => True) [] (adapter.stream json request).run := by
  rw [adapter.stream_eq]
  refine obeys_except_seq ask_obeys (fun h reply _ => ?_) fun _ _ _ => trivial
  exact (obeys_except_pure _).mpr trivial

/-- Every call asks what it may. -/
theorem AdapterCall.program_obeys (json : SerdeJson) (call : AdapterCall) :
    Obeys (fun h e => call.MayAsk json h e.op) (fun _ _ => True) [] (call.program json).run := by
  cases call with
  | complete adapter request =>
      exact obeys_except_seq (complete_obeys json adapter request)
        (fun _ _ _ => (obeys_except_pure _).mpr trivial) fun _ _ _ => trivial
  | stream adapter request =>
      exact obeys_except_seq (stream_obeys json adapter request)
        (fun _ _ _ => (obeys_except_pure _).mpr trivial) fun _ _ _ => trivial
  | credential op =>
      refine obeys_request_seq (fun answer => ⟨op, rfl⟩) fun answer => ?_
      cases answer with
      | ok answer => exact (obeys_except_pure _).mpr trivial
      | error error => exact (obeys_except_throw _).mpr trivial

/-- The manager answers its own operations; clock and servers may answer anything. -/
def CredentialAct {ι : Type} (_ : ι) (manager : SecureCredentialManager) :
    Event AdapterSig → SecureCredentialManager → Prop
  | ⟨.credential op, answer⟩, manager' => op.perform.exec manager = (answer, manager')
  | _, manager' => manager' = manager

/-- Calls over a new manager. -/
def adapterPool {ι : Type} (json : SerdeJson) (calls : ι → AdapterCall) :
    Pool AdapterSig ι SecureCredentialManager (Except ProviderError AdapterResult) :=
  ⟨.new, fun i => ((calls i).program json).run⟩

/-- The call of the manager that an event is. -/
def credentialCall {ι : Type} : ι × Event AdapterSig → Option CredentialCall
  | (_, ⟨.credential op, answer⟩) => some (op, answer)
  | _ => none

/-- The calls of the manager in a trace. -/
def credentialCalls {ι : Type} (trace : Trace AdapterSig ι) : CredentialLog :=
  trace.filterMap credentialCall

/-- The request that an event sends, with its answer. -/
def postOf : Event AdapterSig → Option (HttpPost × HttpAnswer)
  | ⟨.post post, answer⟩ => some (post, answer)
  | _ => none

/-- The requests of a history. -/
def posts (h : History AdapterSig) : List (HttpPost × HttpAnswer) :=
  h.filterMap postOf

/-- The requests that a call sends: none, one, or a second one with the token limit under its other
name after the first was refused. -/
inductive Sent (json : SerdeJson) : List (HttpPost × HttpAnswer) → Prop where
  | nothing : Sent json []
  | once (first answer) : Sent json [(first, answer)]
  | twice (first answer) {refusal} (hrefused : refused json refusal) :
      Sent json [(first, refusal), (renameLimit first, answer)]

/-- What holds of the requests of any number of calls over a new manager. -/
structure KeysStay {ι : Type} [DecidableEq ι] (json : SerdeJson) (calls : ι → AdapterCall)
    (trace : Trace AdapterSig ι) : Prop where
  /-- A request comes from an adapter and goes to its endpoint with the key of its provider, which
  was live when the call looked it up. -/
  destination : ∀ before i post answer after,
    trace = before ++ (i, ⟨.post post, answer⟩) :: after →
    ∃ adapter request asked key, (calls i).asks = some (adapter, request, asked) ∧
      request.validate = .ok () ∧ post.url = adapter.transport.endpoint "chat/completions" ∧
      post.header = { name := "authorization", value := "Bearer " ++ key } ∧
      (adapter.provider = .ollama ∧ key = "ollama-local" ∨
        ∃ earlier now during, before = earlier ++ (i, ⟨.credential
            (.withApiKey adapter.provider now), .ok (.apiKey (some key))⟩) :: during ∧
          LiveCredential (credentialCalls earlier) adapter.provider now (.apiKey key))
  /-- A call sends at most two requests, which differ in the name of the token limit. -/
  sent : ∀ i, Sent json (posts (localHistory i trace))

/-- The last entry adds its use of the credentials. -/
@[simp] theorem credentialCalls_snoc {ι : Type} (trace : Trace AdapterSig ι)
    (entry : ι × Event AdapterSig) :
    credentialCalls (trace ++ [entry]) =
      credentialCalls trace ++ (credentialCall entry).toList := by
  rw [credentialCalls, List.filterMap_append]
  cases h : credentialCall entry <;> simp [credentialCalls, h]

/-- The last event adds the request that it posts. -/
@[simp] theorem posts_snoc (h : History AdapterSig) (e : Event AdapterSig) :
    posts (h ++ [e]) = posts h ++ (postOf e).toList := by
  rw [posts, List.filterMap_append]
  cases hpost : postOf e <;> simp [posts, hpost]

/-- A key that an access hands out is live. -/
theorem live_of_granted {ops : List CredentialOp} {provider : ProviderId} {now : SystemTime}
    {key : String} {manager' : SecureCredentialManager}
    (hexec : (CredentialOp.withApiKey provider now).perform.exec (managerAfter ops .new) =
      (.ok (.apiKey (some key)), manager')) :
    LiveCredential (logOf ops .new) provider now (.apiKey key) := by
  have htracks := tracks_managerAfter ops provider
  rw [CredentialOp.perform, CredentialM.exec_map,
    SecureCredentialManager.exec_withApiKey id (poisoned_managerAfter ops),
    SecureCredentialManager.access] at hexec
  cases hentry : (managerAfter ops .new).accessible provider now .apiKey with
  | none =>
      rw [hentry] at hexec
      cases hexec
  | some entry =>
      rw [hentry] at hexec
      have hkey : entry.credential.toApiKey = some key := by
        have hanswer := congrArg Prod.fst hexec
        simpa [Functor.map, Except.map] using hanswer
      obtain ⟨hstored, hfresh⟩ := SecureCredentialManager.live_eq_some.1
        (accessible_eq_some.1 hentry).1
      rw [hstored] at htracks
      obtain ⟨insertion, later, hlast, hreflects⟩ := htracks
      refine ⟨insertion, later, ⟨hlast, fun hexpired => ?_⟩, ?_⟩
      · simp [(hreflects.isExpired now).2 hexpired] at hfresh
      · rw [← hreflects.credential]
        exact (entry.credential.toApiKey_eq_some key).1 hkey

section

variable {ι : Type} [DecidableEq ι] {json : SerdeJson} {calls : ι → AdapterCall}
  {trace : Trace AdapterSig ι}
  {final : Pool AdapterSig ι SecureCredentialManager (Except ProviderError AdapterResult)}

/-- The manager and its answers are those of the operations in the trace, one after another. -/
theorem manager_of_run (hrun : Pool.Run CredentialAct (adapterPool json calls) trace final) :
    ∃ ops, final.shared = managerAfter ops .new ∧ credentialCalls trace = logOf ops .new := by
  refine hrun.invariant (fun i => (calls i).program_obeys json)
    (fun manager trace => ∃ ops, manager = managerAfter ops .new ∧
      credentialCalls trace = logOf ops .new) ⟨[], rfl, rfl⟩ ?_
  rintro _ trace i ⟨op, answer⟩ manager' ⟨ops, rfl, hlog⟩ - hact
  cases op with
  | credential op =>
      have hexec : op.perform.exec (managerAfter ops .new) = (answer, manager') := hact
      refine ⟨ops ++ [op], ?_, ?_⟩
      · rw [managerAfter_snoc, hexec]
      · rw [credentialCalls_snoc, logOf_snoc, hlog, hexec]
        rfl
  | now =>
      obtain rfl : manager' = _ := hact
      exact ⟨ops, rfl, by simpa [credentialCall] using hlog⟩
  | post post =>
      obtain rfl : manager' = _ := hact
      exact ⟨ops, rfl, by simpa [credentialCall] using hlog⟩

/-- Before a request its adapter has got its key. -/
theorem AdapterCall.MayAsk.post {call : AdapterCall} {h : History AdapterSig} {post : HttpPost}
    (hallowed : call.MayAsk json h (.post post)) :
    ∃ adapter request asked key got sent, call.asks = some (adapter, request, asked) ∧
      request.validate = .ok () ∧ adapter.GotKey key got ∧
      MaySend json adapter.transport asked (.apiKey key) sent post ∧ h = got ++ sent := by
  cases hasks : call.asks with
  | none => simp [AdapterCall.MayAsk, hasks] at hallowed
  | some asked =>
      obtain ⟨adapter, request, asked⟩ := asked
      simp only [AdapterCall.MayAsk, hasks] at hallowed
      obtain ⟨hvalid, hpost⟩ := hallowed
      cases hpost with
      | post hkey hsend => exact ⟨_, _, _, _, _, _, rfl, hvalid, hkey, hsend, rfl⟩

/-- Getting a key sends no request. -/
theorem Adapter.GotKey.posts_append {adapter : Adapter} {key : String} {got : History AdapterSig}
    (hkey : adapter.GotKey key got) (sent : History AdapterSig) :
    posts (got ++ sent) = posts sent := by
  cases hkey with
  | placeholder => rfl
  | granted => rfl

/-- An event that its call allows extends the requests of the call. -/
theorem sent_snoc {call : AdapterCall} {h : History AdapterSig} {e : Event AdapterSig}
    (hallowed : call.MayAsk json h e.op) (hsent : Sent json (posts h)) :
    Sent json (posts (h ++ [e])) := by
  obtain ⟨op, answer⟩ := e
  rw [posts_snoc]
  cases op with
  | now => simpa [postOf] using hsent
  | credential op => simpa [postOf] using hsent
  | post post =>
      obtain ⟨adapter, request, asked, key, got, sent, -, -, hkey, hsend, rfl⟩ := hallowed.post
      rw [hkey.posts_append]
      cases hsend with
      | first => exact .once post answer
      | again hfirst hrefused hsecond =>
          rw [attempt_maxCompletionTokens, hfirst] at hsecond
          obtain rfl := Except.ok.inj hsecond
          exact .twice _ answer hrefused

/-- The local history of a process at one of its events. -/
theorem localHistory_split {i : ι} {before : Trace AdapterSig ι} {first : Event AdapterSig}
    {rest : History AdapterSig} {earlier : History AdapterSig}
    (h : localHistory i before = earlier ++ first :: rest) :
    ∃ start during, before = start ++ (i, first) :: during := by
  have hmem : first ∈ localHistory i before := by simp [h]
  obtain ⟨start, during, hsplit⟩ := List.append_of_mem (mem_local_history.mp hmem)
  exact ⟨start, during, hsplit⟩

/-- A request of an adapter goes to its own endpoint, and the key that it carries was live for its
own provider when the call looked it up: it was the last key stored for that provider, not revoked
since and not expired. A call sends at most two requests. -/
theorem keys_stay_with_their_provider (json : SerdeJson) (calls : ι → AdapterCall)
    {trace : Trace AdapterSig ι}
    {final : Pool AdapterSig ι SecureCredentialManager (Except ProviderError AdapterResult)}
    (hrun : Pool.Run CredentialAct (adapterPool json calls) trace final) :
    KeysStay json calls trace := by
  have hobeys := fun i => (calls i).program_obeys json
  have hguard := hrun.guard (P := adapterPool json calls) hobeys
  refine ⟨fun before i post answer after htrace => ?_, fun i => ?_⟩
  · obtain ⟨adapter, request, asked, key, got, sent, hasks, hvalid, hkey, hsend, hhistory⟩ :=
      (hguard before (i, ⟨.post post, answer⟩) after htrace).post
    obtain ⟨hurl, hheader⟩ := hsend.destination
    refine ⟨adapter, request, asked, key, hasks, hvalid, hurl, hheader, ?_⟩
    cases hkey with
    | placeholder hollama => exact .inl ⟨hollama, rfl⟩
    | @granted _ now hother =>
        right
        obtain ⟨earlier, during, rfl⟩ := localHistory_split
          (show localHistory i before = [⟨.now, now⟩] ++ _ from hhistory)
        rw [htrace, List.append_assoc] at hrun
        obtain ⟨P, hearlier, hrest⟩ := hrun.split
        obtain ⟨ops, hmanager, hlog⟩ := manager_of_run hearlier
        obtain ⟨manager', hact⟩ := hrest.head
        rw [hmanager] at hact
        exact ⟨earlier, now, during, rfl, hlog ▸ live_of_granted hact⟩
  · refine hrun.invariant hobeys (fun _ trace => Sent json (posts (localHistory i trace)))
      .nothing ?_
    intro _ trace j e _ hsent hallowed _
    by_cases hij : j = i
    · subst hij
      rw [local_history_append, local_history_same]
      exact sent_snoc hallowed hsent
    · rw [local_history_append, local_history_other hij, List.append_nil]
      exact hsent

end

/-- The body of a refusal to take `max_tokens`. -/
def refusalText : String :=
  "\x7b\"error\":\x7b\"message\":\"Use 'max_completion_tokens' instead.\"\x7d\x7d"

/-- The parsers on this body. -/
def refusalJson : SerdeJson :=
  { value := fun _ => none
    errorEnvelope := fun text =>
      if text = refusalText then some "Use 'max_completion_tokens' instead." else none
    streamResponse := fun _ => .error "expected value at line 1 column 1" }

/-- A request with a token limit. -/
def limitedRequest : ModelRequest :=
  { model := "claude", messages := [⟨.user, "hello"⟩], options := { maxTokens := some 64 }
    tools := [], toolResults := [], metadata := ∅ }

/-- A key is stored and then used. -/
def demoCalls : Bool → AdapterCall
  | true => .credential (.setter (.setApiKey .anthropic "sk-ant-1" ⟨0, 0⟩))
  | false => .complete (AnthropicProvider.new AnthropicProvider.defaultHttpTransport) limitedRequest

/-- A server that does not know `max_tokens`. -/
def demoServer (post : HttpPost) : HttpAnswer :=
  if post.body.maxTokens.isSome then
    .ok { status := ⟨400, some "Bad Request"⟩, text := .ok refusalText
          json := .error ⟨false, "no choices"⟩, chunks := [] }
  else
    .ok { status := ⟨200, some "OK"⟩, text := .ok "",
          json := .ok
            { model := "claude", choices := [⟨⟨some "hi", none⟩, some "stop"⟩], usage := none }
          chunks := [] }

/-- The manager, a clock that stands still, and this server. -/
def demoEnvironment : (op : AdapterOp) → SecureCredentialManager →
    Option (op.Answer × SecureCredentialManager)
  | .now, manager => some (⟨1, 0⟩, manager)
  | .credential op, manager => some (op.perform.exec manager)
  | .post post, manager => some (demoServer post, manager)

/-- A call that is refused for its token limit and asks again, and another adapter's. -/
theorem keys_stay_with_their_provider_demo :
    ∃ trace : Trace AdapterSig Bool, (posts (localHistory false trace)).length = 2 ∧
      KeysStay refusalJson demoCalls trace := by
  have hact : ∀ (i : Bool) {op : AdapterSig.Op} {s answer s'},
      demoEnvironment op s = some (answer, s') → CredentialAct i s ⟨op, answer⟩ s' := by
    intro i op s answer s' h
    cases op with
    | credential op => exact Option.some.inj h
    | _ =>
        cases h
        rfl
  have hposts : (((adapterPool refusalJson demoCalls).procs true).execute demoEnvironment .new >>=
      fun first =>
        ((adapterPool refusalJson demoCalls).procs false).execute demoEnvironment first.2.2 >>=
        fun second => some (posts (localHistory false
          (first.1.map (true, ·) ++ second.1.map (false, ·)))).length) = some 2 := by
    decide +kernel
  simp only [Option.bind_eq_bind, Option.bind_eq_some_iff] at hposts
  obtain ⟨⟨events, value, s⟩, hfirst, ⟨events', value', s'⟩, hsecond, hlength⟩ := hposts
  have hrun := (Pool.Run.alone (hact true) hfirst
    (adapterPool refusalJson demoCalls).procs rfl).trans (Pool.Run.alone (hact false) hsecond _ rfl)
  exact ⟨_, Option.some.inj hlength, keys_stay_with_their_provider _ _ hrun⟩

end Fiddlesticks.Provider

import Fiddlesticks.Chat.TurnLog

/-!
# The conversation of a turn

`ConversationLog` is what the history of a turn has amounted to as a conversation: the transcript
it has loaded, the assistant message of each model round and the last request sent. Every request
carries that conversation, and the commit is its part after the loaded transcript
(`TurnCall.converses`).
-/

namespace Fiddlesticks.Chat

open Effect Prog Provider Tooling

/-! ## The log of a conversation -/

/-- The provider request that an operation sends. -/
def ChatOp.sentRequest : ChatOp → Option ModelRequest
  | .complete request => some request
  | .stream request => some request
  | _ => none

/-- The system prompt of a session as messages. -/
def systemMessages (session : ChatSession) : List Message :=
  match session.systemPrompt with
  | some systemPrompt => [⟨.system, systemPrompt⟩]
  | none => []

/-- What a turn has loaded, the texts of its model rounds and the last request it has sent. -/
structure ConversationLog where
  loaded : Option (List Message) := none
  texts : List String := []
  lastSent : Option ModelRequest := none

namespace ConversationLog

/-- What an event adds to the log. -/
def record (log : ConversationLog) : Event ChatSig → ConversationLog
  | ⟨.loadMessages _, .ok messages⟩ => { log with loaded := log.loaded.or (some messages) }
  | ⟨.complete request, .ok response⟩ =>
      { log with
        texts := log.texts ++ [(collectOutput response.output).1], lastSent := some request }
  | ⟨.stream request, .ok events⟩ =>
      { log with
        texts := log.texts ++ [(consumed {} events).assistantText], lastSent := some request }
  | ⟨.complete request, .error _⟩ => { log with lastSent := some request }
  | ⟨.stream request, .error _⟩ => { log with lastSent := some request }
  | _ => log

/-- The user message and one assistant message for each model round. -/
def block (request : ChatTurnRequest) (log : ConversationLog) : List Message :=
  ⟨.user, request.userInput⟩ :: log.texts.map (⟨.assistant, ·⟩)

/-- The system prompt, the loaded transcript, the user message and the assistant messages of the
rounds so far. -/
def conversation (request : ChatTurnRequest) (log : ConversationLog) : Option (List Message) :=
  log.loaded.map fun prior => systemMessages request.session ++ prior ++ log.block request

/-- The request carries the conversation, with the options of the turn or else of the policy. -/
def Carries (service : ChatService) (request : ChatTurnRequest) (log : ConversationLog)
    (sent : ModelRequest) : Prop :=
  log.conversation request = some sent.messages ∧
    sent.options.temperature = request.options.temperature.or service.policy.defaultTemperature ∧
    sent.options.maxTokens = request.options.maxTokens.or service.policy.defaultMaxTokens

/-- The operations that a turn may issue at this point of its conversation: it loads the transcript
of its session first, its requests carry the conversation, and it commits the part of it after the
transcript when a round has answered the last request. -/
def Allows (service : ChatService) (request : ChatTurnRequest) (log : ConversationLog) :
    ChatOp → Prop
  | .loadMessages sessionId => sessionId = request.session.id ∧ log = {}
  | .complete sent => log.Carries service request sent
  | .stream sent => log.Carries service request sent
  | .appendMessages sessionId messages =>
      sessionId = request.session.id ∧ messages = log.block request ∧
        ∃ sent text, log.lastSent = some sent ∧ log.texts.getLast? = some text ∧
          log.conversation request = some (sent.messages ++ [⟨.assistant, text⟩])
  | _ => True

end ConversationLog

/-- The conversation log of a history. -/
def conversationLog (h : History ChatSig) : ConversationLog :=
  h.foldl ConversationLog.record {}

/-- Nothing is logged at first. -/
@[simp] theorem conversation_log_nil : conversationLog [] = {} := rfl

/-- The log records event by event. -/
@[simp] theorem conversation_log_snoc (h : History ChatSig) (e : Event ChatSig) :
    conversationLog (h ++ [e]) = (conversationLog h).record e := by
  simp [conversationLog]

/-- The guard on the conversation of a turn. -/
abbrev Converses (service : ChatService) (request : ChatTurnRequest) (h : History ChatSig)
    (e : Event ChatSig) : Prop :=
  (conversationLog h).Allows service request e.op

/-! ## Parts that leave the conversation alone -/

/-- The operations that are no part of the conversation. -/
def ChatOp.isQuiet : ChatOp → Bool
  | .execute _ _ | .yield _ | .hook _ | .sleep _ => true
  | _ => false

/-- The program issues no operations that are part of the conversation. -/
abbrev Quiet {α : Type} (p : Prog ChatSig α) : Prop :=
  Uses (fun op : ChatOp => op.isQuiet = true) p

section

variable {service : ChatService} {request : ChatTurnRequest} {h : History ChatSig}

/-- A quiet event is none of the conversation's. -/
theorem quiet_event (service : ChatService) (request : ChatTurnRequest) {e : Event ChatSig}
    (he : e.op.isQuiet) :
    Converses service request h e ∧ (conversationLog h).record e = conversationLog h := by
  obtain ⟨op, answer⟩ := e
  cases op with
  | execute toolCall context => exact ⟨trivial, rfl⟩
  | yield event => exact ⟨trivial, rfl⟩
  | hook event => exact ⟨trivial, rfl⟩
  | sleep delay => exact ⟨trivial, rfl⟩
  | _ => cases he

/-- A program of quiet operations leaves the conversation as it is. -/
theorem Quiet.converses {α : Type} {p : Prog ChatSig α} (hp : Quiet p) :
    Obeys (Converses service request) (fun h' _ => conversationLog h' = conversationLog h) h p := by
  refine (Uses.obeys hp fun h e he => (quiet_event _ _ he).1).mono (fun _ _ hg => hg) ?_
  rintro h' - ⟨events, rfl, hevents⟩
  induction events using List.reverseRecOn with
  | nil => rw [List.append_nil]
  | append_singleton events e ih =>
      have hrest := ih fun e he => hevents e (List.mem_append_left _ he)
      rw [← List.append_assoc, conversation_log_snoc, hrest]
      exact (quiet_event service request (hevents e (by simp))).2

/-- Converting an error issues nothing. -/
theorem orElseRaise_uses {ε α : Type} {allowed : ChatOp → Prop} {convert : ε → ChatError}
    {p : Prog ChatSig (Except ε α)} (hp : Uses allowed p) :
    Uses allowed (orElseRaise convert p).run :=
  uses_bind hp fun result => by cases result <;> exact uses_pure _

/-- Yielding an event is quiet. -/
theorem yieldEvent_quiet (event : ChatEvent) : Quiet (yieldEvent event).run :=
  uses_map _ (uses_request rfl)

/-- Executing a call is quiet. -/
theorem execute_quiet (toolCall : ToolCall) (context : ToolExecutionContext) :
    Quiet (execute toolCall context).run :=
  orElseRaise_uses (uses_request rfl)

/-- Running the tools of a round is quiet. -/
theorem executeTools_quiet (sessionId : SessionId) (calls : List ToolCall) :
    Quiet (ChatService.executeTools sessionId calls).run := by
  induction calls with
  | nil => exact uses_pure _
  | cons toolCall calls ih =>
      rw [ChatService.executeTools]
      refine uses_except_bind (execute_quiet _ _) fun result => ?_
      exact uses_except_bind ih fun results => uses_pure _

/-- So it is while events are streamed. -/
theorem streamTools_quiet (sessionId : SessionId) (calls : List ToolCall) :
    Quiet (ChatService.streamTools sessionId calls).run := by
  induction calls with
  | nil => exact uses_pure _
  | cons toolCall calls ih =>
      rw [ChatService.streamTools]
      refine uses_except_bind (yieldEvent_quiet _) fun _ => ?_
      refine uses_except_bind (execute_quiet _ _) fun result => ?_
      refine uses_except_bind (yieldEvent_quiet _) fun _ => ?_
      exact uses_except_bind ih fun results => uses_pure _

/-- Consuming a stream is quiet. -/
theorem consumeEvents_quiet (round : StreamRound) (events : ProviderStream) :
    Quiet (consumeEvents round events).run := by
  induction events generalizing round with
  | nil => exact uses_pure _
  | cons event events ih =>
      cases event with
      | error error => exact uses_pure _
      | ok event =>
          rw [consumeEvents]
          cases chatEvent event with
          | none => exact ih _
          | some yielded => exact uses_except_bind (yieldEvent_quiet _) fun _ => ih _

/-- Consuming a stream leaves the conversation alone and ends in the round of the stream. -/
theorem consumeEvents_converses (round : StreamRound) (events : ProviderStream) :
    Obeys (Converses service request) (fun h' result => conversationLog h' = conversationLog h ∧
        ∀ final, result = .ok final → final = consumed round events) h
      (consumeEvents round events).run :=
  ((consumeEvents_quiet round events).converses.and
    (consumeEvents_obeys request round events)).mono
      (fun _ _ hg => hg.1) fun _ _ hlog => ⟨hlog.1, hlog.2.2⟩

/-! ## Asking the model -/

/-- Retries of a request leave the conversation alone until one is answered. -/
theorem retries_converse {α : Type} {provider : ProviderId} {operation : String}
    {policy : RetryPolicy} {convert : ProviderError → ChatError} (sent : ModelRequest)
    (text : α → String) {attempt : Prog ChatSig (Except ProviderError α)}
    (hattempt : ∀ h', (conversationLog h').loaded = (conversationLog h).loaded →
      (conversationLog h').texts = (conversationLog h).texts →
      Obeys (Converses service request) (fun h'' result => match result with
        | .ok value => conversationLog h'' = { conversationLog h with
            texts := (conversationLog h).texts ++ [text value], lastSent := some sent }
        | .error _ => (conversationLog h'').loaded = (conversationLog h).loaded ∧
            (conversationLog h'').texts = (conversationLog h).texts) h' attempt) :
    Obeys (Converses service request) (fun h' result => ∀ value, result = .ok value →
        conversationLog h' = { conversationLog h with
          texts := (conversationLog h).texts ++ [text value], lastSent := some sent }) h
      (orElseRaise convert
        (executeWithRetry (fun event => ask (.hook event)) (fun delay => ask (.sleep delay))
          provider operation policy (fun _ => attempt))).run := by
  have hsilent : ∀ h' (e : Event ChatSig), e.op.isRetry → Converses service request h' e ∧
      conversationLog (h' ++ [e]) = conversationLog h' := by
    rintro h' e he
    rw [conversation_log_snoc]
    refine quiet_event service request ?_
    obtain ⟨op, answer⟩ := e
    cases op with
    | hook event => rfl
    | sleep delay => rfl
    | _ => cases he
  refine orElseRaise_obeys (retries_obey
    (I := fun h' => (conversationLog h').loaded = (conversationLog h).loaded ∧
      (conversationLog h').texts = (conversationLog h).texts)
    (R := fun h' value => conversationLog h' = { conversationLog h with
      texts := (conversationLog h).texts ++ [text value], lastSent := some sent })
    (fun h' e he hI => ?_) (fun h' e value he hR => ?_) (fun h' hI => ?_) ⟨rfl, rfl⟩) ?_ ?_
  · obtain ⟨hallowed, hlog⟩ := hsilent h' e he
    exact ⟨hallowed, hlog ▸ hI⟩
  · obtain ⟨hallowed, hlog⟩ := hsilent h' e he
    exact ⟨hallowed, hlog.trans hR⟩
  · refine (hattempt h' hI.1 hI.2).mono (fun _ _ hg => hg) ?_
    rintro h'' (error | value) hresult
    · exact hresult
    · exact hresult
  · rintro h' value hlog other ⟨⟩
    exact hlog
  · rintro h' error - value ⟨⟩

/-- What asking the model amounts to: it sends the request, and a round adds its text. -/
abbrev Answered (h : History ChatSig) (sent : ModelRequest) (h' : History ChatSig)
    (result : Except ChatError Round) : Prop :=
  ∀ round, result = .ok round → conversationLog h' = { conversationLog h with
    texts := (conversationLog h).texts ++ [round.assistantMessage], lastSent := some sent }

/-- What the parts of a mode may do to the conversation. -/
structure TurnMode.Conversing {α : Type} (mode : TurnMode α) (service : ChatService)
    (request : ChatTurnRequest) : Prop where
  askModel : ∀ h provider sent, (conversationLog h).Carries service request sent →
    Obeys (Converses service request) (Answered h sent) h (mode.askModel provider sent).run
  executeTools : ∀ sessionId calls, Quiet (mode.executeTools sessionId calls).run
  limitReached : ∀ maxRoundTrips pendingToolCalls,
    Quiet (mode.limitReached maxRoundTrips pendingToolCalls).run
  deliver : ∀ result, Quiet (mode.deliver result).run

/-- A request still carries the conversation after failed attempts to send it. -/
theorem ConversationLog.Carries.again {log later : ConversationLog} {sent : ModelRequest}
    (h : log.Carries service request sent) (hloaded : later.loaded = log.loaded)
    (htexts : later.texts = log.texts) : later.Carries service request sent := by
  unfold ConversationLog.Carries ConversationLog.conversation ConversationLog.block at h ⊢
  rwa [hloaded, htexts]

/-- The requests of `run_turn` carry the conversation. -/
theorem runMode_conversing : service.runMode.Conversing service request where
  askModel h provider sent hsent := by
    refine obeys_except_seq (retries_converse sent (fun response : ModelResponse =>
      (collectOutput response.output).1) fun h' hloaded htexts => ?_) ?_ (by simp [Answered])
    · refine ask_obeys (.complete sent) fun answer => ⟨hsent.again hloaded htexts, ?_⟩
      cases answer <;> simp [ConversationLog.record, hloaded, htexts]
    · intro h' response hlog
      refine (obeys_except_pure _).mpr ?_
      rintro round ⟨⟩
      exact hlog response rfl
  executeTools := executeTools_quiet
  limitReached _ _ := uses_pure _
  deliver _ := uses_pure _

/-- The requests of `stream_turn` carry the conversation. -/
theorem streamMode_conversing : service.streamMode.Conversing service request where
  askModel h provider sent hsent := by
    rw [service.streamMode_askModel]
    refine obeys_except_seq (retries_converse sent (fun events : ProviderStream =>
      (consumed {} events).assistantText) fun h' hloaded htexts => ?_) ?_ (by simp [Answered])
    · refine ask_obeys (.stream sent) fun answer => ⟨hsent.again hloaded htexts, ?_⟩
      cases answer <;> simp [ConversationLog.record, hloaded, htexts]
    · intro h' events hlog
      refine obeys_except_seq (consumeEvents_converses _ _) ?_ (by simp [Answered])
      rintro h'' final ⟨hquiet, hfinal⟩
      refine (obeys_except_pure _).mpr ?_
      rintro round ⟨⟩
      rw [hquiet, hlog events rfl, hfinal final rfl]
      rfl
  executeTools := streamTools_quiet
  limitReached _ _ := yieldEvent_quiet _
  deliver _ := yieldEvent_quiet _

/-! ## The loop -/

/-- A turn that is about to ask the model: its conversation is that of the log, and what it will
persist is the part after the loaded transcript. -/
structure ConversationLog.Ready (request : ChatTurnRequest) (log : ConversationLog)
    (conversation persisted : List Message) : Prop where
  conversation : log.conversation request = some conversation
  persisted : persisted = log.block request

/-- The context of a turn has the session of its request and the options of the request or else of
the policy. -/
structure TurnContext.Prepared (context : TurnContext) (service : ChatService)
    (request : ChatTurnRequest) : Prop where
  session : context.session = request.session
  userMessage : context.userMessage = ⟨.user, request.userInput⟩
  temperature : context.temperature =
    request.options.temperature.or service.policy.defaultTemperature
  maxTokens : context.maxTokens = request.options.maxTokens.or service.policy.defaultMaxTokens

/-- The log after a round that answers the conversation. -/
theorem ConversationLog.Ready.answered {log : ConversationLog}
    {conversation persisted : List Message} (h : log.Ready request conversation persisted)
    (text : String) (sent : ModelRequest) :
    { log with texts := log.texts ++ [text], lastSent := some sent }.Ready request
      (conversation ++ [(⟨.assistant, text⟩ : Message)])
      (persisted ++ [(⟨.assistant, text⟩ : Message)]) where
  conversation := by
    obtain ⟨prior, hloaded, rfl⟩ := Option.map_eq_some_iff.mp h.conversation
    simp [ConversationLog.conversation, ConversationLog.block, hloaded]
  persisted := by simp [h.persisted, ConversationLog.block]

/-- The commit after a round is the part of the conversation after the loaded transcript. -/
theorem finishTurn_converses {α : Type} {mode : TurnMode α}
    (hmode : mode.Conversing service request)
    {log : ConversationLog} {conversation persisted : List Message}
    (hready : log.Ready request conversation persisted) {sent : ModelRequest}
    (hsent : conversation = sent.messages) (text : String) (result : ChatTurnResult)
    (hlog : conversationLog h =
      { log with texts := log.texts ++ [text], lastSent := some sent }) :
    Obeys (Converses service request) (fun _ _ => True) h
      (finishTurn mode request.session.id (persisted ++ [⟨.assistant, text⟩]) result).run := by
  have hnext := hready.answered text sent
  rw [← hlog] at hnext
  have hallowed : (conversationLog h).Allows service request
      (.appendMessages request.session.id (persisted ++ [⟨.assistant, text⟩])) := by
    refine ⟨rfl, hnext.persisted, sent, text, ?_, ?_, ?_⟩
    · rw [hlog]
    · rw [hlog, List.getLast?_concat]
    · rw [hnext.conversation, hsent]
  have hcommit : Obeys (Converses service request) (fun _ _ => True) h
      (appendMessages request.session.id (persisted ++ [⟨.assistant, text⟩])).run := by
    refine orElseRaise_obeys (Q := fun _ _ => True) ?_ (fun _ _ _ => trivial)
      (fun _ _ _ => trivial)
    exact ask_obeys (.appendMessages _ _) fun _ => ⟨hallowed, trivial⟩
  refine obeys_except_seq hcommit (fun h' _ _ => ?_) (fun _ _ _ => trivial)
  exact (hmode.deliver result).converses.mono (fun _ _ hg => hg) fun _ _ _ => trivial

/-- A request that `build_request` accepts is the one it assembles. -/
theorem eq_turnRequest_of_buildRequest {model : String} {messages : List Message}
    {temperature : Option F32} {maxTokens : Option UInt32} {stream : Bool}
    {toolResults : List ToolResult} {sent : ModelRequest}
    (h : buildRequest model messages temperature maxTokens stream toolResults = .ok sent) :
    sent = turnRequest model messages temperature maxTokens stream toolResults := by
  rw [buildRequest_eq] at h
  split at h <;> cases h
  rfl

/-- One round of a turn keeps to its conversation if the rounds after it do. -/
theorem turnLoop_round_converses {α : Type} {mode : TurnMode α}
    (hmode : mode.Conversing service request) {context : TurnContext}
    (hcontext : context.Prepared service request) {remaining : Nat}
    {conversation persisted : List Message} (toolResults : List ToolResult)
    (hready : (conversationLog h).Ready request conversation persisted)
    (hnext : ∀ left, remaining = left + 1 → ∀ h conversation persisted toolResults,
      (conversationLog h).Ready request conversation persisted →
      Obeys (Converses service request) (fun _ _ => True) h
        (turnLoop mode service context left conversation persisted toolResults).run) :
    Obeys (Converses service request) (fun _ _ => True) h
      (turnLoop mode service context remaining conversation persisted toolResults).run := by
  rw [turnLoop.eq_def, obeys_except_bind, obeys_except_lift]
  split
  · rename_i sent hrequest
    obtain rfl := eq_turnRequest_of_buildRequest hrequest
    refine obeys_except_seq (hmode.askModel h _ _ ?_) (fun h' round hround => ?_)
      (fun _ _ _ => trivial)
    · exact ⟨hready.conversation, hcontext.temperature, hcontext.maxTokens⟩
    have hlog := hround round rfl
    rw [hcontext.session] at hlog ⊢
    split
    · cases remaining with
      | zero =>
          refine obeys_except_seq (hmode.limitReached _ _).converses (fun h'' _ hquiet => ?_)
            (fun _ _ _ => trivial)
          exact finishTurn_converses hmode hready rfl _ _ (hquiet.trans hlog)
      | succ left =>
          refine obeys_except_seq (hmode.executeTools _ _).converses (fun h'' results hquiet => ?_)
            (fun _ _ _ => trivial)
          refine hnext left rfl h'' _ _ _ ?_
          rw [hquiet, hlog]
          exact hready.answered _ _
    · exact finishTurn_converses hmode hready rfl _ _ hlog
  · trivial

/-- Every round sends the conversation so far and the last one commits it. -/
theorem turnLoop_converses {α : Type} {mode : TurnMode α}
    (hmode : mode.Conversing service request) {context : TurnContext}
    (hcontext : context.Prepared service request) (remaining : Nat)
    {conversation persisted : List Message} (toolResults : List ToolResult)
    (hready : (conversationLog h).Ready request conversation persisted) :
    Obeys (Converses service request) (fun _ _ => True) h
      (turnLoop mode service context remaining conversation persisted toolResults).run := by
  induction remaining generalizing h conversation persisted toolResults with
  | zero => exact turnLoop_round_converses hmode hcontext toolResults hready (by simp)
  | succ remaining ih =>
      refine turnLoop_round_converses hmode hcontext toolResults hready ?_
      rintro left hleft h conversation persisted toolResults hready
      cases hleft
      exact ih toolResults hready

/-! ## Whole turns -/

/-- Preparing a turn loads the transcript of its session. -/
theorem prepareTurn_converses :
    Obeys (Converses service request) (fun h' result => ∀ context, result = .ok context →
        context.Prepared service request ∧
          (conversationLog h').Ready request context.conversationMessages [context.userMessage]) []
      (service.prepareTurn request).run := by
  rw [ChatService.prepareTurn]
  split
  · simp
  · have hload : Obeys (Converses service request) (fun h' result => ∀ prior,
        result = .ok prior → conversationLog h' = { loaded := some prior }) []
        (loadMessages request.session.id).run := by
      refine orElseRaise_obeys (Q := fun h' result => ∀ prior, result = .ok prior →
        conversationLog h' = { loaded := some prior }) ?_ ?_ ?_
      · refine ask_obeys (.loadMessages request.session.id) fun answer => ⟨⟨rfl, rfl⟩, ?_⟩
        rintro prior rfl
        rfl
      · rintro h' prior hlog other ⟨⟩
        exact hlog prior rfl
      · rintro h' error - prior ⟨⟩
    refine obeys_except_seq hload (fun h' prior hlog => ?_) (by simp)
    refine (obeys_except_pure _).mpr ?_
    rintro context ⟨⟩
    refine ⟨⟨rfl, rfl, rfl, rfl⟩, ?_, ?_⟩
    · rw [hlog prior rfl]
      rfl
    · rw [hlog prior rfl]
      rfl

/-- A turn sends and commits its conversation. -/
theorem turn_converses {α : Type} {mode : TurnMode α} (hmode : mode.Conversing service request) :
    Obeys (Converses service request) (fun _ _ => True) []
      (service.prepareTurn request >>= fun context =>
        turnLoop mode service context service.policy.maxToolRoundTrips
          context.conversationMessages [context.userMessage] []).run := by
  refine obeys_except_seq prepareTurn_converses (fun h context hprepared => ?_)
    (fun _ _ _ => trivial)
  obtain ⟨hcontext, hready⟩ := hprepared context rfl
  exact turnLoop_converses hmode hcontext _ _ hready

/-- A turn of either mode keeps to its conversation. -/
theorem TurnCall.converses (service : ChatService) (turn : TurnCall) :
    Obeys (Converses service turn.request) (fun _ _ => True) [] (turn.program service).run := by
  cases turn with
  | run request =>
      rw [program, ChatService.runTurn_eq]
      refine obeys_except_seq (Q := fun _ _ => True) ?_
        (fun _ _ _ => (obeys_except_pure _).mpr trivial) (fun _ _ _ => trivial)
      split
      · exact (obeys_except_throw _).mpr trivial
      · exact turn_converses runMode_conversing
  | stream request =>
      rw [program, ChatService.streamTurnToEnd_eq]
      exact obeys_except_seq (turn_converses streamMode_conversing)
        (fun _ _ _ => (obeys_except_pure _).mpr trivial) (fun _ _ _ => trivial)

end

end Fiddlesticks.Chat

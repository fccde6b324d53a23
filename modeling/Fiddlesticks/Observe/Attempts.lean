import Fiddlesticks.Chat.ConversationLog
import Fiddlesticks.Effect.Accounts
import Fiddlesticks.Harness.Conduct
import Fiddlesticks.Observe.Metrics

/-!
# The attempts of provider operations

A turn reports to its provider hooks the attempts of one provider operation after the other, each
attempt and each operation with its end. So does a turn inside a harness.
-/

namespace Fiddlesticks.Observe

open Effect Prog Provider Tooling Chat Harness

variable {α : Type}

/-! ## Attempts -/

/-- The provider operation of a process: none, an attempt of one, or one between two attempts. -/
inductive Retrying where
  | idle
  | attempting (label : String × String) (attempt : Nat)
  | waiting (label : String × String) (attempt : Nat)

namespace Retrying

/-- The state after a report. -/
def step : Retrying → HookEvent → Option Retrying
  | idle, .attemptStart provider operation attempt =>
      if attempt = 1 then some (attempting (provider.display, operation) 1) else none
  | waiting label attempt, .attemptStart provider operation next =>
      if label = (provider.display, operation) ∧ next = attempt + 1 then
        some (attempting label next)
      else none
  | attempting label attempt, .retryScheduled provider operation last _ _ =>
      if label = (provider.display, operation) ∧ last = attempt then some (waiting label attempt)
      else none
  | attempting label attempt, .success provider operation last =>
      if label = (provider.display, operation) ∧ last = attempt then some idle else none
  | attempting label attempt, .failure provider operation last _ =>
      if label = (provider.display, operation) ∧ last = attempt then some idle else none
  | _, _ => none

end Retrying

/-- The account of the attempts of a turn. -/
def turnRetries : Account ChatSig Retrying
  | state, .hook event => state.step event
  | state, _ => some state

/-- The account of the attempts of an execution. -/
def harnessRetries : Account HarnessSig Retrying
  | state, .chat op => turnRetries state op
  | state, _ => some state

/-- A retry loop reports its attempts in order, from the one it starts with, and then its end. -/
theorem executeWithRetryLoop_accords {provider : ProviderId} {operation : String}
    {policy : RetryPolicy} {execute : Nat → Prog ChatSig (Except ProviderError α)}
    (hexecute : ∀ attempt state, Settles turnRetries state (execute attempt)) (left attempt : Nat)
    {state : Retrying} (hstate : state.step (.attemptStart provider operation attempt) =
      some (.attempting (provider.display, operation) attempt)) :
    Accords turnRetries (· = .idle)
      (executeWithRetryLoop (fun event => Chat.ask (.hook event))
        (fun delay => Chat.ask (.sleep delay)) provider operation policy execute left attempt)
      state := by
  have hfail (error : ProviderError) : Accords turnRetries (· = .idle) (do
      Chat.ask (.hook (.failure provider operation attempt error))
      return .error error : Prog ChatSig (Except ProviderError α))
      (.attempting (provider.display, operation) attempt) :=
    accords_request_bind (if_pos ⟨rfl, rfl⟩) fun _ => settles_pure _
  induction left generalizing attempt state with
  | zero =>
      rw [executeWithRetryLoop.eq_def]
      refine accords_request_bind hstate fun _ => settles_bind (hexecute _ _) fun outcome => ?_
      cases outcome with
      | ok value => exact accords_request_bind (if_pos ⟨rfl, rfl⟩) fun _ => settles_pure _
      | error error => exact hfail error
  | succ left ih =>
      rw [executeWithRetryLoop.eq_def]
      refine accords_request_bind hstate fun _ => settles_bind (hexecute _ _) fun outcome => ?_
      cases outcome with
      | ok value => exact accords_request_bind (if_pos ⟨rfl, rfl⟩) fun _ => settles_pure _
      | error error =>
          dsimp only
          split
          · cases policy.backoffForAttempt attempt with
            | none => exact accords_call.mpr ⟨_, rfl, fun answer => answer.elim⟩
            | some delay =>
                refine accords_request_bind (if_pos ⟨rfl, rfl⟩) fun _ => ?_
                refine accords_request_bind rfl fun _ => ?_
                refine ih (attempt + 1) (if_pos ⟨rfl, rfl⟩) fun error => ?_
                exact accords_request_bind (if_pos ⟨rfl, rfl⟩) fun _ => settles_pure _
          · exact hfail error

/-! ## Turns -/

/-- The operation is not a report. -/
def Unreported : ChatOp → Prop
  | .hook _ => False
  | _ => True

/-- A turn that reports nothing. -/
theorem unreported_settles {p : Prog ChatSig α} (h : Uses Unreported p) (state : Retrying) :
    Settles turnRetries state p := by
  refine h.settles fun op hop => ?_
  cases op with
  | hook event => exact hop.elim
  | _ => rfl

/-- Yielding an event is not reported. -/
theorem yieldEvent_unreported (event : ChatEvent) : Uses Unreported (yieldEvent event).run :=
  uses_map _ (uses_request trivial)

/-- Executing a call is not reported to the hooks of the provider. -/
theorem execute_unreported (toolCall : ToolCall) (context : ToolExecutionContext) :
    Uses Unreported (Chat.execute toolCall context).run :=
  orElseRaise_uses (uses_request trivial)

/-- Neither are the tools of a round. -/
theorem executeTools_unreported (sessionId : SessionId) (calls : List ToolCall) :
    Uses Unreported (ChatService.executeTools sessionId calls).run := by
  induction calls with
  | nil => exact uses_pure _
  | cons toolCall calls ih =>
      rw [ChatService.executeTools]
      refine uses_except_bind (execute_unreported _ _) fun result => ?_
      exact uses_except_bind ih fun results => uses_pure _

/-- Nor are they while events are streamed. -/
theorem streamTools_unreported (sessionId : SessionId) (calls : List ToolCall) :
    Uses Unreported (ChatService.streamTools sessionId calls).run := by
  induction calls with
  | nil => exact uses_pure _
  | cons toolCall calls ih =>
      rw [ChatService.streamTools]
      refine uses_except_bind (yieldEvent_unreported _) fun _ => ?_
      refine uses_except_bind (execute_unreported _ _) fun result => ?_
      refine uses_except_bind (yieldEvent_unreported _) fun _ => ?_
      exact uses_except_bind ih fun results => uses_pure _

/-- Nor is consuming a stream. -/
theorem consumeEvents_unreported (round : StreamRound) (events : ProviderStream) :
    Uses Unreported (consumeEvents round events).run := by
  induction events generalizing round with
  | nil => exact uses_pure _
  | cons event events ih =>
      cases event with
      | error error => exact uses_pure _
      | ok event =>
          rw [consumeEvents]
          cases chatEvent event with
          | none => exact ih _
          | some yielded => exact uses_except_bind (yieldEvent_unreported _) fun _ => ih _

/-- An operation that is retried has ended when its outcome is known. -/
theorem retried_settles {provider : ProviderId} {operation : String} {policy : RetryPolicy}
    {convert : ProviderError → ChatError} {execute : Nat → Prog ChatSig (Except ProviderError α)}
    (hexecute : ∀ attempt, Uses Unreported (execute attempt)) :
    Settles turnRetries .idle (orElseRaise convert
      (executeWithRetry (fun event => Chat.ask (.hook event))
        (fun delay => Chat.ask (.sleep delay)) provider operation policy execute)).run := by
  have hloop : Settles turnRetries .idle
      (executeWithRetry (fun event => Chat.ask (.hook event))
        (fun delay => Chat.ask (.sleep delay)) provider operation policy execute) :=
    executeWithRetryLoop_accords (fun attempt => unreported_settles (hexecute attempt)) _ 1 rfl
  refine settles_bind hloop fun outcome => ?_
  cases outcome with
  | ok value => exact settles_pure _
  | error error => exact settles_pure _

/-- The parts of a mode end with nothing open. -/
structure ModeSettles (mode : TurnMode α) : Prop where
  askModel : ∀ provider request, Settles turnRetries .idle (mode.askModel provider request).run
  executeTools : ∀ sessionId calls, Uses Unreported (mode.executeTools sessionId calls).run
  limitReached : ∀ maxRoundTrips pendingToolCalls,
    Uses Unreported (mode.limitReached maxRoundTrips pendingToolCalls).run
  deliver : ∀ result, Uses Unreported (mode.deliver result).run

variable (service : ChatService)

/-- The requests of `run_turn` are settled when they end. -/
theorem runMode_settles : ModeSettles service.runMode where
  askModel provider request := by
    refine settles_except_bind (p := service.completeWithRetry provider request) ?_
      fun response => settles_pure _
    exact retried_settles fun _ => uses_request trivial
  executeTools := executeTools_unreported
  limitReached _ _ := uses_pure _
  deliver _ := uses_pure _

/-- So are those of `stream_turn`. -/
theorem streamMode_settles : ModeSettles service.streamMode where
  askModel provider request := by
    rw [service.streamMode_askModel]
    refine settles_except_bind (retried_settles fun _ => uses_request trivial) fun events => ?_
    refine settles_except_bind (p := consumeEvents {} events) ?_ fun round => settles_pure _
    exact unreported_settles (consumeEvents_unreported {} events) .idle
  executeTools := streamTools_unreported
  limitReached _ _ := yieldEvent_unreported _
  deliver _ := yieldEvent_unreported _

/-- The loop of a turn ends with nothing open. -/
theorem turnLoop_settles {mode : TurnMode α} (hmode : ModeSettles mode) (context : TurnContext)
    (remaining : Nat) (conversation persisted : List Message) (toolResults : List ToolResult) :
    Settles turnRetries .idle
      (turnLoop mode service context remaining conversation persisted toolResults).run := by
  have hfinish : ∀ persisted result, Settles turnRetries .idle
      (finishTurn mode context.session.id persisted result).run := by
    intro persisted result
    refine unreported_settles ?_ .idle
    refine uses_except_bind (p := appendMessages context.session.id persisted) ?_
      fun _ => hmode.deliver result
    exact orElseRaise_uses (uses_request trivial)
  induction remaining generalizing conversation persisted toolResults with
  | zero =>
      rw [turnLoop]
      refine settles_except_bind (settles_pure _) fun request => ?_
      refine settles_except_bind (hmode.askModel _ _) fun round => ?_
      split
      · refine settles_except_bind ?_ fun _ => hfinish _ _
        exact unreported_settles (hmode.limitReached _ _) .idle
      · exact hfinish _ _
  | succ remaining ih =>
      rw [turnLoop]
      refine settles_except_bind (settles_pure _) fun request => ?_
      refine settles_except_bind (hmode.askModel _ _) fun round => ?_
      split
      · refine settles_except_bind ?_ fun results => ih _ _ _
        exact unreported_settles (hmode.executeTools _ _) .idle
      · exact hfinish _ _

/-- The beginning of a turn makes no requests. -/
theorem prepareTurn_settles (request : ChatTurnRequest) :
    Settles turnRetries .idle (service.prepareTurn request).run := by
  refine unreported_settles ?_ .idle
  rw [ChatService.prepareTurn]
  split
  · exact uses_pure _
  · exact uses_except_bind (p := loadMessages request.session.id)
      (orElseRaise_uses (uses_request trivial)) fun prior => uses_pure _

/-- The event stream of a turn ends with nothing open. -/
theorem streamTurnLoop_settles (context : TurnContext) (remaining : Nat)
    (conversation persisted : List Message) (toolResults : List ToolResult) :
    Settles turnRetries .idle (service.streamTurnLoop context remaining conversation persisted
      toolResults).run := by
  rw [service.streamTurnLoop_eq]
  exact turnLoop_settles service (streamMode_settles service) _ _ _ _ _

/-- `run_turn` leaves no attempt under way. -/
theorem runTurn_settles (request : ChatTurnRequest) :
    Settles turnRetries .idle (service.runTurn request).run := by
  rw [service.runTurn_eq]
  split
  · exact settles_pure _
  · exact settles_except_bind (prepareTurn_settles service request) fun context =>
      turnLoop_settles service (runMode_settles service) _ _ _ _ _

/-- Every turn ends with nothing open. -/
theorem turn_settles (call : TurnCall) :
    Settles turnRetries .idle (call.program service).run := by
  cases call with
  | run request =>
      exact settles_except_bind (p := service.runTurn request) (runTurn_settles service request)
        fun result => settles_pure _
  | stream request =>
      refine settles_except_bind (p := service.streamTurnToEnd request) ?_ fun _ => settles_pure _
      rw [service.streamTurnToEnd_eq]
      exact settles_except_bind (prepareTurn_settles service request) fun context =>
        turnLoop_settles service (streamMode_settles service) _ _ _ _ _

/-! ## Turns inside a harness -/

/-- An operation of a turn does inside a harness what the turn's account says of it. -/
theorem chatOp_accords (storesInMemory : Bool) (op : ChatOp) (state state' : Retrying)
    (h : turnRetries state op = some state') :
    Accords harnessRetries (· = state') (chatOp storesInMemory op) state := by
  cases op with
  | loadMessages sessionId =>
      cases h
      rw [chatOp]
      split
      · exact settles_map _ (settles_request rfl)
      · exact settles_request rfl
  | appendMessages sessionId messages =>
      cases h
      rw [chatOp]
      split
      · exact settles_map _ (settles_request rfl)
      · exact settles_request rfl
  | _ => exact accords_request h

/-- A turn of the harness leaves none either. -/
theorem chatTurn_settles (chat : HarnessChat) {turn : Turn α}
    (h : Settles turnRetries .idle turn.run) :
    Settles harnessRetries .idle (chatTurn chat turn).run :=
  settles_map _ (Accords.translate (chatOp_accords chat.storesInMemory) h)

/-- Following a stream ends with nothing open if the stream does. -/
theorem followStream_accords (chat : HarnessChat) (observed : Bool)
    {stream : Prog ChatSig (Except ChatError Unit)} (finalResult : Option ChatTurnResult)
    {state : Retrying} (h : Accords turnRetries (· = .idle) stream state) :
    Accords harnessRetries (· = .idle) (followStream chat observed finalResult stream) state := by
  induction stream generalizing finalResult state with
  | pure result =>
      have hidle : state = .idle := (accords_pure (Q := (· = Retrying.idle))).mp h
      subst hidle
      cases result <;> cases finalResult <;> exact settles_pure _
  | call op next ih =>
      obtain ⟨state', hstate, hnext⟩ := accords_call.mp h
      cases op with
      | yield event =>
          cases hstate
          rw [followStream, observe]
          refine settles_bind ?_ fun _ => ih () _ (hnext ())
          split
          · exact settles_request rfl
          · exact settles_pure ()
      | _ =>
          rw [followStream]
          · exact accords_bind (chatOp_accords _ _ _ _ hstate)
              fun answer => ih answer _ (hnext answer)
          · simp

/-- A turn of an execution ends with nothing open. -/
theorem executeTurn_settles (chat : HarnessChat) (turnRequest : ChatTurnRequest)
    (observed : Bool) :
    Settles harnessRetries .idle (executeTurn chat turnRequest observed).run := by
  by_cases hstream : turnRequest.options.stream = true
  · rw [executeTurn_stream chat turnRequest observed hstream]
    refine settles_except_bind (chatTurn_settles chat (prepareTurn_settles chat.service _))
      fun context => ?_
    exact followStream_accords chat observed none (streamTurnLoop_settles chat.service _ _ _ _ _)
  · rw [executeTurn, if_neg hstream]
    exact chatTurn_settles chat (runTurn_settles chat.service _)

end Fiddlesticks.Observe

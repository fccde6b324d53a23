import Fiddlesticks.Chat.RoundLog

/-!
# The tool loop of a turn

`LoopLog` is what the history of a turn has amounted to as a loop over tool rounds: the tool calls
of each model answer, the calls executed since the last one with their outcomes, and the limit
signals. Both modes of the turn loop run the calls of an answer in order, one tool round for each
answer, and end within the limit of the policy (`runTurn_loops`, `streamTurn_loops`).
-/

namespace Fiddlesticks.Chat

open Effect Prog Provider Tooling

/-! ## The log of the loop -/

/-- The tool calls of the model answers so far, the number of tool rounds, the calls executed since
the last answer, the limit signals and whether the turn has completed on its stream. -/
structure LoopLog where
  answers : List (List ToolCall) := []
  toolRounds : Nat := 0
  executed : List (ToolCall × Except ToolError ToolExecutionResult) := []
  limits : List (Nat × Nat) := []
  completed : Bool := false

namespace LoopLog

/-- The model has answered with tool calls. -/
def answered (log : LoopLog) (calls : List ToolCall) : LoopLog :=
  { log with answers := log.answers ++ [calls], executed := [] }

/-- A tool call has been executed. The first one after an answer begins a tool round. -/
def execute (log : LoopLog) (call : ToolCall) (outcome : Except ToolError ToolExecutionResult) :
    LoopLog :=
  { log with
    toolRounds := if log.executed = [] then log.toolRounds + 1 else log.toolRounds
    executed := log.executed ++ [(call, outcome)] }

/-- What an event adds to the log. -/
def record (log : LoopLog) : Event ChatSig → LoopLog
  | ⟨.complete _, .ok response⟩ => log.answered (collectOutput response.output).2
  | ⟨.stream _, .ok events⟩ => log.answered (roundCalls events)
  | ⟨.execute toolCall _, outcome⟩ => log.execute toolCall outcome
  | ⟨.yield (.toolRoundLimitReached maxRoundTrips pendingToolCalls), _⟩ =>
      { log with limits := log.limits ++ [(maxRoundTrips, pendingToolCalls)] }
  | ⟨.yield (.turnComplete _), _⟩ => { log with completed := true }
  | _ => log

/-- The results of the executed calls, if none has failed. -/
def results (log : LoopLog) : Option (List ToolResult) :=
  log.executed.mapM fun (_, outcome) => match outcome with
    | .ok result => some ⟨result.toolCallId, result.output⟩
    | .error _ => none

/-- The calls of the last answer. -/
def lastCalls (log : LoopLog) : List ToolCall :=
  log.answers.getLast?.getD []

/-- The turn goes on: no call has failed, and it has not completed. -/
structure Open (log : LoopLog) : Prop where
  results_ne : log.results ≠ none
  completed_eq : log.completed = false

variable (service : ChatService)

/-- The model may be asked: all calls of the last answer are executed and the results go with the
request. -/
structure Asks (log : LoopLog) (toolResults : List ToolResult) : Prop where
  executed_eq : log.executed.map Prod.fst = log.lastCalls
  results_eq : log.results = some toolResults
  answers_le : log.answers.length ≤ service.policy.maxToolRoundTrips
  rounds_eq : log.toolRounds = log.answers.length
  limits_eq : log.limits = []
  completed_eq : log.completed = false

/-- The next call of the last answer may be executed. -/
structure Executes (sessionId : SessionId) (log : LoopLog) (call : ToolCall)
    (context : ToolExecutionContext) : Prop where
  runtime : service.hasToolRuntime = true
  next : log.executed.map Prod.fst ++ [call] <+: log.lastCalls
  context_eq : context = .new sessionId
  answers_le : log.answers.length ≤ service.policy.maxToolRoundTrips

/-- The last answer is final: its calls are not executed. -/
structure Final (log : LoopLog) : Prop where
  answers_eq : log.answers.length = log.toolRounds + 1
  executed_eq : log.executed = []
  rounds_le : log.toolRounds ≤ service.policy.maxToolRoundTrips
  pending : service.hasToolRuntime = true → log.lastCalls ≠ [] →
    log.toolRounds = service.policy.maxToolRoundTrips

/-- The limit of tool rounds may be signalled. -/
structure Limits (log : LoopLog) (maxRoundTrips pendingToolCalls : Nat) : Prop where
  final : log.Final service
  runtime : service.hasToolRuntime = true
  calls : log.lastCalls ≠ []
  max_eq : maxRoundTrips = service.policy.maxToolRoundTrips
  pending_eq : pendingToolCalls = log.lastCalls.length
  limits_eq : log.limits = []

/-- The turn may complete with the result. -/
structure Completes (streaming : Bool) (log : LoopLog) (result : ChatTurnResult) : Prop where
  final : log.Final service
  calls_eq : result.toolCalls = log.lastCalls
  limit_iff : result.toolRoundLimitReached = true ↔
    service.hasToolRuntime = true ∧ result.toolCalls ≠ []
  limits_eq : log.limits = if streaming && result.toolRoundLimitReached then
    [(service.policy.maxToolRoundTrips, result.toolCalls.length)] else []

/-- The operations that a turn may issue at this point of its loop. After a failed call and after
its completion there are none. -/
def Allows (request : ChatTurnRequest) (log : LoopLog) (op : ChatOp) : Prop :=
  log.Open ∧ match op with
    | .complete modelRequest => log.Asks service modelRequest.toolResults
    | .stream modelRequest => log.Asks service modelRequest.toolResults
    | .execute toolCall context => log.Executes service request.session.id toolCall context
    | .appendMessages _ _ => log.Final service
    | .yield (.toolRoundLimitReached maxRoundTrips pendingToolCalls) =>
        log.Limits service maxRoundTrips pendingToolCalls
    | .yield (.turnComplete result) => log.Completes service true result
    | _ => True

end LoopLog

/-- The loop of a history. -/
def loopLog (h : History ChatSig) : LoopLog :=
  h.foldl LoopLog.record {}

/-- Nothing is logged at first. -/
@[simp] theorem loop_log_nil : loopLog [] = {} := rfl

/-- The log records event by event. -/
@[simp] theorem loop_log_snoc (h : History ChatSig) (e : Event ChatSig) :
    loopLog (h ++ [e]) = (loopLog h).record e := by
  simp [loopLog]

/-- The guard on the loop of a turn. -/
abbrev Loops (service : ChatService) (request : ChatTurnRequest) (h : History ChatSig)
    (e : Event ChatSig) : Prop :=
  (loopLog h).Allows service request e.op

/-! ## Executing calls -/

/-- An execution adds its result to those of the round. -/
theorem results_execute_ok (log : LoopLog) (toolCall : ToolCall) (result : ToolExecutionResult) :
    (log.execute toolCall (.ok result)).results =
      log.results.map (· ++ [⟨result.toolCallId, result.output⟩]) := by
  unfold LoopLog.results LoopLog.execute
  rw [List.mapM_append]
  cases log.executed.mapM (fun entry => match entry.2 with
    | .ok result => some (⟨result.toolCallId, result.output⟩ : ToolResult)
    | .error _ => none) <;> rfl

/-- A turn begins without a failure. -/
theorem LoopLog.open_start : ({} : LoopLog).Open :=
  ⟨Option.some_ne_none _, rfl⟩

/-- After a successful call the turn goes on. -/
theorem LoopLog.Open.execute {log : LoopLog} (h : log.Open) (toolCall : ToolCall)
    (result : ToolExecutionResult) : (log.execute toolCall (.ok result)).Open where
  results_ne := by
    rw [results_execute_ok, ne_eq, Option.map_eq_none_iff]
    exact h.results_ne
  completed_eq := h.completed_eq

/-- After an answer the turn goes on. -/
theorem LoopLog.Open.answered {log : LoopLog} (h : log.Open) (calls : List ToolCall) :
    (log.answered calls).Open where
  results_ne := by simp [LoopLog.answered, LoopLog.results]
  completed_eq := h.completed_eq

/-- A turn that asks the model goes on. -/
theorem LoopLog.Asks.isOpen {service : ChatService} {log : LoopLog} {toolResults : List ToolResult}
    (h : log.Asks service toolResults) : log.Open where
  results_ne := by simp [h.results_eq]
  completed_eq := h.completed_eq

/-- The log after the calls have been executed with these results. -/
structure LoopLog.Ran (log : LoopLog) (calls : List ToolCall) (results : List ToolResult)
    (log' : LoopLog) : Prop where
  answers_eq : log'.answers = log.answers
  limits_eq : log'.limits = log.limits
  completed_eq : log'.completed = log.completed
  executed_eq : log'.executed.map Prod.fst = log.executed.map Prod.fst ++ calls
  results_eq : log'.results = log.results.map (· ++ results)
  rounds_eq : log'.toolRounds =
    if log.executed = [] ∧ calls ≠ [] then log.toolRounds + 1 else log.toolRounds

/-- Running no calls changes nothing. -/
theorem LoopLog.Ran.refl (log : LoopLog) : log.Ran [] [] log where
  answers_eq := rfl
  limits_eq := rfl
  completed_eq := rfl
  executed_eq := (List.append_nil _).symm
  results_eq := by simp
  rounds_eq := by simp

/-- One more call in front of the later ones. -/
theorem LoopLog.Ran.cons {log log' : LoopLog} {toolCall : ToolCall} {calls : List ToolCall}
    {result : ToolExecutionResult} {results : List ToolResult}
    (h : (log.execute toolCall (.ok result)).Ran calls results log') :
    log.Ran (toolCall :: calls) (⟨result.toolCallId, result.output⟩ :: results) log' where
  answers_eq := h.answers_eq
  limits_eq := h.limits_eq
  completed_eq := h.completed_eq
  executed_eq := by
    rw [h.executed_eq, LoopLog.execute, List.map_append, List.append_assoc]
    rfl
  results_eq := by
    rw [h.results_eq, results_execute_ok, Option.map_map]
    congr 1
    funext earlier
    exact List.append_assoc _ _ _
  rounds_eq := by
    rw [h.rounds_eq, LoopLog.execute]
    simp

/-- The ways in which a turn fails, with the error of each. -/
inductive LoopLog.Fails (service : ChatService) (streaming : Bool) (log : LoopLog)
    (error : ChatError) : Prop where
  /-- The last of the executed calls has failed. -/
  | called {before : List (ToolCall × Except ToolError ToolExecutionResult)} {toolCall : ToolCall}
      {toolError : ToolError} (hexecuted : log.executed = before ++ [(toolCall, .error toolError)])
      (herror : error = (ChatError.ofTool toolError).withPhase .tooling)
  /-- All calls of the last answer have been executed, and there is no next answer. -/
  | unanswered (hopen : log.Open) (hexecuted : log.executed.map Prod.fst = log.lastCalls)
      (hphase : error.phase ≠ some .tooling)
  /-- The stream of the last answer breaks off. -/
  | interrupted (hstreaming : streaming = true) (hopen : log.Open) (hexecuted : log.executed = [])
      (hphase : error.phase = some .streaming)
  /-- The last answer is final, and the turn is not committed. -/
  | uncommitted (hopen : log.Open) (hfinal : log.Final service)
      (hphase : error.phase = some .storage)

/-- Without a failed call there is no call to fail at. -/
theorem LoopLog.Open.not_failed {log : LoopLog} (h : log.Open) (toolCall : ToolCall)
    (toolError : ToolError) : (toolCall, Except.error toolError) ∉ log.executed := by
  intro hmem
  obtain ⟨before, after, hsplit⟩ := List.append_of_mem hmem
  refine absurd ?_ h.results_ne
  rw [LoopLog.results, hsplit, List.mapM_append, List.mapM_cons]
  cases before.mapM (fun entry => match entry.2 with
    | .ok result => some (⟨result.toolCallId, result.output⟩ : ToolResult)
    | .error _ => none) <;> rfl

/-- After a failed call the turn fails with its error. -/
theorem LoopLog.fails_execute (service : ChatService) (streaming : Bool) (log : LoopLog)
    (toolCall : ToolCall) (toolError : ToolError) :
    (log.execute toolCall (.error toolError)).Fails service streaming
      ((ChatError.ofTool toolError).withPhase .tooling) :=
  .called rfl rfl

section

variable {service : ChatService} {streaming : Bool} {request : ChatTurnRequest}
  {h : History ChatSig}

/-- Executing a call logs its outcome, and a failure ends the turn. -/
theorem execute_loops {toolCall : ToolCall} {context : ToolExecutionContext}
    (hopen : (loopLog h).Open)
    (hexecutes : (loopLog h).Executes service request.session.id toolCall context) :
    Obeys (Loops service request) (fun h' result => match result with
      | .ok result => loopLog h' = (loopLog h).execute toolCall (.ok result)
      | .error error => (loopLog h').Fails service streaming error) h
      (execute toolCall context).run := by
  refine orElseRaise_obeys (Q := fun h' outcome => loopLog h' =
    (loopLog h).execute toolCall outcome) ?_ (fun _ _ hlog => hlog) ?_
  · exact ask_obeys (.execute toolCall context) fun answer =>
      ⟨⟨hopen, hexecutes⟩, loop_log_snoc _ _⟩
  · intro h' error hlog
    show (loopLog h').Fails service streaming _
    rw [hlog]
    exact LoopLog.fails_execute service streaming _ toolCall error

/-- The postcondition of running tools. -/
def LoopLog.RunsTools (service : ChatService) (streaming : Bool) (log : LoopLog)
    (calls : List ToolCall)
    (h : History ChatSig) : Except ChatError (List ToolResult) → Prop
  | .ok results => log.Ran calls results (loopLog h)
  | .error error => (loopLog h).Fails service streaming error

/-- The calls may be executed one after the other. -/
structure LoopLog.Runnable (service : ChatService) (log : LoopLog) (calls : List ToolCall) :
    Prop where
  runtime : service.hasToolRuntime = true
  calls_eq : log.executed.map Prod.fst ++ calls = log.lastCalls
  isOpen : log.Open
  answers_le : log.answers.length ≤ service.policy.maxToolRoundTrips

/-- The first of the calls to run may be executed. -/
theorem LoopLog.Runnable.executes {log : LoopLog} {toolCall : ToolCall} {calls : List ToolCall}
    (h : log.Runnable service (toolCall :: calls)) (sessionId : SessionId) :
    log.Executes service sessionId toolCall (.new sessionId) where
  runtime := h.runtime
  next := ⟨calls, by rw [List.append_assoc]; exact h.calls_eq⟩
  context_eq := rfl
  answers_le := h.answers_le

/-- After the first call has succeeded the others are left to run. -/
theorem LoopLog.Runnable.rest {log : LoopLog} {toolCall : ToolCall} {calls : List ToolCall}
    (h : log.Runnable service (toolCall :: calls)) (result : ToolExecutionResult) :
    (log.execute toolCall (.ok result)).Runnable service calls where
  runtime := h.runtime
  calls_eq := by
    rw [LoopLog.execute, List.map_append, List.append_assoc]
    exact h.calls_eq
  isOpen := h.isOpen.execute toolCall result
  answers_le := h.answers_le

/-- `run_turn` runs the calls of a round one after the other. -/
theorem executeTools_loops {calls : List ToolCall} (hcalls : (loopLog h).Runnable service calls) :
    Obeys (Loops service request) ((loopLog h).RunsTools service streaming calls) h
      (ChatService.executeTools request.session.id calls).run := by
  induction calls generalizing h with
  | nil => exact (obeys_except_pure _).mpr (.refl _)
  | cons toolCall calls ih =>
      rw [ChatService.executeTools]
      refine obeys_except_seq (execute_loops hcalls.isOpen (hcalls.executes _)) ?_
        (fun h' error hfails => hfails)
      intro h' result hlog
      have hrest := ih (h := h') (by rw [hlog]; exact hcalls.rest result)
      rw [hlog] at hrest
      refine obeys_except_seq hrest ?_ (fun h'' error hfails => hfails)
      exact fun h'' results hran => (obeys_except_pure _).mpr hran.cons

/-! ## Events, retries and streams -/

/-- The event neither signals the limit nor completes the turn. -/
def ChatEvent.isProgress : ChatEvent → Bool
  | .toolRoundLimitReached _ _ | .turnComplete _ => false
  | _ => true

/-- Every stream event that is handed on is progress. -/
theorem chatEvent_isProgress {event : StreamEvent} {yielded : ChatEvent}
    (h : chatEvent event = some yielded) : yielded.isProgress := by
  cases event with
  | messageComplete message =>
      rw [chatEvent] at h
      split at h
      · cases h
        rfl
      · cases h
  | responseComplete response => cases h
  | _ =>
      cases h
      rfl

/-- Events on the way leave the loop alone. -/
theorem yieldEvent_loops {event : ChatEvent} (hevent : event.isProgress)
    (hopen : (loopLog h).Open) :
    Obeys (Loops service request) (fun h' result => loopLog h' = loopLog h ∧ result = .ok ()) h
      (yieldEvent event).run := by
  refine yieldEvent_obeys_iff.mpr ⟨⟨hopen, ?_⟩, ?_, rfl⟩
  · cases event with
    | toolRoundLimitReached maxRoundTrips pendingToolCalls => cases hevent
    | turnComplete result => cases hevent
    | _ => trivial
  · rw [loop_log_snoc]
    cases event with
    | toolRoundLimitReached maxRoundTrips pendingToolCalls => cases hevent
    | turnComplete result => cases hevent
    | _ => rfl

/-- `stream_turn` runs the calls of a round one after the other. -/
theorem streamTools_loops {calls : List ToolCall} (hcalls : (loopLog h).Runnable service calls) :
    Obeys (Loops service request) ((loopLog h).RunsTools service streaming calls) h
      (ChatService.streamTools request.session.id calls).run := by
  induction calls generalizing h with
  | nil => exact (obeys_except_pure _).mpr (.refl _)
  | cons toolCall calls ih =>
      rw [ChatService.streamTools]
      refine obeys_except_seq (yieldEvent_loops rfl hcalls.isOpen) ?_ (by simp)
      rintro h₁ _ ⟨hstarted, -⟩
      rw [← hstarted] at hcalls ⊢
      refine obeys_except_seq (execute_loops hcalls.isOpen (hcalls.executes _)) ?_
        (fun h₂ error hfails => hfails)
      intro h₂ result hlog
      have hafter := hcalls.rest result
      rw [← hlog] at hafter
      refine obeys_except_seq (yieldEvent_loops rfl hafter.isOpen) ?_ (by simp)
      rintro h₃ _ ⟨hfinished, -⟩
      rw [← hfinished] at hafter
      have hrest := ih hafter
      rw [hfinished, hlog] at hrest
      refine obeys_except_seq hrest ?_ (fun h₄ error hfails => hfails)
      exact fun h₄ results hran => (obeys_except_pure _).mpr hran.cons

/-- Consuming a stream fails in the phase of streaming. -/
theorem consumeEvents_phase (round : StreamRound) (events : ProviderStream) :
    Obeys (fun _ _ => True) (fun _ result => ∀ error, result = .error error →
        error.phase = some .streaming) h (consumeEvents round events).run := by
  induction events generalizing h round with
  | nil => simp [consumeEvents]
  | cons event events ih =>
      cases event with
      | error error => simp [consumeEvents, ChatError.withPhase]
      | ok event =>
          rw [consumeEvents]
          cases chatEvent event with
          | none => exact ih (round.update event)
          | some yielded =>
              exact obeys_except_seq (Q := fun _ result => result = .ok ())
                (yieldEvent_obeys_iff.mpr ⟨trivial, rfl⟩) (fun _ _ _ => ih (round.update event))
                (by simp)

/-- Consuming a stream leaves the loop alone and ends in the round of the stream, or fails. -/
theorem consumeEvents_loops (hopen : (loopLog h).Open) (round : StreamRound)
    (events : ProviderStream) :
    Obeys (Loops service request) (fun h' result => loopLog h' = loopLog h ∧ match result with
        | .ok final => final = consumed round events
        | .error error => error.phase = some .streaming) h
      (consumeEvents round events).run := by
  have hkeep : Obeys (Loops service request) (fun h' result => loopLog h' = loopLog h ∧
      ∀ final, result = .ok final → final = consumed round events) h
      (consumeEvents round events).run :=
    consumeEvents_keep (fun _ _ _ hevent hlog =>
      yieldEvent_loops (chatEvent_isProgress hevent) (hlog ▸ hopen)) round events
  refine (hkeep.and (consumeEvents_phase round events)).mono (fun _ _ hg => hg.1) ?_
  rintro h' result ⟨⟨hlog, hfinal⟩, hphase⟩
  cases result with
  | ok final => exact ⟨hlog, hfinal final rfl⟩
  | error error => exact ⟨hlog, hphase error rfl⟩

/-- Asking the model with retries. The successful attempt adds its answer. -/
theorem retries_loop {α : Type} {provider : ProviderId} {operation : String}
    {policy : RetryPolicy} {attempt : Prog ChatSig (Except ProviderError α)}
    (calls : α → List ToolCall) (hopen : (loopLog h).Open)
    (hattempt : ∀ h', loopLog h' = loopLog h → Obeys (Loops service request)
      (Retried (fun h'' => loopLog h'' = loopLog h)
        (fun h'' value => loopLog h'' = (loopLog h).answered (calls value))) h' attempt) :
    Obeys (Loops service request) (Retried (fun h' => loopLog h' = loopLog h)
        (fun h' value => loopLog h' = (loopLog h).answered (calls value))) h
      (executeWithRetry (fun event => ask (.hook event)) (fun delay => ask (.sleep delay))
        provider operation policy (fun _ => attempt)) := by
  have hopenAfter : ∀ h', (loopLog h' = loopLog h ∨
      ∃ value, loopLog h' = (loopLog h).answered (calls value)) → (loopLog h').Open := by
    rintro h' (hlog | ⟨value, hlog⟩)
    · exact hlog ▸ hopen
    · exact hlog ▸ hopen.answered _
  exact retries_keep (fun h' _ _ hlog => ⟨⟨hopenAfter h' hlog, trivial⟩, loop_log_snoc _ _⟩)
    (fun h' _ _ hlog => ⟨⟨hopenAfter h' hlog, trivial⟩, loop_log_snoc _ _⟩) hattempt

/-! ## The loop -/

/-- The calls of the last response are those it has made. -/
@[simp] theorem last_calls_answered (log : LoopLog) (calls : List ToolCall) :
    (log.answered calls).lastCalls = calls := by
  simp [LoopLog.answered, LoopLog.lastCalls]

/-- After a response there are no results yet. -/
@[simp] theorem results_answered (log : LoopLog) (calls : List ToolCall) :
    (log.answered calls).results = some [] := by
  simp [LoopLog.answered, LoopLog.results]

/-- A turn that ends with an error fails for it, and one that ends with a value completes. -/
def LoopLog.Ends {α : Type} (service : ChatService) (streaming : Bool)
    (completes : LoopLog → α → Prop) (h : History ChatSig) : Except ChatError α → Prop
  | .ok value => completes (loopLog h) value
  | .error error => (loopLog h).Fails service streaming error

/-- What the parts of a mode do in the loop. -/
structure TurnMode.RunsLoop {α : Type} (mode : TurnMode α) (service : ChatService)
    (request : ChatTurnRequest) (completes : LoopLog → α → Prop) : Prop where
  askModel : ∀ h provider modelRequest, (loopLog h).Asks service modelRequest.toolResults →
    Obeys (Loops service request) (fun h' result => match result with
      | .ok round => loopLog h' = (loopLog h).answered round.toolCalls
      | .error error => (loopLog h').Fails service mode.streaming error) h
      (mode.askModel provider modelRequest).run
  executeTools : ∀ h calls, (loopLog h).Runnable service calls →
    Obeys (Loops service request) ((loopLog h).RunsTools service mode.streaming calls) h
      (mode.executeTools request.session.id calls).run
  limitReached : ∀ h maxRoundTrips pendingToolCalls,
    (loopLog h).Open → (loopLog h).Limits service maxRoundTrips pendingToolCalls →
    Obeys (Loops service request) (fun h' result => result = .ok () ∧ loopLog h' =
        { loopLog h with
          limits := if mode.streaming then [(maxRoundTrips, pendingToolCalls)] else [] }) h
      (mode.limitReached maxRoundTrips pendingToolCalls).run
  deliver : ∀ h result, (loopLog h).Open → (loopLog h).Completes service mode.streaming result →
    Obeys (Loops service request) (LoopLog.Ends service mode.streaming completes) h
      (mode.deliver result).run

/-- The answer of the model is final if its calls are not executed. -/
theorem LoopLog.Asks.final {log : LoopLog} {toolResults : List ToolResult}
    (hasks : log.Asks service toolResults) {calls : List ToolCall}
    (hpending : service.hasToolRuntime = true → calls ≠ [] →
      log.answers.length = service.policy.maxToolRoundTrips) :
    (log.answered calls).Final service where
  answers_eq := by
    rw [LoopLog.answered, List.length_append, List.length_singleton, hasks.rounds_eq]
  executed_eq := rfl
  rounds_le := hasks.rounds_eq.trans_le hasks.answers_le
  pending hruntime hcalls := by
    rw [last_calls_answered] at hcalls
    exact hasks.rounds_eq.trans (hpending hruntime hcalls)

/-- The calls of an answer may be executed if the budget is not used up. -/
theorem LoopLog.Open.runnable {log : LoopLog} (hopen : log.Open) {left : Nat}
    (hcount : log.answers.length + (left + 1) = service.policy.maxToolRoundTrips)
    (hruntime : service.hasToolRuntime = true) (calls : List ToolCall) :
    (log.answered calls).Runnable service calls where
  runtime := hruntime
  calls_eq := by
    rw [last_calls_answered]
    rfl
  isOpen := hopen.answered calls
  answers_le := by
    rw [LoopLog.answered, List.length_append, List.length_singleton]
    omega

/-- After a tool round the model may be asked again. -/
theorem LoopLog.Asks.next {log log' : LoopLog} {toolResults results : List ToolResult}
    {calls : List ToolCall} {left : Nat} (hasks : log.Asks service toolResults)
    (hcount : log.answers.length + (left + 1) = service.policy.maxToolRoundTrips)
    (hcalls : calls ≠ []) (hran : (log.answered calls).Ran calls results log') :
    log'.Asks service results ∧
      log'.answers.length + left = service.policy.maxToolRoundTrips := by
  have hanswers : log'.answers.length = log.answers.length + 1 := by
    rw [hran.answers_eq, LoopLog.answered, List.length_append, List.length_singleton]
  refine ⟨⟨?_, ?_, by omega, ?_, hran.limits_eq.trans hasks.limits_eq,
    hran.completed_eq.trans hasks.completed_eq⟩, by omega⟩
  · rw [hran.executed_eq, LoopLog.lastCalls, hran.answers_eq]
    exact (last_calls_answered log calls).symm
  · rw [hran.results_eq, results_answered]
    rfl
  · rw [hran.rounds_eq, if_pos ⟨rfl, hcalls⟩, hanswers, LoopLog.answered, hasks.rounds_eq]

/-- The commit and the delivery of a final answer. -/
theorem finishTurn_loops {α : Type} {mode : TurnMode α} {completes : LoopLog → α → Prop}
    (hmode : mode.RunsLoop service request completes) (sessionId : SessionId)
    (persisted : List Message) {result : ChatTurnResult} (hopen : (loopLog h).Open)
    (hcompletes : (loopLog h).Completes service mode.streaming result) :
    Obeys (Loops service request) (LoopLog.Ends service mode.streaming completes) h
      (finishTurn mode sessionId persisted result).run := by
  have hcommit : Obeys (Loops service request) (fun h' result => loopLog h' = loopLog h ∧
      ∀ error, result = .error error → error.phase = some .storage) h
      (appendMessages sessionId persisted).run := by
    refine orElseRaise_obeys (Q := fun h' _ => loopLog h' = loopLog h) ?_
      (fun _ _ hlog => ⟨hlog, by simp⟩) (fun _ _ hlog => ⟨hlog, by simp [ChatError.withPhase]⟩)
    exact ask_obeys (.appendMessages sessionId persisted) fun answer =>
      ⟨⟨hopen, hcompletes.final⟩, loop_log_snoc _ _⟩
  rw [finishTurn]
  refine obeys_except_seq hcommit ?_ ?_
  · rintro h' _ ⟨hlog, -⟩
    rw [← hlog] at hopen hcompletes
    exact hmode.deliver h' result hopen hcompletes
  · rintro h' error ⟨hlog, hphase⟩
    rw [← hlog] at hopen hcompletes
    exact .uncommitted hopen hcompletes.final (hphase error rfl)

/-- One round of the turn loop keeps to the loop if the rounds after it do. -/
theorem turnLoop_round_loops {α : Type} {mode : TurnMode α} {completes : LoopLog → α → Prop}
    (hmode : mode.RunsLoop service request completes) {context : TurnContext}
    (hsession : context.session = request.session) {remaining : Nat}
    {conversation persisted : List Message} {toolResults : List ToolResult}
    (hasks : (loopLog h).Asks service toolResults)
    (hcount : (loopLog h).answers.length + remaining = service.policy.maxToolRoundTrips)
    (hnext : ∀ left, remaining = left + 1 → ∀ h conversation persisted toolResults,
      (loopLog h).Asks service toolResults →
      (loopLog h).answers.length + left = service.policy.maxToolRoundTrips →
      Obeys (Loops service request) (LoopLog.Ends service mode.streaming completes) h
        (turnLoop mode service context left conversation persisted toolResults).run) :
    Obeys (Loops service request) (LoopLog.Ends service mode.streaming completes) h
      (turnLoop mode service context remaining conversation persisted toolResults).run := by
  have hopen := hasks.isOpen
  rw [turnLoop.eq_def, obeys_except_bind, obeys_except_lift, hsession]
  split
  · rename_i modelRequest hrequest
    have hcarried := buildRequest_toolResults hrequest
    rw [← hcarried] at hasks
    refine obeys_except_seq (hmode.askModel h _ modelRequest hasks) ?_
      (fun h' error hfails => hfails)
    intro h' round hround
    have hanswered : (loopLog h').Open := by
      rw [hround]
      exact hopen.answered _
    by_cases htools : (service.hasToolRuntime && !round.toolCalls.isEmpty) = true
    · obtain ⟨hruntime, hcalls⟩ : service.hasToolRuntime = true ∧ round.toolCalls ≠ [] := by
        simpa using htools
      simp only [htools, if_true]
      cases remaining with
      -- No round is left: the limit is reported, and the turn ends with the calls pending.
      | zero =>
          have hfinal : (loopLog h').Final service := by
            rw [hround]
            exact hasks.final fun _ _ => hcount
          have hlimits : (loopLog h').Limits service service.policy.maxToolRoundTrips
              round.toolCalls.length :=
            { final := hfinal, runtime := hruntime, max_eq := rfl
              calls := by rwa [hround, last_calls_answered]
              pending_eq := by rw [hround, last_calls_answered]
              limits_eq := by rw [hround]; exact hasks.limits_eq }
          refine obeys_except_seq (hmode.limitReached h' _ _ hanswered hlimits) ?_ (by simp)
          rintro h'' _ ⟨-, hlog⟩
          refine finishTurn_loops hmode _ _ ?_ ?_
          · rw [hlog]
            exact ⟨hanswered.results_ne, hanswered.completed_eq⟩
          · rw [hlog]
            exact ⟨⟨hfinal.answers_eq, hfinal.executed_eq, hfinal.rounds_le, hfinal.pending⟩,
              by rw [hround]; exact (last_calls_answered _ _).symm,
              by simp [Round.result, hruntime, hcalls], by simp [Round.result]⟩
      -- The calls are run, and their results are what the next round asks with.
      | succ left =>
          have hrunnable := hasks.isOpen.runnable hcount hruntime round.toolCalls
          rw [← hround] at hrunnable
          refine obeys_except_seq (hmode.executeTools h' _ hrunnable) ?_
            (fun h'' error hfails => hfails)
          intro h'' results hran
          rw [LoopLog.RunsTools, hround] at hran
          obtain ⟨hasks', hcount'⟩ := hasks.next hcount hcalls hran
          exact hnext left rfl h'' _ _ _ hasks' hcount'
    · simp only [htools, Bool.false_eq_true, if_false]
      -- There is nothing to run, or nothing to run it with.
      have hnone : ¬ (service.hasToolRuntime = true ∧ round.toolCalls ≠ []) := by
        simpa using htools
      refine finishTurn_loops hmode _ _ hanswered ?_
      rw [hround]
      exact ⟨hasks.final fun hruntime hcalls => absurd ⟨hruntime, hcalls⟩ hnone,
        (last_calls_answered _ _).symm, by simpa [Round.result] using hnone,
        by simpa [Round.result, LoopLog.answered] using hasks.limits_eq⟩
  · rename_i error hinvalid
    refine .unanswered hopen hasks.executed_eq ?_
    rw [buildRequest_phase hinvalid]
    simp

/-- The turn loop keeps to its loop, whatever its mode. -/
theorem turnLoop_loops {α : Type} {mode : TurnMode α} {completes : LoopLog → α → Prop}
    (hmode : mode.RunsLoop service request completes) {context : TurnContext}
    (hsession : context.session = request.session) (remaining : Nat)
    {conversation persisted : List Message} {toolResults : List ToolResult}
    (hasks : (loopLog h).Asks service toolResults)
    (hcount : (loopLog h).answers.length + remaining = service.policy.maxToolRoundTrips) :
    Obeys (Loops service request) (LoopLog.Ends service mode.streaming completes) h
      (turnLoop mode service context remaining conversation persisted toolResults).run := by
  induction remaining generalizing h conversation persisted toolResults with
  | zero => exact turnLoop_round_loops hmode hsession hasks hcount (by simp)
  | succ remaining ih =>
      refine turnLoop_round_loops hmode hsession hasks hcount ?_
      rintro left hleft h conversation persisted toolResults hasks hcount
      cases hleft
      exact ih hasks hcount

/-! ## The two modes -/

/-- A retried request answers one round, or the turn fails. -/
theorem retriedRequest_loops {α : Type} {convert : ProviderError → ChatError}
    {provider : ProviderId} {operation : String} {policy : RetryPolicy}
    {toolResults : List ToolResult} {attempt : Prog ChatSig (Except ProviderError α)}
    (streaming : Bool) (calls : α → List ToolCall)
    (hasks : (loopLog h).Asks service toolResults)
    (hconvert : ∀ error, (convert error).phase = some .provider)
    (hattempt : ∀ h', loopLog h' = loopLog h → Obeys (Loops service request)
      (Retried (fun h'' => loopLog h'' = loopLog h)
        (fun h'' value => loopLog h'' = (loopLog h).answered (calls value))) h' attempt) :
    Obeys (Loops service request) (fun h' result => match result with
      | .ok value => loopLog h' = (loopLog h).answered (calls value)
      | .error error => (loopLog h').Fails service streaming error) h
      (orElseRaise convert (executeWithRetry (fun event => ask (.hook event))
        (fun delay => ask (.sleep delay)) provider operation policy (fun _ => attempt))).run := by
  have hopen := hasks.isOpen
  refine orElseRaise_obeys (retries_loop calls hopen hattempt) (fun _ _ hlog => hlog) ?_
  intro h' error hlog
  show (loopLog h').Fails service streaming _
  rw [show loopLog h' = loopLog h from hlog]
  refine .unanswered hopen hasks.executed_eq ?_
  rw [hconvert]
  simp

/-- A completed `run_turn` returns its result. -/
theorem runMode_loops (service : ChatService) :
    service.runMode.RunsLoop service request (LoopLog.Completes service false) where
  askModel h provider modelRequest hasks := by
    refine obeys_except_seq (retriedRequest_loops false
      (fun response => (collectOutput response.output).2) hasks (fun _ => rfl) ?_) ?_ ?_
    · intro h' hlog
      refine ask_obeys (.complete modelRequest) fun answer => ?_
      rw [← hlog] at hasks
      refine ⟨⟨hasks.isOpen, hasks⟩, ?_⟩
      cases answer <;> simp [Retried, LoopLog.record, hlog]
    · exact fun h' response hlog => (obeys_except_pure _).mpr hlog
    · exact fun h' error hfails => hfails
  executeTools h calls hcalls := executeTools_loops hcalls
  limitReached h _ _ hopen hlimits := by
    refine (obeys_except_pure _).mpr ⟨rfl, ?_⟩
    show loopLog h = { loopLog h with limits := [] }
    rw [← hlimits.limits_eq]
  deliver h result hopen hcompletes := (obeys_except_pure _).mpr hcompletes

/-- A completed `stream_turn` yields its result. -/
theorem streamMode_loops (service : ChatService) :
    service.streamMode.RunsLoop service request (fun _ _ => True) where
  askModel h provider modelRequest hasks := by
    have hopen := hasks.isOpen
    rw [service.streamMode_askModel]
    refine obeys_except_seq (retriedRequest_loops true roundCalls hasks (fun _ => rfl) ?_) ?_ ?_
    · intro h' hlog
      refine ask_obeys (.stream modelRequest) fun answer => ?_
      rw [← hlog] at hasks
      refine ⟨⟨hasks.isOpen, hasks⟩, ?_⟩
      cases answer <;> simp [Retried, LoopLog.record, hlog]
    · intro h' events hlog
      have hanswered : (loopLog h').Open := by
        rw [show loopLog h' = _ from hlog]
        exact hopen.answered _
      refine obeys_except_seq (consumeEvents_loops hanswered {} events) ?_ ?_
      · rintro h'' round ⟨hround, rfl⟩
        exact (obeys_except_pure _).mpr (hround.trans hlog)
      · rintro h'' error ⟨hround, hphase⟩
        refine .interrupted rfl (hround ▸ hanswered) ?_ hphase
        rw [hround, show loopLog h' = _ from hlog]
        rfl
    · exact fun h' error hfails => hfails
  executeTools h calls hcalls := streamTools_loops hcalls
  limitReached h maxRoundTrips pendingToolCalls hopen hlimits := by
    refine yieldEvent_obeys_iff.mpr ⟨⟨hopen, hlimits⟩, rfl, ?_⟩
    rw [loop_log_snoc, LoopLog.record, hlimits.limits_eq]
    rfl
  deliver h result hopen hcompletes :=
    yieldEvent_obeys_iff.mpr ⟨⟨hopen, hcompletes⟩, trivial⟩

/-- The turn loop of a fresh turn keeps to its loop. -/
theorem turn_loops {α : Type} {mode : TurnMode α} {completes : LoopLog → α → Prop}
    (hmode : mode.RunsLoop service request completes) :
    Obeys (Loops service request) (LoopLog.Ends service mode.streaming completes) []
      (service.prepareTurn request >>= fun context =>
        turnLoop mode service context service.policy.maxToolRoundTrips
          context.conversationMessages [context.userMessage] []).run := by
  have hprepare : Obeys (Loops service request) (fun h result => loopLog h = {} ∧
      match result with
      | .ok context => context.session = request.session
      | .error error => error.phase ≠ some .tooling) [] (service.prepareTurn request).run := by
    rw [ChatService.prepareTurn]
    split
    · simp [ChatError.invalidRequest]
    · have hload : Obeys (Loops service request) (fun h result => loopLog h = {} ∧
          ∀ error, result = .error error → error.phase ≠ some .tooling) []
          (loadMessages request.session.id).run := by
        refine orElseRaise_obeys (Q := fun h _ => loopLog h = {}) ?_
          (fun _ _ hlog => ⟨hlog, by simp⟩) (fun _ _ hlog => ⟨hlog, by simp [ChatError.withPhase]⟩)
        exact ask_obeys (.loadMessages _) fun answer => ⟨⟨LoopLog.open_start, trivial⟩, rfl⟩
      refine obeys_except_seq hload ?_ (fun h error hlog => ⟨hlog.1, hlog.2 error rfl⟩)
      exact fun h prior hlog => (obeys_except_pure _).mpr ⟨hlog.1, rfl⟩
  refine obeys_except_seq hprepare ?_ ?_
  · rintro h context ⟨hlog, hsession⟩
    refine turnLoop_loops hmode hsession _ ?_ ?_
    · rw [hlog]
      exact ⟨rfl, rfl, Nat.zero_le _, rfl, rfl, rfl⟩
    · rw [hlog]
      exact Nat.zero_add _
  · rintro h error ⟨hlog, hphase⟩
    show (loopLog h).Fails service mode.streaming error
    rw [hlog]
    exact .unanswered LoopLog.open_start rfl hphase

/-- Every event of `run_turn` keeps to the loop, and its result completes it. -/
theorem runTurn_loops (service : ChatService) (request : ChatTurnRequest) :
    Obeys (Loops service request) (LoopLog.Ends service false (LoopLog.Completes service false)) []
      (service.runTurn request).run := by
  rw [ChatService.runTurn_eq]
  split
  · refine (obeys_except_throw _).mpr (.unanswered LoopLog.open_start rfl ?_)
    simp [ChatError.invalidRequest]
  · exact turn_loops (runMode_loops service)

/-- Every event of `stream_turn` keeps to the loop. -/
theorem streamTurn_loops (service : ChatService) (request : ChatTurnRequest) :
    Obeys (Loops service request) (LoopLog.Ends service true fun _ _ => True) []
      (service.streamTurnToEnd request).run := by
  rw [ChatService.streamTurnToEnd_eq]
  exact turn_loops (streamMode_loops service)

end

end Fiddlesticks.Chat

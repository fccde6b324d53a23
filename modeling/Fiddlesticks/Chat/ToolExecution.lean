import Fiddlesticks.Chat.Panics
import Fiddlesticks.Chat.RoundLimit
import Fiddlesticks.Effect.Simulation
import Fiddlesticks.Tooling.Runtime

/-!
# Turns with the default tool runtime

`run_turn` with every tool execution done by a `DefaultToolRuntime`, as one program. The calls of a
model response and their executions correspond one to one, in order, and so do the results that
the next provider request carries (`tool_calls_correspond`).
-/

namespace Fiddlesticks.Chat

open Effect Prog Provider Tooling

variable {Tool : Type}

/-! ## The program -/

/-- What a turn with a `DefaultToolRuntime` asks of its environment. -/
inductive ToolTurnOp (Tool : Type) where
  | chat (op : ChatOp)
  | runtime (op : RuntimeOp Tool)

/-- The answers to each operation. -/
abbrev ToolTurnOp.Answer : ToolTurnOp Tool → Type
  | .chat op => op.Answer
  | .runtime op => op.Answer

/-- The signature of a turn with a `DefaultToolRuntime`. -/
abbrev ToolTurnSig (Tool : Type) : Sig := ⟨ToolTurnOp Tool, ToolTurnOp.Answer⟩

/-- An invocation of a tool, with no answer when the delay of the timeout was over first. -/
structure Invocation (Tool : Type) where
  tool : Tool
  argsJson : String
  context : ToolExecutionContext
  answer : Option (Except ToolError String)

/-- An execution of a tool call. It has an outcome when it is over. -/
structure Execution (Tool : Type) where
  toolCall : ToolCall
  context : ToolExecutionContext
  invocations : List (Invocation Tool) := []
  outcome : Option (Except ToolError ToolExecutionResult) := none

/-- The number of model responses, the tool calls of the last one and their executions so far, the
last one apart. -/
structure ExecutionLog (Tool : Type) where
  responses : Nat := 0
  calls : List ToolCall := []
  earlier : List (Execution Tool) := []
  current : Option (Execution Tool) := none

namespace ExecutionLog

/-- The executions since the last model response. -/
def executions (log : ExecutionLog Tool) : List (Execution Tool) :=
  log.earlier ++ log.current.toList

/-- The model has answered with tool calls. -/
def answered (log : ExecutionLog Tool) (calls : List ToolCall) : ExecutionLog Tool :=
  { responses := log.responses + 1, calls }

/-- The next execution is at this point. -/
def executing (log : ExecutionLog Tool) (execution : Execution Tool) : ExecutionLog Tool :=
  { log with earlier := log.executions, current := some execution }

/-- The current execution has gone on. -/
def update (log : ExecutionLog Tool) (f : Execution Tool → Execution Tool) : ExecutionLog Tool :=
  { log with current := log.current.map f }

/-- What an event adds to the log. -/
def record (log : ExecutionLog Tool) : Event (ToolTurnSig Tool) → ExecutionLog Tool
  | ⟨.chat (.complete _), .ok response⟩ =>
      log.answered (collectOutput response.output).2
  | ⟨.chat (.stream _), .ok events⟩ => log.answered (roundCalls events)
  | ⟨.runtime (.executionStart toolCall context), _⟩ => log.executing { toolCall, context }
  | ⟨.runtime (.invoke tool argsJson context), answer⟩ => log.update fun execution =>
      { execution with
        invocations := execution.invocations ++ [⟨tool, argsJson, context, some answer⟩] }
  | ⟨.runtime (.invokeWithin _ tool argsJson context), answer⟩ => log.update fun execution =>
      { execution with
        invocations := execution.invocations ++ [⟨tool, argsJson, context, answer⟩] }
  | ⟨.runtime (.executionSuccess _ _ result), _⟩ =>
      log.update fun execution => { execution with outcome := some (.ok result) }
  | ⟨.runtime (.executionFailure _ _ error), _⟩ =>
      log.update fun execution => { execution with outcome := some (.error error) }
  | _ => log

end ExecutionLog

/-- The executions of a history. -/
def executionLog (h : History (ToolTurnSig Tool)) : ExecutionLog Tool :=
  h.foldl ExecutionLog.record {}

/-- Nothing is logged at first. -/
@[simp] theorem execution_log_nil : executionLog ([] : History (ToolTurnSig Tool)) = {} := rfl

/-- The log records event by event. -/
@[simp] theorem execution_log_snoc (h : History (ToolTurnSig Tool)) (e : Event (ToolTurnSig Tool)) :
    executionLog (h ++ [e]) = (executionLog h).record e := by
  simp [executionLog]

/-! ## Sound executions -/

/-- The invocation of the registered tool with the arguments of the call. -/
def Execution.invocation (execution : Execution Tool) (tool : Tool)
    (answer : Option (Except ToolError String)) : Invocation Tool :=
  ⟨tool, execution.toolCall.arguments, execution.context, answer⟩

/-- The ways in which an execution ends. The tool of the call is invoked once, or there is none. -/
inductive Execution.Ends (runtime : DefaultToolRuntime Tool) (execution : Execution Tool) :
    Except ToolError ToolExecutionResult → Prop where
  | succeeded {tool : Tool} {output : String} :
      runtime.registry.get execution.toolCall.name = some tool →
      execution.invocations = [execution.invocation tool (some (.ok output))] →
      execution.Ends runtime (.ok ⟨execution.toolCall.id, output⟩)
  | failed {tool : Tool} {error : ToolError} :
      runtime.registry.get execution.toolCall.name = some tool →
      execution.invocations = [execution.invocation tool (some (.error error))] →
      execution.Ends runtime (.error (error.ofCall execution.toolCall))
  | timedOut {tool : Tool} {timeout : Nat} :
      runtime.registry.get execution.toolCall.name = some tool →
      runtime.timeout = some timeout →
      execution.invocations = [execution.invocation tool none] →
      execution.Ends runtime (.error ((ToolError.timeout
        s!"tool '{execution.toolCall.name}' timed out after {debugDuration timeout}").ofCall
          execution.toolCall))
  | unregistered :
      runtime.registry.get execution.toolCall.name = none →
      execution.invocations = [] →
      execution.Ends runtime (.error ((ToolError.notFound
        s!"tool '{execution.toolCall.name}' is not registered").ofCall execution.toolCall))

/-- The execution is in the session, invokes the tool of its call at most once, and its outcome is
what that led to. -/
structure Execution.Sound (runtime : DefaultToolRuntime Tool) (sessionId : SessionId)
    (execution : Execution Tool) : Prop where
  context_eq : execution.context = .new sessionId
  invoked : execution.invocations = [] ∨ ∃ tool answer,
    runtime.registry.get execution.toolCall.name = some tool ∧
      execution.invocations = [execution.invocation tool answer]
  ends : ∀ outcome, execution.outcome = some outcome → execution.Ends runtime outcome

/-- The executions are those of the first calls of the last response, in order, and all but the
last one have succeeded. -/
structure ExecutionLog.Sound (runtime : DefaultToolRuntime Tool) (sessionId : SessionId)
    (log : ExecutionLog Tool) : Prop where
  in_order : log.executions.map Execution.toolCall <+: log.calls
  succeeded : ∀ execution ∈ log.earlier, ∃ result, execution.outcome = some (.ok result)
  each : ∀ execution ∈ log.executions, execution.Sound runtime sessionId

/-- Every call of the last response has been executed, with these results. -/
structure ExecutionLog.Answers (log : ExecutionLog Tool) (toolResults : List ToolResult) :
    Prop where
  calls_eq : log.executions.map Execution.toolCall = log.calls
  outcomes_eq : log.executions.map Execution.outcome =
    toolResults.map fun result => some (.ok ⟨result.toolCallId, result.output⟩)

/-- An execution has failed. -/
def ExecutionLog.Failed (log : ExecutionLog Tool) : Prop :=
  ∃ execution ∈ log.executions, ∃ error, execution.outcome = some (.error error)

/-- The guard on the events of a turn: the executions stay sound, a provider request carries the
results of all calls, and nothing follows a failed call. -/
structure Executing (runtime : DefaultToolRuntime Tool) (sessionId : SessionId)
    (h : History (ToolTurnSig Tool)) (e : Event (ToolTurnSig Tool)) : Prop where
  sound : (executionLog (h ++ [e])).Sound runtime sessionId
  answers : ∀ modelRequest, e.op = .chat (.complete modelRequest) →
    (executionLog h).Answers modelRequest.toolResults
  not_failed : ¬ (executionLog h).Failed

/-! ## One execution -/

section

variable {runtime : DefaultToolRuntime Tool} {sessionId : SessionId}
  {h : History (ToolTurnSig Tool)} {log : ExecutionLog Tool} {toolCall : ToolCall}
  {execution : Execution Tool}

/-- An execution that goes on is the last of the log. -/
@[simp] theorem executions_executing (log : ExecutionLog Tool) (execution : Execution Tool) :
    (log.executing execution).executions = log.executions ++ [execution] := rfl

/-- The next call of the last response may be executed. -/
structure ExecutionLog.Ready (runtime : DefaultToolRuntime Tool) (sessionId : SessionId)
    (log : ExecutionLog Tool) (toolCall : ToolCall) : Prop where
  next : log.executions.map Execution.toolCall ++ [toolCall] <+: log.calls
  succeeded : ∀ execution ∈ log.executions, ∃ result, execution.outcome = some (.ok result)
  each : ∀ execution ∈ log.executions, execution.Sound runtime sessionId

/-- Before a call is executed no execution has failed. -/
theorem ExecutionLog.Ready.not_failed (hready : log.Ready runtime sessionId toolCall) :
    ¬ log.Failed := by
  intro h
  obtain ⟨execution, hmem, error, hfailed⟩ := h
  obtain ⟨result, hsucceeded⟩ := hready.succeeded execution hmem
  rw [hsucceeded] at hfailed
  cases hfailed

/-- A sound execution of the next call keeps the log sound. -/
theorem ExecutionLog.Ready.executing_sound (hready : log.Ready runtime sessionId toolCall)
    (hcall : execution.toolCall = toolCall) (hexecution : execution.Sound runtime sessionId) :
    (log.executing execution).Sound runtime sessionId where
  in_order := by
    rw [executions_executing, List.map_append, List.map_singleton, hcall]
    exact hready.next
  succeeded := hready.succeeded
  each other hmem := by
    rcases List.mem_append.mp hmem with hearlier | hlast
    · exact hready.each other hearlier
    · cases List.mem_singleton.mp hlast
      exact hexecution

/-- An execution that goes on has not failed. -/
theorem ExecutionLog.Ready.executing_not_failed (hready : log.Ready runtime sessionId toolCall)
    (hrunning : execution.outcome = none) : ¬ (log.executing execution).Failed := by
  intro h
  obtain ⟨other, hmem, error, hfailed⟩ := h
  rcases List.mem_append.mp hmem with hearlier | hlast
  · exact hready.not_failed ⟨other, hearlier, error, hfailed⟩
  · cases List.mem_singleton.mp hlast
    rw [hrunning] at hfailed
    cases hfailed

/-- An event of the runtime that takes the execution to a sound one may happen. -/
theorem ExecutionLog.Ready.step (hready : log.Ready runtime sessionId toolCall)
    (hnot : ¬ (executionLog h).Failed) (op : RuntimeOp Tool) (answer : op.Answer)
    (hrecord : (executionLog h).record ⟨.runtime op, answer⟩ = log.executing execution)
    (hcall : execution.toolCall = toolCall) (hexecution : execution.Sound runtime sessionId) :
    Executing runtime sessionId h ⟨.runtime op, answer⟩ where
  sound := by
    rw [execution_log_snoc, hrecord]
    exact hready.executing_sound hcall hexecution
  answers modelRequest hop := nomatch hop
  not_failed := hnot

/-- The postcondition of an execution of the next call. -/
def ExecutionLog.Executed (runtime : DefaultToolRuntime Tool) (sessionId : SessionId)
    (log : ExecutionLog Tool) (toolCall : ToolCall) (h : History (ToolTurnSig Tool))
    (outcome : Except ToolError ToolExecutionResult) : Prop :=
  ∃ execution, executionLog h = log.executing execution ∧ execution.toolCall = toolCall ∧
    execution.Sound runtime sessionId ∧ execution.outcome = some outcome

/-- The execution goes on at this point, without an outcome. -/
structure Execution.Running (runtime : DefaultToolRuntime Tool) (sessionId : SessionId)
    (toolCall : ToolCall) (execution : Execution Tool) : Prop where
  toolCall_eq : execution.toolCall = toolCall
  sound : execution.Sound runtime sessionId
  outcome_eq : execution.outcome = none

/-- An execution that ends in a way that it may end is sound. -/
theorem Execution.Running.ended (hrunning : execution.Running runtime sessionId toolCall)
    {outcome : Except ToolError ToolExecutionResult} (hends : execution.Ends runtime outcome) :
    { execution with outcome := some outcome }.Sound runtime sessionId where
  context_eq := hrunning.sound.context_eq
  invoked := hrunning.sound.invoked
  ends := by
    rintro _ ⟨⟩
    cases hends with
    | succeeded htool hinvoked => exact .succeeded htool hinvoked
    | failed htool hinvoked => exact .failed htool hinvoked
    | timedOut htool htimeout hinvoked => exact .timedOut htool htimeout hinvoked
    | unregistered htool hinvoked => exact .unregistered htool hinvoked

/-- The report of an outcome that the execution may have ends it. -/
theorem Execution.Running.reported (hrunning : execution.Running runtime sessionId toolCall)
    (hready : log.Ready runtime sessionId toolCall)
    (hlog : executionLog h = log.executing execution)
    {outcome : Except ToolError ToolExecutionResult} (hends : execution.Ends runtime outcome)
    (op : RuntimeOp Tool) (answer : op.Answer)
    (hrecord : (log.executing execution).record ⟨.runtime op, answer⟩ =
      log.executing { execution with outcome := some outcome }) :
    Executing runtime sessionId h ⟨.runtime op, answer⟩ ∧
      log.Executed runtime sessionId toolCall (h ++ [⟨.runtime op, answer⟩]) outcome := by
  have hsound := hrunning.ended hends
  rw [← hlog] at hrecord
  refine ⟨hready.step ?_ op answer hrecord hrunning.toolCall_eq hsound,
    { execution with outcome := some outcome }, ?_, hrunning.toolCall_eq, hsound, rfl⟩
  · rw [hlog]
    exact hready.executing_not_failed hrunning.outcome_eq
  · rw [execution_log_snoc, hrecord]

/-- An execution of the call in the session that has made these invocations. -/
def Execution.begun (sessionId : SessionId) (toolCall : ToolCall)
    (invocations : List (Invocation Tool)) : Execution Tool :=
  { toolCall, context := .new sessionId, invocations }

/-- The executions of the runtime are those of the loop. -/
structure Connected (runtime : DefaultToolRuntime Tool) (sessionId : SessionId)
    (loop : LoopLog) (log : ExecutionLog Tool) : Prop where
  responses_eq : log.responses = loop.answers.length
  calls_eq : log.calls = loop.lastCalls
  executed_eq : log.executions.map (fun execution => (execution.toolCall, execution.outcome)) =
    loop.executed.map fun (toolCall, outcome) => (toolCall, some outcome)
  sound : log.Sound runtime sessionId

variable {loop : LoopLog}

/-- The executed calls are those of the turn, in order. -/
theorem Connected.toolCalls_eq (hconnected : Connected runtime sessionId loop log) :
    log.executions.map Execution.toolCall = loop.executed.map Prod.fst := by
  have hcalls := congrArg (List.map Prod.fst) hconnected.executed_eq
  rwa [List.map_map, List.map_map] at hcalls

/-- The outcomes are those that the turn has got. -/
theorem Connected.outcomes_eq (hconnected : Connected runtime sessionId loop log) :
    log.executions.map Execution.outcome = loop.executed.map fun entry => some entry.2 := by
  have houtcomes := congrArg (List.map Prod.snd) hconnected.executed_eq
  rwa [List.map_map, List.map_map] at houtcomes

/-- As long as the turn goes on, every execution has succeeded. -/
theorem Connected.succeeded (hconnected : Connected runtime sessionId loop log)
    (hopen : loop.Open) : ∀ execution ∈ log.executions, ∃ result,
      execution.outcome = some (.ok result) := by
  intro execution hmem
  have houtcome := List.mem_map_of_mem (f := Execution.outcome) hmem
  rw [hconnected.outcomes_eq] at houtcome
  obtain ⟨⟨toolCall, outcome⟩, hexecuted, houtcome⟩ := List.mem_map.mp houtcome
  cases outcome with
  | ok result => exact ⟨result, houtcome.symm⟩
  | error error => exact absurd hexecuted (hopen.not_failed toolCall error)

/-- While the turn goes on no execution has failed. -/
theorem Connected.not_failed (hconnected : Connected runtime sessionId loop log)
    (hopen : loop.Open) : ¬ log.Failed := by
  intro h
  obtain ⟨execution, hmem, error, hfailed⟩ := h
  obtain ⟨result, hsucceeded⟩ := hconnected.succeeded hopen execution hmem
  rw [hsucceeded] at hfailed
  cases hfailed

/-- A call that the loop may execute is the next one of the runtime. -/
theorem Connected.ready (hconnected : Connected runtime sessionId loop log) (hopen : loop.Open)
    {service : ChatService} {context : ToolExecutionContext}
    (hexecutes : loop.Executes service sessionId toolCall context) :
    log.Ready runtime sessionId toolCall where
  next := by
    rw [hconnected.toolCalls_eq, hconnected.calls_eq]
    exact hexecutes.next
  succeeded := hconnected.succeeded hopen
  each := hconnected.sound.each

/-- The results of the executed calls are their outcomes. -/
theorem outcomes_of_results {executed : List (ToolCall × Except ToolError ToolExecutionResult)}
    {toolResults : List ToolResult}
    (h : executed.mapM (fun entry => match entry.2 with
      | .ok result => some (⟨result.toolCallId, result.output⟩ : ToolResult)
      | .error _ => none) = some toolResults) :
    executed.map Prod.snd =
      toolResults.map fun result => .ok ⟨result.toolCallId, result.output⟩ := by
  induction executed generalizing toolResults with
  | nil =>
      cases h
      rfl
  | cons entry executed ih =>
      obtain ⟨toolCall, outcome⟩ := entry
      rw [List.mapM_cons] at h
      cases outcome with
      | error error => cases h
      | ok result =>
          obtain ⟨rest, hrest, h⟩ := Option.bind_eq_some_iff.mp
            (show Option.bind (executed.mapM _) _ = some toolResults from h)
          cases h
          rw [List.map_cons, List.map_cons, ih hrest]

/-- When the loop may ask the model, all calls have been executed with the results it sends. -/
theorem Connected.answers (hconnected : Connected runtime sessionId loop log)
    {service : ChatService} {toolResults : List ToolResult}
    (hasks : loop.Asks service toolResults) : log.Answers toolResults where
  calls_eq := by
    rw [hconnected.toolCalls_eq, hconnected.calls_eq]
    exact hasks.executed_eq
  outcomes_eq := by
    have houtcomes := congrArg (List.map some) (outcomes_of_results hasks.results_eq)
    rw [List.map_map, List.map_map] at houtcomes
    exact hconnected.outcomes_eq.trans houtcomes

/-- An answer of the model begins a new round in both logs. -/
theorem Connected.answered (hconnected : Connected runtime sessionId loop log)
    (calls : List ToolCall) :
    Connected runtime sessionId (loop.answered calls) (log.answered calls) where
  responses_eq := by
    rw [LoopLog.answered, List.length_append, ← hconnected.responses_eq]
    rfl
  calls_eq := (last_calls_answered loop calls).symm
  executed_eq := rfl
  sound := ⟨List.nil_prefix, by simp [ExecutionLog.answered],
    by simp [ExecutionLog.answered, ExecutionLog.executions]⟩

/-- An execution adds the same outcome to both logs. -/
theorem Connected.execute (hconnected : Connected runtime sessionId loop log)
    {outcome : Except ToolError ToolExecutionResult} (hcall : execution.toolCall = toolCall)
    (houtcome : execution.outcome = some outcome)
    (hsound : (log.executing execution).Sound runtime sessionId) :
    Connected runtime sessionId (loop.execute toolCall outcome) (log.executing execution) where
  responses_eq := hconnected.responses_eq
  calls_eq := hconnected.calls_eq
  executed_eq := by
    rw [executions_executing, List.map_append, hconnected.executed_eq, LoopLog.execute,
      List.map_append, List.map_singleton, hcall, houtcome]
    rfl
  sound := hsound

end

/-! ## The turn -/

section

variable {runtime : DefaultToolRuntime Tool} {policy : ChatPolicy} {request : ChatTurnRequest}
  {sessionId : SessionId} {loop : LoopLog} {log : ExecutionLog Tool}

end

/-- The execution has returned the result: the registered tool was invoked once, with the arguments
of the call in the session, and its output is that of the result. -/
def Execution.Returned (runtime : DefaultToolRuntime Tool) (sessionId : SessionId)
    (execution : Execution Tool) (result : ToolResult) : Prop :=
  result.toolCallId = execution.toolCall.id ∧ ∃ tool,
    runtime.registry.get execution.toolCall.name = some tool ∧
      execution.invocations =
        [⟨tool, execution.toolCall.arguments, .new sessionId, some (.ok result.output)⟩]

/-- A sound execution returns what it ends with. -/
theorem Execution.Sound.returned {runtime : DefaultToolRuntime Tool} {sessionId : SessionId}
    {execution : Execution Tool} (hsound : execution.Sound runtime sessionId) {result : ToolResult}
    (houtcome : execution.outcome = some (.ok ⟨result.toolCallId, result.output⟩)) :
    execution.Returned runtime sessionId result := by
  have hends := hsound.ends _ houtcome
  generalize hresult : (Except.ok ⟨result.toolCallId, result.output⟩ :
    Except ToolError ToolExecutionResult) = outcome at hends
  cases hends with
  | succeeded htool hinvoked =>
      obtain ⟨hid, houtput⟩ := ToolExecutionResult.mk.inj (Except.ok.inj hresult)
      refine ⟨hid, _, htool, ?_⟩
      rw [hinvoked, Execution.invocation, hsound.context_eq, houtput]
  | failed | timedOut | unregistered => cases hresult

/-- When all calls are answered, each execution has returned the result at its place. -/
theorem ExecutionLog.Answers.returned {runtime : DefaultToolRuntime Tool} {sessionId : SessionId}
    {log : ExecutionLog Tool} {toolResults : List ToolResult} (h : log.Answers toolResults)
    (hsound : log.Sound runtime sessionId) :
    List.Forall₂ (Execution.Returned runtime sessionId) log.executions toolResults := by
  have houtcomes : List.Forall₂ (fun (execution : Execution Tool) (result : ToolResult) =>
      execution.outcome = some (.ok ⟨result.toolCallId, result.output⟩)) log.executions
      toolResults := by
    have heq := h.outcomes_eq
    rwa [← List.forall₂_eq_eq_eq, List.forall₂_map_left_iff, List.forall₂_map_right_iff] at heq
  refine ((List.forall₂_and_left _ _).mpr ⟨hsound.each, houtcomes⟩).imp ?_
  rintro execution result ⟨hexecution, houtcome⟩
  exact hexecution.returned houtcome

end Fiddlesticks.Chat

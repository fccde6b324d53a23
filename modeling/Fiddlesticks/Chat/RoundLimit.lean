import Fiddlesticks.Chat.Environment
import Fiddlesticks.Chat.LoopLog

/-!
# The limit of tool rounds

A turn executes at most `max_tool_round_trips` tool rounds and consumes at most one model answer
more. Its result says exactly when the last answer still asks for tools, and a stream signals the
limit in exactly these turns (`tool_loop_bounded`).
-/

namespace Fiddlesticks.Chat

open Effect Prog Provider Tooling

/-- The turn is a streamed one. -/
def TurnCall.streaming : TurnCall → Bool
  | .run _ => false
  | .stream _ => true

/-- The turn has completed with the result: `run_turn` has returned it, or the stream has yielded
it. -/
def TurnCall.CompletesWith (call : TurnCall) (events : History ChatSig)
    (rest : Prog ChatSig (Except ChatError (Option ChatTurnResult))) (result : ChatTurnResult) :
    Prop :=
  match call with
  | .run _ => rest = .pure (.ok (some result))
  | .stream _ => ⟨.yield (.turnComplete result), ()⟩ ∈ events

/-- The postcondition of a turn of either kind. -/
def TurnCall.Completes (service : ChatService) (call : TurnCall) (log : LoopLog)
    (value : Option ChatTurnResult) : Prop :=
  ∀ result, call.streaming = false → value = some result → log.Completes service false result

/-- A turn of either kind keeps to the loop. -/
theorem TurnCall.program_loops (service : ChatService) (call : TurnCall) :
    Obeys (Loops service call.request)
      (LoopLog.Ends service call.streaming (call.Completes service)) []
      (call.program service).run := by
  cases call with
  | run request =>
      refine obeys_except_seq (runTurn_loops service request) ?_ (fun h error hfails => hfails)
      intro h result hcompletes
      refine (obeys_except_pure _).mpr ?_
      rintro _ - ⟨⟩
      exact hcompletes
  | stream request =>
      refine obeys_except_seq (streamTurn_loops service request) ?_ (fun h error hfails => hfails)
      intro h _ _
      refine (obeys_except_pure _).mpr ?_
      rintro _ ⟨⟩

/-! ## The bounds -/

/-- The log stays within the limit of tool rounds, and the limit is signalled at most once, when
the last answer is not executed because of it. -/
structure LoopLog.Within (service : ChatService) (log : LoopLog) : Prop where
  rounds_le : log.toolRounds ≤ log.answers.length
  begins : log.executed = [] → log.answers ≠ [] → log.toolRounds < log.answers.length
  rounds_le_max : log.toolRounds ≤ service.policy.maxToolRoundTrips
  answers_le : log.answers.length ≤ service.policy.maxToolRoundTrips + 1
  limits : log.limits = [] ∨ log.Final service ∧ service.hasToolRuntime = true ∧
    log.lastCalls ≠ [] ∧ log.limits = [(service.policy.maxToolRoundTrips, log.lastCalls.length)]

/-- An answer that was allowed keeps the log within the limit. -/
theorem LoopLog.Asks.within_answered {service : ChatService} {log : LoopLog}
    {toolResults : List ToolResult} (hasks : log.Asks service toolResults)
    (calls : List ToolCall) : (log.answered calls).Within service := by
  have hlength : (log.answered calls).answers.length = log.answers.length + 1 := by
    rw [LoopLog.answered, List.length_append, List.length_singleton]
  have hrounds : (log.answered calls).toolRounds = log.answers.length := hasks.rounds_eq
  have hle := hasks.answers_le
  exact ⟨by omega, fun _ _ => by omega, by omega, by omega, .inl hasks.limits_eq⟩

/-- A call that was allowed keeps the log within the limit. -/
theorem LoopLog.Within.execute {service : ChatService} {sessionId : SessionId} {log : LoopLog}
    {toolCall : ToolCall} {context : ToolExecutionContext} (h : log.Within service)
    (hexecutes : log.Executes service sessionId toolCall context)
    (outcome : Except ToolError ToolExecutionResult) :
    (log.execute toolCall outcome).Within service := by
  have hanswers : log.answers ≠ [] := by
    intro hnone
    have hnext := hexecutes.next
    rw [LoopLog.lastCalls, hnone] at hnext
    simp at hnext
  have hle := hexecutes.answers_le
  have hrounds : (log.execute toolCall outcome).toolRounds ≤ log.answers.length := by
    by_cases hfirst : log.executed = []
    · have hbegins := h.begins hfirst hanswers
      simp only [LoopLog.execute, hfirst, if_true]
      omega
    · simp only [LoopLog.execute, hfirst, if_false]
      exact h.rounds_le
  refine ⟨hrounds, ?_, hrounds.trans hle, h.answers_le, ?_⟩
  · intro hnone
    simp [LoopLog.execute] at hnone
  · -- with the limit signalled there is one answer too many for another call
    rcases h.limits with hlimits | ⟨hfinal, hruntime, hcalls, -⟩
    · exact .inl hlimits
    · have hmax := hfinal.pending hruntime hcalls
      have hcount := hfinal.answers_eq
      omega

/-- Every allowed event keeps the log within the limit. -/
theorem LoopLog.Within.record {service : ChatService} {request : ChatTurnRequest} {log : LoopLog}
    (h : log.Within service) {e : Event ChatSig} (he : log.Allows service request e.op) :
    (log.record e).Within service := by
  obtain ⟨op, answer⟩ := e
  obtain ⟨-, hallowed⟩ := he
  cases op with
  | complete modelRequest =>
      cases answer with
      | ok response => exact hallowed.within_answered _
      | error error => exact h
  | stream modelRequest =>
      cases answer with
      | ok events => exact hallowed.within_answered _
      | error error => exact h
  | execute toolCall context => exact h.execute hallowed answer
  | yield event =>
      cases event with
      | toolRoundLimitReached maxRoundTrips pendingToolCalls =>
          refine ⟨h.rounds_le, h.begins, h.rounds_le_max, h.answers_le, .inr ?_⟩
          refine ⟨⟨hallowed.final.answers_eq, hallowed.final.executed_eq,
            hallowed.final.rounds_le, hallowed.final.pending⟩, hallowed.runtime,
            hallowed.calls, ?_⟩
          rw [LoopLog.record, hallowed.limits_eq, hallowed.max_eq, hallowed.pending_eq]
          rfl
      | turnComplete result =>
          refine ⟨h.rounds_le, h.begins, h.rounds_le_max, h.answers_le, ?_⟩
          refine h.limits.imp_right ?_
          rintro ⟨hfinal, hrest⟩
          exact ⟨⟨hfinal.answers_eq, hfinal.executed_eq, hfinal.rounds_le, hfinal.pending⟩, hrest⟩
      | _ => exact h
  | _ => exact h

/-- A history of allowed events is within the limit. -/
theorem within_of_loops {service : ChatService} {request : ChatTurnRequest}
    {events : History ChatSig}
    (hguard : ∀ before e after, events = before ++ e :: after → Loops service request before e) :
    (loopLog events).Within service := by
  induction events using List.reverseRecOn with
  | nil =>
      exact ⟨Nat.le_refl _, fun _ hnone => absurd rfl hnone, Nat.zero_le _, Nat.zero_le _, .inl rfl⟩
  | append_singleton events e ih =>
      rw [loop_log_snoc]
      refine LoopLog.Within.record (ih ?_) (hguard events e [] rfl)
      intro before e' after hsplit
      exact hguard before e' (after ++ [e]) (by rw [hsplit, List.append_assoc, List.cons_append])

/-! ## The result -/

/-- A completed turn has completed its loop. After `TurnComplete` nothing follows. -/
theorem loop_completes {service : ChatService} {call : TurnCall} {events : History ChatSig}
    {rest : Prog ChatSig (Except ChatError (Option ChatTurnResult))} {result : ChatTurnResult}
    (hpath : Path (call.program service).run events rest)
    (hresult : call.CompletesWith events rest result) :
    (loopLog events).Completes service call.streaming result := by
  cases call with
  | run request =>
      cases (show rest = _ from hresult)
      exact (TurnCall.program_loops service (.run request)).returns hpath result rfl rfl
  | stream request =>
      have hguard := ((TurnCall.program_loops service (.stream request)).path hpath).1
      obtain ⟨before, after, rfl⟩ := List.append_of_mem (show _ ∈ events from hresult)
      obtain ⟨-, hcompletes⟩ := hguard before _ after rfl
      cases after with
      | nil =>
          rw [loop_log_snoc]
          exact ⟨⟨hcompletes.final.answers_eq, hcompletes.final.executed_eq,
            hcompletes.final.rounds_le, hcompletes.final.pending⟩, hcompletes.calls_eq,
            hcompletes.limit_iff, hcompletes.limits_eq⟩
      | cons e after =>
          obtain ⟨hopen, -⟩ := hguard (before ++ [⟨.yield (.turnComplete result), ()⟩]) e after
            (by rw [List.append_assoc]; rfl)
          have hcompleted := hopen.completed_eq
          rw [List.nil_append, loop_log_snoc] at hcompleted
          cases hcompleted

/-- No turn goes on forever, and on every run of one: at most `n` tool rounds are executed and at
most `n + 1` answers consumed; a limit signal stands for a last answer whose calls are pending
after `n` rounds; and a result reports the calls of the last answer and, by its flag, whether they
are pending. The stream signals the limit once if they are. -/
theorem tool_loop_bounded (service : ChatService) (call : TurnCall) :
    ¬ Endless (call.program service).run ∧
      ∀ events rest, Path (call.program service).run events rest →
        (loopLog events).toolRounds ≤ service.policy.maxToolRoundTrips ∧
        (loopLog events).answers.length ≤ service.policy.maxToolRoundTrips + 1 ∧
        ((loopLog events).limits ≠ [] → service.hasToolRuntime = true ∧
          (loopLog events).lastCalls ≠ [] ∧
          (loopLog events).toolRounds = service.policy.maxToolRoundTrips ∧
          (loopLog events).limits =
            [(service.policy.maxToolRoundTrips, (loopLog events).lastCalls.length)]) ∧
        ∀ result, call.CompletesWith events rest result →
          result.toolCalls = (loopLog events).lastCalls ∧
          (result.toolRoundLimitReached = true ↔
            service.hasToolRuntime = true ∧ (loopLog events).lastCalls ≠ []) ∧
          (result.toolRoundLimitReached = true →
            (loopLog events).toolRounds = service.policy.maxToolRoundTrips) ∧
          (service.hasToolRuntime = true → result.toolRoundLimitReached = false →
            result.toolCalls = []) ∧
          (loopLog events).limits = if call.streaming && result.toolRoundLimitReached then
            [(service.policy.maxToolRoundTrips, result.toolCalls.length)] else [] := by
  refine ⟨not_endless _, fun events rest hpath => ?_⟩
  have hwithin := within_of_loops ((TurnCall.program_loops service call).path hpath).1
  refine ⟨hwithin.rounds_le_max, hwithin.answers_le, ?_, fun result hresult => ?_⟩
  · intro hsignalled
    obtain ⟨hfinal, hruntime, hcalls, hlimits⟩ := hwithin.limits.resolve_left hsignalled
    exact ⟨hruntime, hcalls, hfinal.pending hruntime hcalls, hlimits⟩
  · have hcompletes := loop_completes hpath hresult
    have hflag := hcompletes.limit_iff
    rw [hcompletes.calls_eq] at hflag
    refine ⟨hcompletes.calls_eq, hflag, ?_, ?_, hcompletes.limits_eq⟩
    · intro hreached
      obtain ⟨hruntime, hcalls⟩ := hflag.mp hreached
      exact hcompletes.final.pending hruntime hcalls
    · intro hruntime hnot
      rw [hcompletes.calls_eq]
      by_contra hcalls
      rw [hflag.mpr ⟨hruntime, hcalls⟩] at hnot
      cases hnot

/-- A model that always asks for another tool call. -/
def insistentModel : TurnEnvironment :=
  { complete := fun request =>
      { provider := .openAi, model := request.model
        output := [.toolCall ⟨"call", "lookup", "\x7b\x7d"⟩]
        stopReason := .toolUse, usage := {} }
    stream := fun _ => []
    execute := fun _ call _ => .ok ⟨call.id, "nothing"⟩
    prior := fun _ => [] }

/-- A turn with that model and a limit of one tool round. -/
def insistentTurn : Turn (Option ChatTurnResult) :=
  TurnCall.program ⟨{ ChatPolicy.default with maxToolRoundTrips := 1 }, true⟩ (.run helloTurn)

/-- The result of that turn: the second answer, with its call pending. -/
def insistentResult : ChatTurnResult :=
  { sessionId := ⟨"session"⟩, assistantMessage := ""
    toolCalls := [⟨"call", "lookup", "\x7b\x7d"⟩], stopReason := .toolUse, usage := {}
    toolRoundLimitReached := true }

/-- A model that keeps calling tools gets one round where one is allowed. -/
theorem tool_loop_bounded_insistent : ∃ events,
    Path insistentTurn.run events (.pure (.ok (some insistentResult))) ∧
      (loopLog events).toolRounds = 1 := by
  have hresult : (insistentTurn.run.finish insistentModel.handle {}).map Prod.fst =
      some (.ok (some insistentResult)) := by decide +kernel
  obtain ⟨⟨_, seen⟩, hfinish, rfl⟩ := Option.map_eq_some_iff.mp hresult
  have hpath := path_of_finish hfinish
  have hbounds := (tool_loop_bounded _ _).2 _ _ hpath
  exact ⟨_, hpath, (hbounds.2.2.2 insistentResult rfl).2.2.1 rfl⟩

end Fiddlesticks.Chat

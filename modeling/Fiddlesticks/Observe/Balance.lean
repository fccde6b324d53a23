import Fiddlesticks.Harness.Gate
import Fiddlesticks.Observe.Attempts
import Fiddlesticks.Observe.Executions

/-!
# The metrics balance

In any interleaving of the chat turns and harness executions of a bundle, at any point of it, the
counters of what has started are those of what has ended and what is going on: of attempts of
provider operations, of tool executions and of phases. The numbers of attempts that are recorded for
operations add up to the attempts that were counted.
-/

namespace Fiddlesticks.Observe

open Effect Prog Provider Tooling Chat Memory Harness Facade

variable {Tool : Type}

variable {A ι σ : Type}

/-! ## Accounts of processes -/

/-- An account of executions as one of processes, in which the tool runtime changes nothing. -/
def onBundle (account : Account HarnessSig A) : Account (BundleSig Tool) A
  | state, .harness op => account state op
  | state, .tool _ => some state

/-- The tool runtime of a bundle takes the place of its tool calls. -/
theorem withTools_accords {account : Account HarnessSig A}
    (hexecute : ∀ state toolCall context,
      account state (.chat (.execute toolCall context)) = some state)
    (tools : Option (DefaultToolRuntime Tool)) (op : HarnessOp) (state state' : A)
    (h : account state op = some state') :
    Accords (onBundle account) (· = state') (withTools tools op) state := by
  cases op with
  | chat op =>
      cases op with
      | execute toolCall context =>
          rw [hexecute, Option.some.injEq] at h
          subst h
          cases tools with
          | none => exact settles_request (hexecute state toolCall context)
          | some runtime =>
              have htool : ∀ op : RuntimeOp Tool, Settles (onBundle account) state (askTool op) :=
                fun op => settles_request rfl
              exact settles_translate htool _
      | _ => exact accords_request h
  | _ => exact accords_request h

/-- Every process leaves the account as it finds it. -/
theorem process_settles {account : Account HarnessSig A} {idle : A} {during : HarnessPhase → A}
    (h : PhaseAccount account idle during)
    (hexecute : ∀ state toolCall context,
      account state (.chat (.execute toolCall context)) = some state)
    {bundle : RuntimeBundle Tool} (hturn : ∀ call, Settles account idle (bundle.turn call))
    (call : BundleCall) : Settles (onBundle account) idle (bundle.program call) := by
  cases call with
  | chat call => exact settles_map _ (Accords.translate (withTools_accords hexecute _) (hturn call))
  | harness call =>
      exact settles_map _ (Accords.translate (withTools_accords hexecute _)
        (execution_settles bundle.harness h call))

/-- The attempts of a process. -/
theorem attempts_settle (bundle : RuntimeBundle Tool) (call : BundleCall) :
    Settles (onBundle harnessRetries) .idle (bundle.program call) := by
  have hphase : PhaseAccount harnessRetries .idle fun _ => .idle := by
    refine ⟨fun _ _ _ => rfl, fun _ _ _ => rfl, fun _ _ _ _ => rfl, fun state op hop => ?_,
      fun _ => executeTurn_settles⟩
    cases op with
    | chat op => exact hop.elim
    | _ => rfl
  refine process_settles hphase (fun _ _ _ => rfl) (fun call => ?_) call
  exact Accords.translate (chatOp_accords true) (turn_settles bundle.chat call)

/-- The reports of a phase. -/
def phaseMark : HarnessOp → Mark String
  | .hook (.phaseStart phase _ _) => .opens phase.debug
  | .hook (.phaseSuccess phase _ _) => .closes phase.debug
  | .hook (.phaseFailure phase _ _ _) => .closes phase.debug
  | _ => .neutral

/-- The phases of a process. -/
theorem phases_settle (bundle : RuntimeBundle Tool) (call : BundleCall) :
    Settles (onBundle (oneOpen phaseMark)) none (bundle.program call) := by
  have hneutral : ∀ (state : Option String) op, InTurn op →
      (oneOpen phaseMark : Account HarnessSig (Option String)) state op = some state := by
    intro state op hop
    cases op with
    | hook event => exact hop.elim
    | _ => rfl
  have hphase : PhaseAccount (oneOpen phaseMark) none fun phase => some phase.debug := by
    refine ⟨fun _ _ _ => rfl, fun _ _ _ => if_pos rfl, fun _ _ _ _ => if_pos rfl,
      fun state op hop => ?_, fun phase chat turnRequest observed => ?_⟩
    · cases op with
      | hook event => exact hop.elim
      | _ => rfl
    · exact (executeTurn_uses chat turnRequest observed).settles (hneutral _)
  refine process_settles hphase (fun _ _ _ => rfl) (fun call => ?_) call
  exact (uses_translate (chatOp_uses true) _).settles (hneutral none)

/-- The reports of an execution. -/
def executionMark : RuntimeOp Tool → Mark String
  | .executionStart toolCall _ => .opens toolCall.name
  | .executionSuccess toolCall _ _ => .closes toolCall.name
  | .executionFailure toolCall _ _ => .closes toolCall.name
  | _ => .neutral

/-- The tool runtime reports an execution around what it does. -/
theorem execute_settles (runtime : DefaultToolRuntime Tool) (toolCall : ToolCall)
    (context : ToolExecutionContext) :
    Settles (oneOpen executionMark) none (runtime.execute toolCall context) := by
  have hfail (error : ToolError) : Accords (oneOpen executionMark) (· = none)
      (DefaultToolRuntime.fail toolCall context error : Prog (RuntimeSig Tool) _)
      (some toolCall.name) :=
    accords_request_bind (oneOpen_closes rfl) fun _ => settles_pure _
  have hfinish (output : Except ToolError String) : Accords (oneOpen executionMark) (· = none)
      (DefaultToolRuntime.finish toolCall context output : Prog (RuntimeSig Tool) _)
      (some toolCall.name) := by
    cases output with
    | ok output => exact accords_request_bind (oneOpen_closes rfl) fun _ => settles_pure _
    | error error => exact hfail _
  rw [DefaultToolRuntime.execute]
  refine accords_request_bind (oneOpen_opens rfl) fun _ => ?_
  cases runtime.registry.get toolCall.name with
  | none => exact hfail _
  | some tool =>
      cases runtime.timeout with
      | none => exact accords_request_bind (oneOpen_neutral rfl) hfinish
      | some timeout =>
          refine accords_request_bind (oneOpen_neutral rfl) fun output => ?_
          cases output with
          | none => exact hfail _
          | some output => exact hfinish output

/-- The reports of the tool runtime of a bundle. -/
def toolMark : BundleOp Tool → Mark String
  | .tool op => executionMark op
  | .harness _ => .neutral

/-- A tool call opens and closes what it reports. -/
theorem withTools_settles (tools : Option (DefaultToolRuntime Tool)) (op : HarnessOp) :
    Settles (oneOpen toolMark) none (withTools tools op) := by
  cases op with
  | chat op =>
      cases op with
      | execute toolCall context =>
          cases tools with
          | none => exact settles_request (oneOpen_neutral rfl)
          | some runtime =>
              refine Accords.translate (fun op state state' h => ?_)
                (execute_settles runtime toolCall context)
              exact accords_request h
      | _ => exact settles_request (oneOpen_neutral rfl)
  | _ => exact settles_request (oneOpen_neutral rfl)

/-- The tool executions of a process. -/
theorem executions_settle (bundle : RuntimeBundle Tool) (call : BundleCall) :
    Settles (oneOpen toolMark) none (bundle.program call) := by
  cases call with
  | chat call => exact settles_map _ (settles_translate (withTools_settles _) _)
  | harness call => exact settles_map _ (settles_translate (withTools_settles _) _)

/-! ## What metrics count -/

/-- What the steps of a run hand to the recorder, each with the time that has elapsed at it. -/
def metricsOf (timed : List (ℚ × ι × Event (BundleSig Tool))) : List MetricCall :=
  timed.flatMap fun entry => metricCalls entry.1 entry.2.2.op

/-- The labels do not name the kind of an error, which only failures and retries have. -/
def WithoutErrorKind (labels : Labels) : Prop := ∀ label ∈ labels, label.1 ≠ "error_kind"

/-- Labels without an error kind do not ask for one. -/
theorem subset_withErrorKind {labels : Labels} (h : WithoutErrorKind labels) (given : Labels)
    (kind : String) : labels ⊆ given ++ [("error_kind", kind)] ↔ labels ⊆ given := by
  constructor
  · intro hsubset label hlabel
    have hmem := hsubset hlabel
    rw [List.mem_append, List.mem_singleton] at hmem
    rcases hmem with hmem | rfl
    · exact hmem
    · exact absurd rfl (h _ hlabel)
  · exact fun hsubset => List.subset_append_of_subset_left _ hsubset

/-- Counts add up over calls. -/
theorem counted_append (counter : String) (labels : Labels) (calls more : List MetricCall) :
    counted counter labels (calls ++ more) =
      counted counter labels calls + counted counter labels more :=
  List.countP_append ..

/-- The counters do not depend on the time. -/
theorem counted_metricCalls (counter : String) (labels : Labels) (elapsed : ℚ)
    (op : BundleOp Tool) : counted counter labels (metricCalls elapsed op) =
      counted counter labels (metricCalls 0 op) := by
  cases op with
  | harness op =>
      cases op with
      | hook event => cases event <;> rfl
      | chat op => cases op <;> rfl
      | _ => rfl
  | tool op => cases op <;> rfl

/-- A counter at the end of a run. -/
theorem counted_metricsOf (counter : String) (labels : Labels)
    (timed : List (ℚ × ι × Event (BundleSig Tool))) :
    counted counter labels (metricsOf timed) =
      Pool.tally (fun op => counted counter labels (metricCalls 0 op))
        (timed.map Prod.snd) := by
  induction timed with
  | nil => rfl
  | cons entry timed ih =>
      rw [metricsOf, List.flatMap_cons, counted_append, counted_metricCalls]
      rw [metricsOf] at ih
      rw [ih]
      simp [Pool.tally]

/-- Nothing is counted without calls. -/
theorem counted_nil (counter : String) (labels : Labels) : counted counter labels [] = 0 := rfl

/-- An increment counts for the counters with its name and some of its labels. -/
theorem counted_increment (counter : String) (labels : Labels) (name : String) (given : Labels)
    (calls : List MetricCall) :
    counted counter labels (.increment name given :: calls) =
      counted counter labels calls +
        if name = counter then if labels ⊆ given then 1 else 0 else 0 := by
  simp only [counted, List.countP_cons, decide_eq_true_eq, ite_and]

/-- A recorded value counts for no counter. -/
theorem counted_record (counter : String) (labels : Labels) (name : String) (given : Labels)
    (value : ℚ) (calls : List MetricCall) :
    counted counter labels (.record name given value :: calls) = counted counter labels calls := by
  simp [counted]

/-! ### Attempts -/

/-- The labels of an operation of a provider. -/
def operationLabels (label : String × String) : Labels :=
  [("provider", label.1), ("operation", label.2)]

/-- The attempts that end: in a retry, in success or in failure. -/
def attemptsEnded (labels : Labels) (calls : List MetricCall) : Nat :=
  counted "fiddlesticks_provider_retry_scheduled_total" labels calls +
    counted "fiddlesticks_provider_success_total" labels calls +
    counted "fiddlesticks_provider_failure_total" labels calls

namespace Retrying

/-- The attempts that go on. -/
def going (labels : Labels) : Retrying → Nat
  | attempting label _ => if labels ⊆ operationLabels label then 1 else 0
  | _ => 0

/-- The attempts of an operation that has not ended. -/
def made (labels : Labels) : Retrying → Nat
  | attempting label attempt | waiting label attempt =>
      if labels ⊆ operationLabels label then attempt else 0
  | idle => 0

/-- At most one attempt is under way. -/
theorem going_le (labels : Labels) (state : Retrying) : state.going labels ≤ 1 := by
  cases state with
  | attempting label attempt =>
      show (if labels ⊆ operationLabels label then 1 else 0) ≤ 1
      split <;> omega
  | _ => exact Nat.zero_le 1

end Retrying

/-- What a report may do. -/
theorem Retrying.step_cases {state state' : Retrying} {event : HookEvent}
    (h : state.step event = some state') :
    (∃ provider operation, event = .attemptStart provider operation 1 ∧ state = .idle ∧
      state' = .attempting (provider.display, operation) 1) ∨
    (∃ provider operation attempt, event = .attemptStart provider operation (attempt + 1) ∧
      state = .waiting (provider.display, operation) attempt ∧
      state' = .attempting (provider.display, operation) (attempt + 1)) ∨
    (∃ provider operation attempt delay error,
      event = .retryScheduled provider operation attempt delay error ∧
      state = .attempting (provider.display, operation) attempt ∧
      state' = .waiting (provider.display, operation) attempt) ∨
    (∃ provider operation attempt,
      (event = .success provider operation attempt ∨
        ∃ error, event = .failure provider operation attempt error) ∧
      state = .attempting (provider.display, operation) attempt ∧ state' = .idle) := by
  revert h
  fun_cases Retrying.step state event <;> intro h <;> simp_all

/-- What a report of a provider operation counts as a start. -/
def attemptStarted (labels : Labels) : HookEvent → Nat
  | .attemptStart provider operation _ =>
      if labels ⊆ operationLabels (provider.display, operation) then 1 else 0
  | _ => 0

/-- What a report of a provider operation counts as an end. -/
def attemptEnded (labels : Labels) : HookEvent → Nat
  | .attemptStart _ _ _ => 0
  | .retryScheduled provider operation _ _ _ | .success provider operation _
  | .failure provider operation _ _ =>
      if labels ⊆ operationLabels (provider.display, operation) then 1 else 0

/-- The attempts that a report has of an operation that has ended. -/
def attemptsReported (labels : Labels) : HookEvent → Nat
  | .success provider operation attempts | .failure provider operation attempts _ =>
      if labels ⊆ operationLabels (provider.display, operation) then attempts else 0
  | _ => 0

/-- A report changes the attempts that go on by what it counts. -/
theorem Retrying.step_going (labels : Labels) {state state' : Retrying} {event : HookEvent}
    (h : state.step event = some state') :
    state'.going labels + attemptEnded labels event =
      state.going labels + attemptStarted labels event := by
  obtain ⟨provider, operation, rfl, rfl, rfl⟩ | ⟨provider, operation, attempt, rfl, rfl, rfl⟩ |
    ⟨provider, operation, attempt, delay, error, rfl, rfl, rfl⟩ |
    ⟨provider, operation, attempt, rfl | ⟨error, rfl⟩, rfl, rfl⟩ := step_cases h
  all_goals simp [going, attemptStarted, attemptEnded]

/-- A report changes the attempts of an operation that has not ended by what it counts. -/
theorem Retrying.step_made (labels : Labels) {state state' : Retrying} {event : HookEvent}
    (h : state.step event = some state') :
    state'.made labels + attemptsReported labels event =
      state.made labels + attemptStarted labels event := by
  obtain ⟨provider, operation, rfl, rfl, rfl⟩ | ⟨provider, operation, attempt, rfl, rfl, rfl⟩ |
    ⟨provider, operation, attempt, delay, error, rfl, rfl, rfl⟩ |
    ⟨provider, operation, attempt, rfl | ⟨error, rfl⟩, rfl, rfl⟩ := step_cases h
  all_goals simp [made, attemptStarted, attemptsReported]
  split <;> omega

open MetricsObservabilityHooks

/-- A hook counts a started attempt when it reports one. -/
theorem counted_onProvider_start (labels : Labels) (event : HookEvent) :
    counted "fiddlesticks_provider_attempt_start_total" labels (onProvider event) =
      attemptStarted labels event := by
  cases event with
  | attemptStart provider operation attempt =>
      simp only [onProvider, onAttemptStart, counted_nil, counted_increment, if_true, zero_add]
      rfl
  | _ =>
      simp [onProvider, onRetryScheduled, onSuccess, onFailure, counted_nil, counted_increment,
        counted_record, attemptStarted]

/-- A hook counts an ended attempt when it reports one. -/
theorem attemptsEnded_onProvider {labels : Labels} (h : WithoutErrorKind labels)
    (event : HookEvent) : attemptsEnded labels (onProvider event) = attemptEnded labels event := by
  have hkind := fun a b kind => subset_withErrorKind h [a, b] kind
  simp only [List.cons_append, List.nil_append] at hkind
  cases event <;>
    simp [attemptsEnded, onProvider, onAttemptStart, onRetryScheduled, onSuccess, onFailure,
      counted_nil, counted_increment, counted_record, attemptEnded, hkind] <;> rfl

/-- The report of a provider operation, if the operation is one. -/
def providerReport : BundleOp Tool → Option HookEvent
  | .harness (.chat (.hook event)) => some event
  | _ => none

/-- Only reports of provider operations are counted as attempts. -/
theorem metricCalls_unreported (labels : Labels) {op : BundleOp Tool}
    (h : providerReport op = none) :
    counted "fiddlesticks_provider_attempt_start_total" labels (metricCalls 0 op) = 0 ∧
      attemptsEnded labels (metricCalls 0 op) = 0 := by
  cases op with
  | tool op =>
      cases op <;>
        simp [attemptsEnded, metricCalls, onTool, onExecutionStart, onExecutionSuccess,
          onExecutionFailure, counted_nil, counted_increment, counted_record]
  | harness op =>
      cases op with
      | hook event =>
          cases event <;>
            simp [attemptsEnded, metricCalls, onPhase, onPhaseStart, onPhaseSuccess,
              onPhaseFailure, counted_nil, counted_increment, counted_record]
      | chat op =>
          cases op with
          | hook event => cases h
          | _ => exact ⟨rfl, rfl⟩
      | _ => exact ⟨rfl, rfl⟩

/-- Reports of provider operations come from the hooks of the chat service. -/
theorem providerReport_eq_some {op : BundleOp Tool} {event : HookEvent}
    (h : providerReport op = some event) : op = .harness (.chat (.hook event)) := by
  unfold providerReport at h
  split at h
  · cases h
    rfl
  · cases h

/-- The account of attempts follows the reports. -/
theorem onBundle_retries {op : BundleOp Tool} {state state' : Retrying}
    (h : onBundle harnessRetries state op = some state') :
    (providerReport op = none ∧ state' = state) ∨
      ∃ event, providerReport op = some event ∧ state.step event = some state' := by
  cases op with
  | tool op => exact .inl ⟨rfl, (Option.some.inj h).symm⟩
  | harness op =>
      cases op with
      | chat op =>
          cases op with
          | hook event => exact .inr ⟨event, rfl, h⟩
          | _ => exact .inl ⟨rfl, (Option.some.inj h).symm⟩
      | _ => exact .inl ⟨rfl, (Option.some.inj h).symm⟩

/-- The attempts that go on change by what an operation counts. -/
theorem retries_going {labels : Labels} (hlabels : WithoutErrorKind labels) (state : Retrying)
    (op : BundleOp Tool) (state' : Retrying)
    (h : onBundle harnessRetries state op = some state') :
    state'.going labels + attemptsEnded labels (metricCalls 0 op) = state.going labels +
      counted "fiddlesticks_provider_attempt_start_total" labels (metricCalls 0 op) := by
  obtain ⟨hreport, rfl⟩ | ⟨event, hreport, hstep⟩ := onBundle_retries h
  · obtain ⟨hstarted, hended⟩ := metricCalls_unreported labels hreport
    rw [hstarted, hended]
  · rw [providerReport_eq_some hreport, metricCalls, counted_onProvider_start,
      attemptsEnded_onProvider hlabels]
    exact Retrying.step_going labels hstep

/-- The attempts that an operation reports of a provider operation that has ended. -/
def reported (labels : Labels) (op : BundleOp Tool) : Nat :=
  ((providerReport op).map (attemptsReported labels)).getD 0

/-- The attempts of operations that have not ended change by what an operation counts. -/
theorem retries_made (labels : Labels) (state : Retrying) (op : BundleOp Tool)
    (state' : Retrying) (h : onBundle harnessRetries state op = some state') :
    state'.made labels + reported labels op = state.made labels +
      counted "fiddlesticks_provider_attempt_start_total" labels (metricCalls 0 op) := by
  obtain ⟨hreport, rfl⟩ | ⟨event, hreport, hstep⟩ := onBundle_retries h
  · rw [(metricCalls_unreported labels hreport).1, reported, hreport]
    rfl
  · rw [reported, hreport, providerReport_eq_some hreport, metricCalls, counted_onProvider_start]
    exact Retrying.step_made labels hstep

/-- The values that are recorded as attempts of operations that have ended. -/
def recordedAttempts (labels : Labels) (calls : List MetricCall) : List ℚ :=
  recorded "fiddlesticks_provider_attempts_per_success" labels calls ++
    recorded "fiddlesticks_provider_attempts_per_failure" labels calls

/-- Recorded values follow each other. -/
theorem recorded_append (histogram : String) (labels : Labels) (calls more : List MetricCall) :
    recorded histogram labels (calls ++ more) =
      recorded histogram labels calls ++ recorded histogram labels more :=
  List.filterMap_append ..

/-- Nothing is recorded without calls. -/
theorem recorded_nil (histogram : String) (labels : Labels) : recorded histogram labels [] = [] :=
  rfl

/-- An increment records nothing. -/
theorem recorded_increment (histogram : String) (labels : Labels) (name : String)
    (given : Labels) (calls : List MetricCall) :
    recorded histogram labels (.increment name given :: calls) =
      recorded histogram labels calls := by
  simp [recorded]

/-- A recorded value is kept for the histograms with its name and some of its labels. -/
theorem recorded_record (histogram : String) (labels : Labels) (name : String) (given : Labels)
    (value : ℚ) (calls : List MetricCall) :
    recorded histogram labels (.record name given value :: calls) =
      (if name = histogram then if labels ⊆ given then [value] else [] else []) ++
        recorded histogram labels calls := by
  by_cases hname : name = histogram <;> by_cases hgiven : labels ⊆ given <;>
    simp [recorded, hname, hgiven]

/-- The attempt numbers that a hook records are those that it reports. -/
theorem recordedAttempts_onProvider (labels : Labels) (event : HookEvent) :
    (recordedAttempts labels (onProvider event)).sum = (attemptsReported labels event : ℚ) := by
  cases event with
  | success provider operation attempts | failure provider operation attempts error =>
      by_cases hlabels : labels ⊆ operationLabels (provider.display, operation)
      all_goals
        simp only [attemptsReported, hlabels, if_true, if_false]
        unfold operationLabels at hlabels
        simp [recordedAttempts, onProvider, onSuccess, onFailure, recorded_nil,
          recorded_increment, recorded_record, hlabels]
  | _ =>
      simp [recordedAttempts, onProvider, onAttemptStart, onRetryScheduled, recorded_nil,
        recorded_increment, recorded_record, attemptsReported]

/-- What an operation records as attempts. -/
theorem recordedAttempts_metricCalls (labels : Labels) (elapsed : ℚ) (op : BundleOp Tool) :
    (recordedAttempts labels (metricCalls elapsed op)).sum = (reported labels op : ℚ) := by
  cases op with
  | tool op =>
      cases op <;>
        simp [recordedAttempts, metricCalls, onTool, onExecutionStart, onExecutionSuccess,
          onExecutionFailure, recorded_nil, recorded_increment, recorded_record, reported,
          providerReport]
  | harness op =>
      cases op with
      | hook event =>
          cases event <;>
            simp [recordedAttempts, metricCalls, onPhase, onPhaseStart, onPhaseSuccess,
              onPhaseFailure, recorded_nil, recorded_increment, recorded_record, reported,
              providerReport]
      | chat op =>
          cases op with
          | hook event => exact recordedAttempts_onProvider labels event
          | _ => rfl
      | _ => rfl

/-- What a run records as attempts. -/
theorem recordedAttempts_metricsOf (labels : Labels)
    (timed : List (ℚ × ι × Event (BundleSig Tool))) :
    (recordedAttempts labels (metricsOf timed)).sum =
      (Pool.tally (reported labels) (timed.map Prod.snd) : ℚ) := by
  induction timed with
  | nil => rfl
  | cons entry timed ih =>
      have hentry := recordedAttempts_metricCalls labels entry.1 entry.2.2.op
      simp only [recordedAttempts, List.sum_append] at hentry ih ⊢
      simp only [metricsOf, List.flatMap_cons, recorded_append, List.sum_append] at ih ⊢
      simp only [Pool.tally, List.map_cons, Nat.cast_add]
      rw [← hentry, ← ih]
      ring

/-! ### Tool executions and phases -/

/-- The executions of tools that end. -/
def executionsEnded (labels : Labels) (calls : List MetricCall) : Nat :=
  counted "fiddlesticks_tool_execution_success_total" labels calls +
    counted "fiddlesticks_tool_execution_failure_total" labels calls

/-- The labels are some of those of the executions of a tool. -/
def ofTool (labels : Labels) (name : String) : Bool := labels ⊆ [("tool_name", name)]

/-- The executions that an operation opens and closes are those that it counts. -/
theorem toolMark_metricCalls {labels : Labels} (h : WithoutErrorKind labels)
    (op : BundleOp Tool) :
    (toolMark op).opened (ofTool labels) =
        counted "fiddlesticks_tool_execution_start_total" labels (metricCalls 0 op) ∧
      (toolMark op).closed (ofTool labels) = executionsEnded labels (metricCalls 0 op) := by
  have hkind := fun a kind => subset_withErrorKind h [a] kind
  simp only [List.cons_append, List.nil_append] at hkind
  cases op with
  | tool op =>
      cases op <;>
        simp [toolMark, executionMark, Mark.opened, Mark.closed, executionsEnded, metricCalls,
          onTool, onExecutionStart, onExecutionSuccess, onExecutionFailure, counted_nil,
          counted_increment, counted_record, ofTool, Bool.toNat, Bool.cond_decide, hkind]
  | harness op =>
      cases op with
      | hook event =>
          cases event <;>
            simp [toolMark, Mark.opened, Mark.closed, executionsEnded, metricCalls, onPhase,
              onPhaseStart, onPhaseSuccess, onPhaseFailure, counted_nil, counted_increment,
              counted_record]
      | chat op =>
          cases op with
          | hook event =>
              cases event <;>
                simp [toolMark, Mark.opened, Mark.closed, executionsEnded, metricCalls, onProvider,
                  onAttemptStart, onRetryScheduled, onSuccess, onFailure, counted_nil,
                  counted_increment, counted_record]
          | _ => exact ⟨rfl, rfl⟩
      | _ => exact ⟨rfl, rfl⟩

/-- The phases that end. -/
def phasesEnded (labels : Labels) (calls : List MetricCall) : Nat :=
  counted "fiddlesticks_harness_phase_success_total" labels calls +
    counted "fiddlesticks_harness_phase_failure_total" labels calls

/-- The labels are some of those of a phase. -/
def ofPhase (labels : Labels) (phase : String) : Bool := labels ⊆ [("phase", phase)]

/-- The reports of a phase. The tool runtime has none. -/
def bundlePhaseMark : BundleOp Tool → Mark String
  | .harness op => phaseMark op
  | .tool _ => .neutral

/-- The phases of the harness are accounted for in the bundle. -/
theorem onBundle_phaseMark : (onBundle (oneOpen phaseMark) : Account (BundleSig Tool) _) =
    oneOpen bundlePhaseMark := by
  funext state op
  cases op with
  | harness op => rfl
  | tool op => rfl

/-- The phases that an operation opens and closes are those that it counts. -/
theorem phaseMark_metricCalls {labels : Labels} (h : WithoutErrorKind labels)
    (op : BundleOp Tool) :
    (bundlePhaseMark op).opened (ofPhase labels) =
        counted "fiddlesticks_harness_phase_start_total" labels (metricCalls 0 op) ∧
      (bundlePhaseMark op).closed (ofPhase labels) = phasesEnded labels (metricCalls 0 op) := by
  have hkind := fun a kind => subset_withErrorKind h [a] kind
  simp only [List.cons_append, List.nil_append] at hkind
  cases op with
  | tool op =>
      cases op <;>
        simp [bundlePhaseMark, Mark.opened, Mark.closed, phasesEnded, metricCalls, onTool,
          onExecutionStart, onExecutionSuccess, onExecutionFailure, counted_nil,
          counted_increment, counted_record]
  | harness op =>
      cases op with
      | hook event =>
          cases event <;>
            simp [bundlePhaseMark, phaseMark, Mark.opened, Mark.closed, phasesEnded, metricCalls,
              onPhase, onPhaseStart, onPhaseSuccess, onPhaseFailure, counted_nil,
              counted_increment, counted_record, ofPhase, Bool.toNat, Bool.cond_decide, hkind]
      | chat op =>
          cases op with
          | hook event =>
              cases event <;>
                simp [bundlePhaseMark, phaseMark, Mark.opened, Mark.closed, phasesEnded,
                  metricCalls, onProvider, onAttemptStart, onRetryScheduled, onSuccess, onFailure,
                  counted_nil, counted_increment, counted_record]
          | _ => exact ⟨rfl, rfl⟩
      | _ => exact ⟨rfl, rfl⟩

/-! ## The balance -/

/-- What has started has ended or goes on, in one of the processes that run. -/
def Balanced (started ended running : Nat) : Prop :=
  ended ≤ started ∧ started ≤ ended + running

/-- The balance of metrics while some number of processes run, for any labels but those that only an
error has. -/
structure MetricsBalance (calls : List MetricCall) (running : Nat) : Prop where
  attempts : ∀ labels, WithoutErrorKind labels →
    Balanced (counted "fiddlesticks_provider_attempt_start_total" labels calls)
      (attemptsEnded labels calls) running
  attemptNumbers : ∀ labels,
    (recordedAttempts labels calls).sum ≤
        counted "fiddlesticks_provider_attempt_start_total" labels calls ∧
      (running = 0 → (recordedAttempts labels calls).sum =
        counted "fiddlesticks_provider_attempt_start_total" labels calls)
  executions : ∀ labels, WithoutErrorKind labels →
    Balanced (counted "fiddlesticks_tool_execution_start_total" labels calls)
      (executionsEnded labels calls) running
  phases : ∀ labels, WithoutErrorKind labels →
    Balanced (counted "fiddlesticks_harness_phase_start_total" labels calls)
      (phasesEnded labels calls) running

/-- The metrics balance at every point of every interleaving of the processes of a bundle. -/
theorem metrics_balance [DecidableEq ι] (bundle : RuntimeBundle Tool)
    (act : ι → σ → Event (BundleSig Tool) → σ → Prop) (shared : σ) (calls : ι → BundleCall)
    (timed : List (ℚ × ι × Event (BundleSig Tool)))
    (final : Pool (BundleSig Tool) ι σ BundleOutcome)
    (hrun : Pool.Run act ⟨shared, fun i => bundle.program (calls i)⟩ (timed.map Prod.snd) final) :
    MetricsBalance (metricsOf timed) (Pool.running final (timed.map Prod.snd)).card where
  attempts labels hlabels := by
    have hidle : Retrying.idle.going labels = 0 := rfl
    have h := hrun.balance_le (retries_going hlabels) hidle (Retrying.going_le labels)
      fun i => attempts_settle bundle (calls i)
    simp only [Balanced, attemptsEnded, counted_metricsOf] at h ⊢
    simpa only [Pool.tally_add] using h
  attemptNumbers labels := by
    have hidle : Retrying.idle.made labels = 0 := rfl
    obtain ⟨state, hbalance⟩ := hrun.balance (retries_made labels) hidle
      fun i => attempts_settle bundle (calls i)
    rw [recordedAttempts_metricsOf, counted_metricsOf, hbalance]
    constructor
    · exact Nat.cast_le.mpr (Nat.le_add_right _ _)
    · intro hnone
      rw [Finset.card_eq_zero.mp hnone, Finset.sum_empty, add_zero]
  executions labels hlabels := by
    have h := hrun.oneOpen_balance (ofTool labels) fun i => executions_settle bundle (calls i)
    simp only [toolMark_metricCalls hlabels] at h
    simp only [Balanced, executionsEnded, counted_metricsOf] at h ⊢
    simpa only [Pool.tally_add] using h
  phases labels hlabels := by
    have h := hrun.oneOpen_balance (ofPhase labels) fun i => by
      rw [← onBundle_phaseMark]
      exact phases_settle bundle (calls i)
    simp only [phaseMark_metricCalls hlabels] at h
    simp only [Balanced, phasesEnded, counted_metricsOf] at h ⊢
    simpa only [Pool.tally_add] using h

/-- A bundle with a tool. -/
def demoBundle : RuntimeBundle Unit where
  chat := ⟨.default, true⟩
  harness := { demoHarness with chat := some ⟨⟨.default, true⟩, true⟩ }
  tools := some { registry := ⟨(∅ : Std.ExtTreeMap String Unit).insert "echo" ()⟩ }

/-- A model that is not there at first, then calls the tool and then is done. -/
def demoModel (request : ModelRequest) : Nat → Except ProviderError ModelResponse
  | 0 => .error { kind := .unavailable, message := "unavailable", retryable := true }
  | 1 => .ok ⟨.openAi, request.model, [.toolCall ⟨"call-1", "echo", "{}"⟩], .toolUse, {}⟩
  | _ => .ok ⟨.openAi, request.model, [.message ⟨.assistant, "done"⟩], .endTurn, {}⟩

/-- An environment with the model, which counts the requests to it. -/
def bundleEnvironment : (op : BundleOp Unit) → InMemoryMemoryBackend × Nat →
    Option (op.Answer × InMemoryMemoryBackend × Nat)
  | .harness (.chat (.complete request)), (memory, asked) =>
      some (demoModel request asked, memory, asked + 1)
  | .harness (.chat (.sleep _)), state => some ((), state)
  | .harness op, (memory, asked) =>
      (demoEnvironment op memory).map fun answered => (answered.1, answered.2, asked)
  | .tool (.executionStart _ _), state => some ((), state)
  | .tool (.executionSuccess _ _ _), state => some ((), state)
  | .tool (.executionFailure _ _ _), state => some ((), state)
  | .tool (.invoke _ argsJson _), state => some (.ok argsJson, state)
  | .tool (.invokeWithin _ _ argsJson _), state => some (some (.ok argsJson), state)

/-- The balance of a session that is created and then worked on, with three attempts of two
operations and one execution of the tool. -/
theorem metrics_balance_demo : ∃ (timed : List (ℚ × Bool × Event (BundleSig Unit)))
    (final : Pool (BundleSig Unit) Bool (InMemoryMemoryBackend × Nat) BundleOutcome),
    recordedAttempts [] (metricsOf timed) = [2, 1] ∧
      executionsEnded [("tool_name", "echo")] (metricsOf timed) = 1 ∧
      MetricsBalance (metricsOf timed) (Pool.running final (timed.map Prod.snd)).card := by
  let calls (first : Bool) : BundleCall := .harness (demoCalls first)
  let timed (trace : Trace (BundleSig Unit) Bool) : List (ℚ × Bool × Event (BundleSig Unit)) :=
    trace.map (0, ·)
  have houtcome : ((demoBundle.program (calls true)).execute bundleEnvironment (.new, 0) >>=
      fun first => (demoBundle.program (calls false)).execute bundleEnvironment first.2.2 >>=
        fun second =>
          let metrics := metricsOf (timed (first.1.map (true, ·) ++ second.1.map (false, ·)))
          some (recordedAttempts [] metrics, executionsEnded [("tool_name", "echo")] metrics)) =
        some ([2, 1], 1) := by
    decide +kernel
  simp only [Option.bind_eq_bind, Option.bind_eq_some_iff] at houtcome
  obtain ⟨⟨events, value, s⟩, hfirst, ⟨events', value', s'⟩, hsecond, hmetrics⟩ := houtcome
  obtain ⟨hattempts, hexecutions⟩ := Prod.ext_iff.mp (Option.some.inj hmetrics)
  let act (_ : Bool) (state : InMemoryMemoryBackend × Nat) (e : Event (BundleSig Unit))
      (state' : InMemoryMemoryBackend × Nat) : Prop :=
    bundleEnvironment e.op state = some (e.ans, state')
  have hact : ∀ (i : Bool) {op : BundleOp Unit} {state answer state'},
      bundleEnvironment op state = some (answer, state') → act i state ⟨op, answer⟩ state' :=
    fun _ _ _ _ _ h => h
  have hrun := Pool.Run.alone (hact true) hfirst (fun i => demoBundle.program (calls i)) rfl
  have hrest := Pool.Run.alone (i := false) (hact false) hsecond
    (Function.update (fun i => demoBundle.program (calls i)) true (.pure value)) rfl
  have htimed : ∀ trace, (timed trace).map Prod.snd = trace := fun trace => by simp [timed]
  have hwhole := hrun.trans hrest
  rw [← htimed (_ ++ _)] at hwhole
  exact ⟨_, _, hattempts, hexecutions, metrics_balance demoBundle act (.new, 0) calls _ _ hwhole⟩

end Fiddlesticks.Observe

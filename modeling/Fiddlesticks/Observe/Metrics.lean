import Fiddlesticks.Facade.Bundle
import Mathlib.Data.Rat.Defs

/-!
# Metrics

`MetricsObservabilityHooks` of the `fobserve` crate: what each call of the hooks hands to the
recorder of the `metrics` crate, and what a recorder answers to queries over labels.
-/

namespace Fiddlesticks

/-! ## Names -/

/-- `Display for ProviderId`. -/
def Provider.ProviderId.display : Provider.ProviderId → String
  | .openCodeZen => "opencode-zen"
  | .openAi => "openai"
  | .anthropic => "anthropic"
  | .ollama => "ollama"

/-- `Debug for ProviderErrorKind`. -/
def Provider.ProviderErrorKind.debug : Provider.ProviderErrorKind → String
  | .authentication => "Authentication"
  | .rateLimited => "RateLimited"
  | .invalidRequest => "InvalidRequest"
  | .timeout => "Timeout"
  | .transport => "Transport"
  | .unavailable => "Unavailable"
  | .other => "Other"

/-- `Debug for ToolErrorKind`. -/
def Tooling.ToolErrorKind.debug : Tooling.ToolErrorKind → String
  | .notFound => "NotFound"
  | .invalidArguments => "InvalidArguments"
  | .execution => "Execution"
  | .timeout => "Timeout"
  | .unauthorized => "Unauthorized"
  | .other => "Other"

/-- `Debug for HarnessPhase`. -/
def Harness.HarnessPhase.debug : Harness.HarnessPhase → String
  | .initializer => "Initializer"
  | .taskIteration => "TaskIteration"

namespace Observe

open Provider Tooling Harness Facade

/-! ## Calls of the recorder -/

/-- Names with values. -/
abbrev Labels := List (String × String)

/-- What is handed to the recorder: an increment of a counter by one, or a value of a histogram. -/
inductive MetricCall where
  | increment (counter : String) (labels : Labels)
  | record (histogram : String) (labels : Labels) (value : ℚ)
  deriving DecidableEq

namespace MetricsObservabilityHooks

variable (provider : ProviderId) (operation : String)

/-- `ProviderOperationHooks::on_attempt_start`. -/
def onAttemptStart : List MetricCall :=
  [.increment "fiddlesticks_provider_attempt_start_total"
    [("provider", provider.display), ("operation", operation)]]

/-- `ProviderOperationHooks::on_retry_scheduled`. -/
def onRetryScheduled (delay : Provider.Duration) (error : ProviderError) : List MetricCall :=
  [.increment "fiddlesticks_provider_retry_scheduled_total"
    [("provider", provider.display), ("operation", operation), ("error_kind", error.kind.debug)],
  .record "fiddlesticks_provider_retry_delay_seconds"
    [("provider", provider.display), ("operation", operation)] delay.seconds]

/-- `ProviderOperationHooks::on_success`. -/
def onSuccess (attempts : Nat) : List MetricCall :=
  [.increment "fiddlesticks_provider_success_total"
    [("provider", provider.display), ("operation", operation)],
  .record "fiddlesticks_provider_attempts_per_success"
    [("provider", provider.display), ("operation", operation)] attempts]

/-- `ProviderOperationHooks::on_failure`. -/
def onFailure (attempts : Nat) (error : ProviderError) : List MetricCall :=
  [.increment "fiddlesticks_provider_failure_total"
    [("provider", provider.display), ("operation", operation), ("error_kind", error.kind.debug)],
  .record "fiddlesticks_provider_attempts_per_failure"
    [("provider", provider.display), ("operation", operation)] attempts]

/-- The calls of `ProviderOperationHooks`. -/
def onProvider : HookEvent → List MetricCall
  | .attemptStart provider operation _ => onAttemptStart provider operation
  | .retryScheduled provider operation _ delay error =>
      onRetryScheduled provider operation delay error
  | .success provider operation attempts => onSuccess provider operation attempts
  | .failure provider operation attempts error => onFailure provider operation attempts error

/-- `ToolRuntimeHooks::on_execution_start`. -/
def onExecutionStart (toolCall : ToolCall) : List MetricCall :=
  [.increment "fiddlesticks_tool_execution_start_total" [("tool_name", toolCall.name)]]

/-- `ToolRuntimeHooks::on_execution_success`. -/
def onExecutionSuccess (toolCall : ToolCall) (elapsed : ℚ) : List MetricCall :=
  [.increment "fiddlesticks_tool_execution_success_total" [("tool_name", toolCall.name)],
  .record "fiddlesticks_tool_execution_duration_seconds"
    [("tool_name", toolCall.name), ("status", "success")] elapsed]

/-- `ToolRuntimeHooks::on_execution_failure`. -/
def onExecutionFailure (toolCall : ToolCall) (error : ToolError) (elapsed : ℚ) :
    List MetricCall :=
  [.increment "fiddlesticks_tool_execution_failure_total"
    [("tool_name", toolCall.name), ("error_kind", error.kind.debug)],
  .record "fiddlesticks_tool_execution_duration_seconds"
    [("tool_name", toolCall.name), ("status", "failure")] elapsed]

/-- The calls of `ToolRuntimeHooks`. -/
def onTool {Tool : Type} (elapsed : ℚ) : RuntimeOp Tool → List MetricCall
  | .executionStart toolCall _ => onExecutionStart toolCall
  | .executionSuccess toolCall _ _ => onExecutionSuccess toolCall elapsed
  | .executionFailure toolCall _ error => onExecutionFailure toolCall error elapsed
  | _ => []

/-- `HarnessRuntimeHooks::on_phase_start`. -/
def onPhaseStart (phase : HarnessPhase) : List MetricCall :=
  [.increment "fiddlesticks_harness_phase_start_total" [("phase", phase.debug)]]

/-- `HarnessRuntimeHooks::on_phase_success`. -/
def onPhaseSuccess (phase : HarnessPhase) (elapsed : ℚ) : List MetricCall :=
  [.increment "fiddlesticks_harness_phase_success_total" [("phase", phase.debug)],
  .record "fiddlesticks_harness_phase_duration_seconds"
    [("phase", phase.debug), ("status", "success")] elapsed]

/-- `HarnessRuntimeHooks::on_phase_failure`. -/
def onPhaseFailure (phase : HarnessPhase) (error : HarnessError) (elapsed : ℚ) :
    List MetricCall :=
  [.increment "fiddlesticks_harness_phase_failure_total"
    [("phase", phase.debug), ("error_kind", error.kind.debug)],
  .record "fiddlesticks_harness_phase_duration_seconds"
    [("phase", phase.debug), ("status", "failure")] elapsed]

/-- The calls of `HarnessRuntimeHooks`. -/
def onPhase (elapsed : ℚ) : PhaseEvent → List MetricCall
  | .phaseStart phase _ _ => onPhaseStart phase
  | .phaseSuccess phase _ _ => onPhaseSuccess phase elapsed
  | .phaseFailure phase _ _ error => onPhaseFailure phase error elapsed

end MetricsObservabilityHooks

/-- What an operation of a process hands to the recorder, where all hooks are
`MetricsObservabilityHooks` and this time has elapsed. -/
def metricCalls {Tool : Type} (elapsed : ℚ) : BundleOp Tool → List MetricCall
  | .harness (.chat (.hook event)) => MetricsObservabilityHooks.onProvider event
  | .harness (.hook event) => MetricsObservabilityHooks.onPhase elapsed event
  | .tool op => MetricsObservabilityHooks.onTool elapsed op
  | _ => []

/-! ## Queries -/

/-- The increments of a counter with some labels, whatever other labels they have. -/
def counted (counter : String) (labels : Labels) (calls : List MetricCall) : Nat :=
  calls.countP fun call => match call with
    | .increment name given => name = counter ∧ labels ⊆ given
    | .record _ _ _ => False

/-- The values of a histogram with some labels. -/
def recorded (histogram : String) (labels : Labels) (calls : List MetricCall) : List ℚ :=
  calls.filterMap fun call => match call with
    | .record name given value => if name = histogram ∧ labels ⊆ given then some value else none
    | .increment _ _ => none

end Observe

end Fiddlesticks

import Fiddlesticks.Effect.History
import Fiddlesticks.Provider.Model
import Fiddlesticks.Tooling.Types

/-!
# The default tool runtime

`DefaultToolRuntime` of the `ftooling` crate looks a tool up by the name of the call, invokes it,
within the timeout if there is one, and reports to its hooks.
-/

namespace Fiddlesticks.Tooling

open Effect Prog Provider

/-! ## Errors and results -/

namespace ToolError

/-- `ToolError::not_found`. -/
def notFound (message : String) : ToolError :=
  { kind := .notFound, message, retryable := false }

/-- `ToolError::timeout`. -/
def timeout (message : String) : ToolError :=
  { kind := .timeout, message, retryable := true }

/-- `ToolError::with_tool_name`. -/
def withToolName (error : ToolError) (toolName : String) : ToolError :=
  { error with toolName := some toolName }

/-- `ToolError::with_tool_call_id`. -/
def withToolCallId (error : ToolError) (toolCallId : String) : ToolError :=
  { error with toolCallId := some toolCallId }

/-- The error with the name and the id of the call it belongs to. -/
def ofCall (error : ToolError) (toolCall : ToolCall) : ToolError :=
  (error.withToolName toolCall.name).withToolCallId toolCall.id

end ToolError

/-- `ToolExecutionResult::from_call`. -/
def ToolExecutionResult.fromCall (toolCall : ToolCall) (output : String) : ToolExecutionResult :=
  ⟨toolCall.id, output⟩

/-! ## Durations -/

/-- The digits of a fraction of `10 ^ places`, without the zeros at its end. -/
def fractionDigits : (places fraction : Nat) → String
  | 0, _ => ""
  | places + 1, fraction =>
      if fraction = 0 then ""
      else toString (fraction / 10 ^ places) ++ fractionDigits places (fraction % 10 ^ places)

/-- A number of units with a fraction of `10 ^ places` of them. -/
def debugDecimal (integer fraction places : Nat) (unit : String) : String :=
  if fraction = 0 then s!"{integer}{unit}"
  else s!"{integer}.{fractionDigits places fraction}{unit}"

/-- `Debug for Duration`, for a duration in nanoseconds. -/
def debugDuration (nanos : Nat) : String :=
  if 10 ^ 9 ≤ nanos then debugDecimal (nanos / 10 ^ 9) (nanos % 10 ^ 9) 9 "s"
  else if 10 ^ 6 ≤ nanos then debugDecimal (nanos / 10 ^ 6) (nanos % 10 ^ 6) 6 "ms"
  else if 10 ^ 3 ≤ nanos then debugDecimal (nanos / 10 ^ 3) (nanos % 10 ^ 3) 3 "µs"
  else debugDecimal nanos 0 0 "ns"

example : debugDuration 1250000000 = "1.25s" := by decide +kernel

/-! ## The runtime -/

/-- `ToolRegistry`: the tools by the names of their definitions. Nothing depends on the order of
the hash map. -/
structure ToolRegistry (Tool : Type) where
  tools : Std.ExtTreeMap String Tool := ∅

/-- `ToolRegistry::get`. -/
def ToolRegistry.get {Tool : Type} (registry : ToolRegistry Tool) (name : String) : Option Tool :=
  registry.tools[name]?

/-- `DefaultToolRuntime`: its registry and its timeout, in nanoseconds. The hooks are part of the
environment. -/
structure DefaultToolRuntime (Tool : Type) where
  registry : ToolRegistry Tool
  timeout : Option Nat := none

/-- What the runtime asks of its environment: the calls of `ToolRuntimeHooks` and `Tool::invoke`,
awaited as it is or against the delay of the timeout. -/
inductive RuntimeOp (Tool : Type) where
  | executionStart (toolCall : ToolCall) (context : ToolExecutionContext)
  | executionSuccess (toolCall : ToolCall) (context : ToolExecutionContext)
      (result : ToolExecutionResult)
  | executionFailure (toolCall : ToolCall) (context : ToolExecutionContext) (error : ToolError)
  | invoke (tool : Tool) (argsJson : String) (context : ToolExecutionContext)
  | invokeWithin (timeout : Nat) (tool : Tool) (argsJson : String) (context : ToolExecutionContext)

/-- The answers to each operation. There is none of the tool when the delay is over first. -/
abbrev RuntimeOp.Answer {Tool : Type} : RuntimeOp Tool → Type
  | .executionStart _ _ => Unit
  | .executionSuccess _ _ _ => Unit
  | .executionFailure _ _ _ => Unit
  | .invoke _ _ _ => Except ToolError String
  | .invokeWithin _ _ _ _ => Option (Except ToolError String)

/-- The signature of the runtime. -/
abbrev RuntimeSig (Tool : Type) : Sig := ⟨RuntimeOp Tool, RuntimeOp.Answer⟩

namespace DefaultToolRuntime

variable {Tool : Type} (runtime : DefaultToolRuntime Tool)

/-- The failure of an execution, with its report. -/
def fail (toolCall : ToolCall) (context : ToolExecutionContext) (error : ToolError) :
    Prog (RuntimeSig Tool) (Except ToolError ToolExecutionResult) := do
  request (S := RuntimeSig Tool) (.executionFailure toolCall context error)
  return .error error

/-- The end of an execution whose tool has answered. -/
def finish (toolCall : ToolCall) (context : ToolExecutionContext) :
    Except ToolError String → Prog (RuntimeSig Tool) (Except ToolError ToolExecutionResult)
  | .ok output => do
      let result := ToolExecutionResult.fromCall toolCall output
      request (S := RuntimeSig Tool) (.executionSuccess toolCall context result)
      return .ok result
  | .error error => fail toolCall context (error.ofCall toolCall)

/-- `<DefaultToolRuntime as ToolRuntime>::execute`. -/
def execute (toolCall : ToolCall) (context : ToolExecutionContext) :
    Prog (RuntimeSig Tool) (Except ToolError ToolExecutionResult) := do
  request (S := RuntimeSig Tool) (.executionStart toolCall context)
  match runtime.registry.get toolCall.name with
  | none =>
      fail toolCall context
        ((ToolError.notFound s!"tool '{toolCall.name}' is not registered").ofCall toolCall)
  | some tool =>
      match runtime.timeout with
      | some timeout => do
          match ← request (S := RuntimeSig Tool)
            (.invokeWithin timeout tool toolCall.arguments context) with
          | some output => finish toolCall context output
          | none =>
              fail toolCall context ((ToolError.timeout
                s!"tool '{toolCall.name}' timed out after {debugDuration timeout}").ofCall toolCall)
      | none => do
          finish toolCall context
            (← request (S := RuntimeSig Tool) (.invoke tool toolCall.arguments context))

end DefaultToolRuntime

end Fiddlesticks.Tooling

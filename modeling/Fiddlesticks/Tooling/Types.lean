import Fiddlesticks.Common

/-!
# Tool execution types

The errors, contexts and results of the `ftooling` crate.
-/

namespace Fiddlesticks.Tooling

/-- `ToolErrorKind`. -/
inductive ToolErrorKind where
  | notFound
  | invalidArguments
  | execution
  | timeout
  | unauthorized
  | other
  deriving DecidableEq, Repr

/-- `ToolError`. -/
structure ToolError where
  kind : ToolErrorKind
  message : String
  retryable : Bool
  toolName : Option String := none
  toolCallId : Option String := none
  deriving DecidableEq, Repr

/-- `ToolExecutionContext`. -/
structure ToolExecutionContext where
  sessionId : SessionId
  traceId : Option String
  metadata : MetadataMap
  deriving DecidableEq

/-- `ToolExecutionContext::new`. -/
def ToolExecutionContext.new (sessionId : SessionId) : ToolExecutionContext :=
  { sessionId, traceId := none, metadata := ∅ }

/-- `ToolExecutionResult`. -/
structure ToolExecutionResult where
  toolCallId : String
  output : String
  deriving DecidableEq, Repr

end Fiddlesticks.Tooling

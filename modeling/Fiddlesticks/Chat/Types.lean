import Fiddlesticks.Provider.Model
import Fiddlesticks.Tooling.Types

/-!
# Chat types

Sessions, turn requests, turn results, stream events and errors of the `fchat` crate.
-/

namespace Fiddlesticks.Chat

open Provider Tooling

/-! ## Errors -/

/-- `ChatErrorKind`. -/
inductive ChatErrorKind where
  | invalidRequest
  | provider
  | store
  | tooling
  deriving DecidableEq, Repr

/-- `Debug for ChatErrorKind`. -/
def ChatErrorKind.debug : ChatErrorKind → String
  | .invalidRequest => "InvalidRequest"
  | .provider => "Provider"
  | .store => "Store"
  | .tooling => "Tooling"

/-- `ChatErrorPhase`. -/
inductive ChatErrorPhase where
  | requestValidation
  | provider
  | tooling
  | storage
  | streaming
  deriving DecidableEq, Repr

/-- `Debug for ChatErrorPhase`. -/
def ChatErrorPhase.debug : ChatErrorPhase → String
  | .requestValidation => "RequestValidation"
  | .provider => "Provider"
  | .tooling => "Tooling"
  | .storage => "Storage"
  | .streaming => "Streaming"

/-- `ChatErrorSource`. -/
inductive ChatErrorSource where
  | provider (kind : ProviderErrorKind)
  | tooling (kind : ToolErrorKind)
  deriving DecidableEq, Repr

/-- `ChatError`. -/
structure ChatError where
  kind : ChatErrorKind
  message : String
  retryable : Bool := false
  phase : Option ChatErrorPhase := none
  source : Option ChatErrorSource := none
  deriving DecidableEq, Repr

namespace ChatError

/-- `ChatError::invalid_request`. -/
def invalidRequest (message : String) : ChatError := { kind := .invalidRequest, message }
/-- `ChatError::store`. -/
def store (message : String) : ChatError := { kind := .store, message }

/-- `ChatError::with_phase`. -/
def withPhase (error : ChatError) (phase : ChatErrorPhase) : ChatError :=
  { error with phase := some phase }

/-- `Display for ChatError`. -/
def display (error : ChatError) : String :=
  match error.phase with
  | some phase => s!"{error.kind.debug} ({phase.debug}): {error.message}"
  | none => s!"{error.kind.debug}: {error.message}"

/-- `From<ProviderError> for ChatError`. -/
def ofProvider (error : ProviderError) : ChatError :=
  { kind := .provider, message := error.message, retryable := error.retryable,
    phase := some .provider, source := some (.provider error.kind) }

/-- `From<ToolError> for ChatError`. -/
def ofTool (error : ToolError) : ChatError :=
  { kind := .tooling, message := error.message, retryable := error.retryable,
    phase := some .tooling, source := some (.tooling error.kind) }

end ChatError

/-! ## Turns -/

/-- `ChatSession`. -/
structure ChatSession where
  id : SessionId
  provider : ProviderId
  model : String
  systemPrompt : Option String
  deriving DecidableEq, Repr

/-- `ChatTurnRequest`. -/
structure ChatTurnRequest where
  session : ChatSession
  userInput : String
  options : GenerationOptions
  deriving DecidableEq, Repr

/-- `ChatTurnResult`. -/
structure ChatTurnResult where
  sessionId : SessionId
  assistantMessage : String
  toolCalls : List ToolCall
  stopReason : StopReason
  usage : TokenUsage
  toolRoundLimitReached : Bool
  deriving DecidableEq, Repr

/-- `ChatEvent`. -/
inductive ChatEvent where
  | textDelta (delta : String)
  | toolCallDelta (call : ToolCall)
  | toolExecutionStarted (call : ToolCall)
  | toolExecutionFinished (call : ToolCall)
  | assistantMessageComplete (content : String)
  | toolRoundLimitReached (maxRoundTrips pendingToolCalls : Nat)
  | turnComplete (result : ChatTurnResult)
  deriving DecidableEq, Repr

end Fiddlesticks.Chat

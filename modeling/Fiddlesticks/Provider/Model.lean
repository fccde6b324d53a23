import Fiddlesticks.Common

/-!
# Provider requests and responses

The provider-agnostic model types of `fprovider`: messages, tool calls and results, requests with
their builder and validation, responses, stream events and provider errors.
-/

namespace Fiddlesticks.Provider

/-! ## Errors -/

/-- `ProviderErrorKind`. -/
inductive ProviderErrorKind where
  | authentication
  | rateLimited
  | invalidRequest
  | timeout
  | transport
  | unavailable
  | other
  deriving DecidableEq, Repr

/-- `ProviderError`. -/
structure ProviderError where
  kind : ProviderErrorKind
  message : String
  retryable : Bool
  deriving DecidableEq, Repr

namespace ProviderError

/-- `ProviderError::authentication`. -/
def authentication (message : String) : ProviderError := ⟨.authentication, message, false⟩
/-- `ProviderError::rate_limited`. -/
def rateLimited (message : String) : ProviderError := ⟨.rateLimited, message, true⟩
/-- `ProviderError::invalid_request`. -/
def invalidRequest (message : String) : ProviderError := ⟨.invalidRequest, message, false⟩
/-- `ProviderError::timeout`. -/
def timeout (message : String) : ProviderError := ⟨.timeout, message, true⟩
/-- `ProviderError::transport`. -/
def transport (message : String) : ProviderError := ⟨.transport, message, true⟩
/-- `ProviderError::unavailable`. -/
def unavailable (message : String) : ProviderError := ⟨.unavailable, message, true⟩
/-- `ProviderError::other`. -/
def other (message : String) : ProviderError := ⟨.other, message, false⟩

end ProviderError

/-! ## Messages and tool calls -/

/-- `ProviderId`. -/
inductive ProviderId where
  | openCodeZen
  | openAi
  | anthropic
  | ollama
  deriving DecidableEq, Repr

/-- `Role`. -/
inductive Role where
  | system
  | user
  | assistant
  | tool
  deriving DecidableEq, Repr

/-- `Message`. -/
structure Message where
  role : Role
  content : String
  deriving DecidableEq, Repr

/-- `ToolDefinition`. -/
structure ToolDefinition where
  name : String
  description : String
  inputSchema : String
  deriving DecidableEq, Repr

/-- `ToolCall`. -/
structure ToolCall where
  id : String
  name : String
  arguments : String
  deriving DecidableEq, Repr

/-- `ToolResult`. -/
structure ToolResult where
  toolCallId : String
  output : String
  deriving DecidableEq, Repr

/-- `OutputItem`. -/
inductive OutputItem where
  | message (message : Message)
  | toolCall (call : ToolCall)
  deriving DecidableEq, Repr

/-- `StopReason`. -/
inductive StopReason where
  | endTurn
  | maxTokens
  | toolUse
  | cancelled
  | other
  deriving DecidableEq, Repr

/-- `TokenUsage`. -/
structure TokenUsage where
  inputTokens : UInt32 := 0
  outputTokens : UInt32 := 0
  totalTokens : UInt32 := 0
  deriving DecidableEq, Repr

/-- `ModelResponse`. -/
structure ModelResponse where
  provider : ProviderId
  model : String
  output : List OutputItem
  stopReason : StopReason
  usage : TokenUsage
  deriving DecidableEq, Repr

/-- `StreamEvent`. -/
inductive StreamEvent where
  | textDelta (delta : String)
  | toolCallDelta (call : ToolCall)
  | messageComplete (message : Message)
  | responseComplete (response : ModelResponse)
  deriving DecidableEq, Repr

/-! ## Requests -/

/-- `ModelRequest`. -/
structure ModelRequest where
  model : String
  messages : List Message
  options : GenerationOptions
  tools : List ToolDefinition
  toolResults : List ToolResult
  metadata : MetadataMap
  deriving DecidableEq

/-- `ModelRequest::validate`. -/
def ModelRequest.validate (request : ModelRequest) : Except ProviderError Unit :=
  if trim request.model = "" then
    .error (.invalidRequest "model must not be empty")
  else if request.messages = [] then
    .error (.invalidRequest "at least one message is required")
  else if request.options.maxTokens = some 0 then
    .error (.invalidRequest "max_tokens must be greater than zero")
  else if request.options.temperature.any (fun temperature => !temperature.inZeroTwo) then
    .error ⟨.invalidRequest, "temperature must be in the inclusive range 0.0..=2.0", false⟩
  else .ok ()

/-- `ModelRequestBuilder`. -/
structure ModelRequestBuilder where
  model : String
  messages : List Message
  options : GenerationOptions
  tools : List ToolDefinition
  toolResults : List ToolResult
  metadata : MetadataMap

namespace ModelRequestBuilder

/-- `ModelRequestBuilder::new`. -/
def new (model : String) : ModelRequestBuilder :=
  { model, messages := [], options := {}, tools := [], toolResults := [], metadata := ∅ }

/-- `ModelRequestBuilder::messages` extends the messages already there. -/
def addMessages (builder : ModelRequestBuilder) (messages : List Message) : ModelRequestBuilder :=
  { builder with messages := builder.messages ++ messages }

/-- `ModelRequestBuilder::temperature`. -/
def temperature (builder : ModelRequestBuilder) (value : F32) : ModelRequestBuilder :=
  { builder with options.temperature := some value }

/-- `ModelRequestBuilder::max_tokens`. -/
def maxTokens (builder : ModelRequestBuilder) (value : UInt32) : ModelRequestBuilder :=
  { builder with options.maxTokens := some value }

/-- `ModelRequestBuilder::tool_results`. -/
def withToolResults (builder : ModelRequestBuilder) (toolResults : List ToolResult) :
    ModelRequestBuilder :=
  { builder with toolResults }

/-- `ModelRequestBuilder::enable_streaming`. -/
def enableStreaming (builder : ModelRequestBuilder) : ModelRequestBuilder :=
  { builder with options.stream := true }

/-- `ModelRequestBuilder::build`. -/
def build (builder : ModelRequestBuilder) : Except ProviderError ModelRequest := do
  let request : ModelRequest :=
    { model := builder.model, messages := builder.messages, options := builder.options,
      tools := builder.tools, toolResults := builder.toolResults, metadata := builder.metadata }
  request.validate
  pure request

end ModelRequestBuilder

end Fiddlesticks.Provider

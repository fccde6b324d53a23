import Fiddlesticks.Provider.Model

/-!
# OpenAI adapter types

The requests, responses and stream chunks of the OpenAI-compatible adapters, and their conversion
from and to the provider-agnostic types.
-/

namespace Fiddlesticks.Provider

/-! ## JSON -/

/-- `serde_json::Number`: an integer, or a float given by an `f32`. -/
inductive JsonNumber where
  | unsigned (value : UInt64)
  | negative (value : Int64)
  | float (value : F32)

/-- `serde_json::Value`. -/
inductive JsonValue where
  | null
  | bool (value : Bool)
  | number (value : JsonNumber)
  | string (value : String)
  | array (values : List JsonValue)
  | object (entries : List (String × JsonValue))

namespace JsonValue

/-- `Value::get` with a key. -/
def get (key : String) : JsonValue → Option JsonValue
  | object entries => entries.lookup key
  | _ => none

/-- `Value::as_str`. -/
def asStr : JsonValue → Option String
  | string value => some value
  | _ => none

/-- `Value::as_array`. -/
def asArray : JsonValue → Option (List JsonValue)
  | array values => some values
  | _ => none

/-- `Value::as_u64`. -/
def asU64 : JsonValue → Option UInt64
  | number (.unsigned value) => some value
  | _ => none

/-- `value.get(key).and_then(Value::as_str)`. -/
def getStr (key : String) (value : JsonValue) : Option String :=
  (value.get key).bind asStr

/-- `value.get(key).and_then(Value::as_array)`. -/
def getArray (key : String) (value : JsonValue) : Option (List JsonValue) :=
  (value.get key).bind asArray

/-- `value.get(key).and_then(Value::as_u64)`. -/
def getU64 (key : String) (value : JsonValue) : Option UInt64 :=
  (value.get key).bind asU64

end JsonValue

namespace OpenAi

/-! ## Requests -/

/-- `OpenAiRole`. -/
inductive OpenAiRole where
  | system
  | user
  | assistant
  | tool
  deriving DecidableEq, Repr

/-- `OpenAiRole::as_str`. -/
def OpenAiRole.asStr : OpenAiRole → String
  | system => "system"
  | user => "user"
  | assistant => "assistant"
  | tool => "tool"

/-- `From<Role> for OpenAiRole`. -/
def OpenAiRole.ofRole : Role → OpenAiRole
  | .system => system
  | .user => user
  | .assistant => assistant
  | .tool => tool

/-- `OpenAiMessage`. -/
structure OpenAiMessage where
  role : OpenAiRole
  content : String
  toolCallId : Option String
  deriving DecidableEq, Repr

/-- `OpenAiMessage::tool_result`. -/
def OpenAiMessage.toolResult (toolResult : ToolResult) : OpenAiMessage :=
  { role := .tool, content := toolResult.output, toolCallId := some toolResult.toolCallId }

/-- `From<Message> for OpenAiMessage`. -/
def OpenAiMessage.ofMessage (message : Message) : OpenAiMessage :=
  { role := .ofRole message.role, content := message.content, toolCallId := none }

/-- `OpenAiTool`. -/
structure OpenAiTool where
  name : String
  description : String
  inputSchema : String
  deriving DecidableEq, Repr

/-- `From<ToolDefinition> for OpenAiTool`. -/
def OpenAiTool.ofDefinition (definition : ToolDefinition) : OpenAiTool :=
  { name := definition.name, description := definition.description,
    inputSchema := definition.inputSchema }

/-- `OpenAiRequest`. -/
structure OpenAiRequest where
  model : String
  messages : List OpenAiMessage
  tools : List OpenAiTool
  temperature : Option F32
  maxTokens : Option UInt32
  stream : Bool
  deriving DecidableEq, Repr

/-- `build_openai_request`, and `build_request` of the other adapters, with their own fallback
models. -/
def buildOpenAiRequest (fallbackModel : String) (request : ModelRequest) (stream : Bool) :
    OpenAiRequest :=
  { model := if trim request.model = "" then fallbackModel else request.model
    messages := request.messages.map .ofMessage ++ request.toolResults.map .toolResult
    tools := request.tools.map .ofDefinition
    temperature := request.options.temperature
    maxTokens := request.options.maxTokens
    stream }

/-! ## Responses -/

/-- `OpenAiToolCall`. -/
structure OpenAiToolCall where
  id : String
  name : String
  arguments : String
  deriving DecidableEq, Repr

/-- `From<OpenAiToolCall> for ToolCall`. -/
def OpenAiToolCall.toToolCall (call : OpenAiToolCall) : ToolCall :=
  { id := call.id, name := call.name, arguments := call.arguments }

/-- `OpenAiAssistantMessage`. -/
structure OpenAiAssistantMessage where
  content : String
  toolCalls : List OpenAiToolCall
  deriving DecidableEq, Repr

/-- `OpenAiFinishReason`. -/
inductive OpenAiFinishReason where
  | stop
  | length
  | toolCalls
  | cancelled
  | other
  deriving DecidableEq, Repr

/-- `From<OpenAiFinishReason> for StopReason`. -/
def OpenAiFinishReason.toStopReason : OpenAiFinishReason → StopReason
  | stop => .endTurn
  | length => .maxTokens
  | toolCalls => .toolUse
  | cancelled => .cancelled
  | other => .other

/-- `OpenAiUsage`. -/
structure OpenAiUsage where
  promptTokens : UInt32
  completionTokens : UInt32
  totalTokens : UInt32
  deriving DecidableEq, Repr

/-- `From<OpenAiUsage> for TokenUsage`. -/
def OpenAiUsage.toTokenUsage (usage : OpenAiUsage) : TokenUsage :=
  { inputTokens := usage.promptTokens, outputTokens := usage.completionTokens,
    totalTokens := usage.totalTokens }

/-- `OpenAiResponse`. -/
structure OpenAiResponse where
  model : String
  message : OpenAiAssistantMessage
  finishReason : OpenAiFinishReason
  usage : OpenAiUsage
  deriving DecidableEq, Repr

/-- `OpenAiResponse::into_model_response`, with the provider that the adapter puts in. -/
def OpenAiResponse.intoModelResponse (provider : ProviderId) (response : OpenAiResponse) :
    ModelResponse :=
  { provider
    model := response.model
    output :=
      (if response.message.content = "" then [] else
        [.message ⟨.assistant, response.message.content⟩]) ++
      response.message.toolCalls.map (fun call => .toolCall call.toToolCall)
    stopReason := response.finishReason.toStopReason
    usage := response.usage.toTokenUsage }

/-- `OpenAiStreamChunk`. -/
inductive OpenAiStreamChunk where
  | textDelta (delta : String)
  | toolCallDelta (call : OpenAiToolCall)
  | messageComplete (message : OpenAiAssistantMessage)
  | responseComplete (response : OpenAiResponse)
  deriving DecidableEq, Repr

/-- `From<OpenAiStreamChunk> for StreamEvent`, and `map_stream_chunk` of the other adapters, which
put in their own providers. -/
def mapStreamChunk (provider : ProviderId) : OpenAiStreamChunk → StreamEvent
  | .textDelta delta => .textDelta delta
  | .toolCallDelta call => .toolCallDelta call.toToolCall
  | .messageComplete message => .messageComplete ⟨.assistant, message.content⟩
  | .responseComplete response => .responseComplete (response.intoModelResponse provider)

/-- `OpenAiAuth`. -/
inductive OpenAiAuth where
  | apiKey (key : String)
  | browserSession (session : String)
  deriving DecidableEq, Repr

end OpenAi

end Fiddlesticks.Provider

import Fiddlesticks.Provider.OpenAi.Types

/-!
# The events of the websocket transport

`ResponsesEventAccumulator`: the chunks that the events of a response give, and the response that
its terminal event closes.
-/

namespace Fiddlesticks.Provider.OpenAi

/-! ## Parsing -/

/-- `parse_message_text`. -/
def parseMessageText (item : JsonValue) : String :=
  String.join (((item.getArray "content").getD []).filterMap fun part =>
    if part.getStr "type" = some "output_text" then part.getStr "text" else none)

/-- `parse_response_finish_reason`. -/
def parseResponseFinishReason (response : JsonValue) : OpenAiFinishReason :=
  match (response.getStr "stop_reason").map String.toLower with
  | some "stop" => .stop
  | some "length" | some "max_output_tokens" => .length
  | some "tool_calls" | some "function_call" => .toolCalls
  | some "cancelled" => .cancelled
  | some _ => .other
  | none =>
      match (response.getStr "status").getD "" with
      | "completed" => .stop
      | "incomplete" => .length
      | "cancelled" => .cancelled
      | _ => .other

/-- `parse_response_usage`. -/
def parseResponseUsage (response : JsonValue) : OpenAiUsage :=
  let usage := (response.get "usage").getD .null
  { promptTokens := ((usage.getU64 "input_tokens").getD 0).toUInt32
    completionTokens := ((usage.getU64 "output_tokens").getD 0).toUInt32
    totalTokens := ((usage.getU64 "total_tokens").getD 0).toUInt32 }

/-- `map_ws_error`. -/
def mapWsError (event : JsonValue) : ProviderError :=
  let status := ((event.getU64 "status").getD 0).toUInt16
  let error := (event.get "error").getD .null
  let code := (error.getStr "code").getD ""
  let message := (error.getStr "message").getD "OpenAI websocket request failed"
  if code = "previous_response_not_found" ∨ code = "websocket_connection_limit_reached" then
    .invalidRequest message
  else if status = 401 ∨ status = 403 then .authentication message
  else if status = 408 ∨ status = 504 then .timeout message
  else if status = 429 then .rateLimited message
  else if status = 400 ∨ status = 422 then .invalidRequest message
  else if status = 502 ∨ status = 503 then .unavailable message
  else .transport message

/-- `BTreeMap<String, OpenAiToolCall>`. -/
abbrev CallsById := Std.ExtTreeMap String OpenAiToolCall

/-- The loop of `parse_completed_response` over the output items. -/
def parseOutput : List JsonValue → String × CallsById → String × CallsById
  | [], parsed => parsed
  | item :: items, (messageContent, toolCalls) =>
      match item.getStr "type" with
      | some "message" =>
          let text := parseMessageText item
          parseOutput items
            (if item.getStr "role" = some "assistant" ∧ text ≠ "" then text else messageContent,
              toolCalls)
      | some "function_call" =>
          let callId := ((item.getStr "call_id").or (item.getStr "id")).getD "tool_call_0"
          parseOutput items (messageContent, toolCalls.insert callId
            { id := callId, name := (item.getStr "name").getD "",
              arguments := (item.getStr "arguments").getD "" })
      | _ => parseOutput items (messageContent, toolCalls)

/-- `parse_completed_response`. -/
def parseCompletedResponse (response : JsonValue) (fallbackModel accumulatedText : String)
    (accumulatedToolCalls : CallsById) : Except ProviderError OpenAiResponse :=
  let (messageContent, toolCalls) :=
    parseOutput ((response.getArray "output").getD []) (accumulatedText, accumulatedToolCalls)
  return { model := (response.getStr "model").getD fallbackModel
           message := { content := messageContent, toolCalls := toolCalls.toList.map Prod.snd }
           finishReason := parseResponseFinishReason response
           usage := parseResponseUsage response }

/-! ## The accumulator -/

/-- `ResponsesEventAccumulator`. -/
structure ResponsesEventAccumulator where
  fallbackModel : String
  text : String := ""
  toolCalls : CallsById := ∅

namespace ResponsesEventAccumulator

/-- `ResponsesEventAccumulator::new`. -/
def new (fallbackModel : String) : ResponsesEventAccumulator :=
  { fallbackModel }

/-- `tool_calls.entry(call_id).or_insert_with(..)`. -/
def entry (accumulator : ResponsesEventAccumulator) (callId : String) : OpenAiToolCall :=
  accumulator.toolCalls[callId]?.getD { id := callId, name := "", arguments := "" }

/-- Keep an entry and show it. -/
def showEntry (accumulator : ResponsesEventAccumulator) (callId : String)
    (entry : OpenAiToolCall) : List OpenAiStreamChunk × ResponsesEventAccumulator :=
  ([.toolCallDelta entry],
    { accumulator with toolCalls := accumulator.toolCalls.insert callId entry })

/-- The arm of `handle_event` for a text delta. -/
def handleTextDelta (accumulator : ResponsesEventAccumulator) (event : JsonValue) :
    List OpenAiStreamChunk × ResponsesEventAccumulator :=
  let delta := (event.getStr "delta").getD ""
  if delta = "" then ([], accumulator)
  else ([.textDelta delta], { accumulator with text := accumulator.text ++ delta })

/-- The arm of `handle_event` for a delta of a function call's arguments. -/
def handleArgumentsDelta (accumulator : ResponsesEventAccumulator) (event : JsonValue) :
    List OpenAiStreamChunk × ResponsesEventAccumulator :=
  let callId := ((event.getStr "call_id").or
    ((event.get "item").bind (·.getStr "call_id"))).getD "tool_call_0"
  let delta := (event.getStr "delta").getD ""
  let name := ((event.getStr "name").or ((event.get "item").bind (·.getStr "name"))).getD ""
  let entry := accumulator.entry callId
  accumulator.showEntry callId
    { entry with
      name := if name = "" then entry.name else name
      arguments := entry.arguments ++ delta }

/-- The arm of `handle_event` for an output item that is added or done. -/
def handleOutputItem (accumulator : ResponsesEventAccumulator) (event : JsonValue) :
    List OpenAiStreamChunk × ResponsesEventAccumulator :=
  match event.get "item" with
  | none => ([], accumulator)
  | some item =>
      if item.getStr "type" = some "function_call" then
        let callId := ((item.getStr "call_id").or (item.getStr "id")).getD "tool_call_0"
        let entry := accumulator.entry callId
        accumulator.showEntry callId
          { entry with
            name := (item.getStr "name").getD entry.name
            arguments := (item.getStr "arguments").getD entry.arguments }
      else if item.getStr "type" = some "message" ∧ accumulator.text = "" then
        ([], { accumulator with text := parseMessageText item })
      else ([], accumulator)

/-- The arm of `handle_event` for a terminal event. -/
def handleTerminal (accumulator : ResponsesEventAccumulator) (event : JsonValue) :
    Except ProviderError (List OpenAiStreamChunk × ResponsesEventAccumulator) := do
  let response ← parseCompletedResponse ((event.get "response").getD .null)
    accumulator.fallbackModel accumulator.text accumulator.toolCalls
  return ([.messageComplete response.message, .responseComplete response], accumulator)

/-- `ResponsesEventAccumulator::handle_event`. -/
def handleEvent (accumulator : ResponsesEventAccumulator) (event : JsonValue) :
    Except ProviderError (List OpenAiStreamChunk × ResponsesEventAccumulator) :=
  match (event.getStr "type").getD "" with
  | "error" => throw (mapWsError event)
  | "response.output_text.delta" => return accumulator.handleTextDelta event
  | "response.function_call_arguments.delta" => return accumulator.handleArgumentsDelta event
  | "response.output_item.added" | "response.output_item.done" =>
      return accumulator.handleOutputItem event
  | "response.completed" | "response.failed" | "response.incomplete" | "response.cancelled" =>
      accumulator.handleTerminal event
  | _ => return ([], accumulator)

end ResponsesEventAccumulator

end Fiddlesticks.Provider.OpenAi

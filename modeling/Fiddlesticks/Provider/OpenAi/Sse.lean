import Fiddlesticks.Provider.OpenAi.Types
import Fiddlesticks.Text.Utf8

/-!
# The stream of the HTTP transport

The loop of `OpenAiHttpTransport::stream` over the chunks of a response body: it decodes them,
splits them into lines, parses the `data:` lines as server-sent events and assembles text and tool
calls. The typed parser of `serde_json` is a parameter.
-/

namespace Fiddlesticks.Provider.OpenAi

/-! ## Events -/

/-- `OpenAiApiDeltaToolFunction`. -/
structure OpenAiApiDeltaToolFunction where
  name : Option String
  arguments : Option String
  deriving DecidableEq

/-- `OpenAiApiDeltaToolCall`. -/
structure OpenAiApiDeltaToolCall where
  index : Option UInt32
  id : Option String
  function : Option OpenAiApiDeltaToolFunction
  deriving DecidableEq

/-- `OpenAiApiStreamDelta`. -/
structure OpenAiApiStreamDelta where
  content : Option String
  toolCalls : Option (List OpenAiApiDeltaToolCall)

/-- `OpenAiApiStreamChoice`. -/
structure OpenAiApiStreamChoice where
  delta : OpenAiApiStreamDelta
  finishReason : Option String

/-- `OpenAiApiStreamResponse`. -/
structure OpenAiApiStreamResponse where
  model : Option String
  choices : List OpenAiApiStreamChoice

/-- `parse_finish_reason`. -/
def parseFinishReason : Option String → OpenAiFinishReason
  | some "stop" => .stop
  | some "length" => .length
  | some "tool_calls" => .toolCalls
  | some "cancelled" => .cancelled
  | _ => .other

/-- `BTreeMap<u32, OpenAiToolCall>`. -/
abbrev ToolCallMap := Std.ExtTreeMap UInt32 OpenAiToolCall

/-- The entry of a tool call after one fragment of it. -/
def OpenAiApiDeltaToolCall.entry (call : OpenAiApiDeltaToolCall) (toolCalls : ToolCallMap) :
    OpenAiToolCall :=
  let index := call.index.getD 0
  let entry := toolCalls[index]?.getD
    { id := call.id.getD s!"tool_call_{index}", name := "", arguments := "" }
  let entry := { entry with id := call.id.getD entry.id }
  match call.function with
  | some function =>
      { entry with
        name := function.name.getD entry.name
        arguments := entry.arguments ++ function.arguments.getD "" }
  | none => entry

/-- The loop over the fragments of an event: the snapshots it yields and the new map. -/
def assembleCalls : List OpenAiApiDeltaToolCall → ToolCallMap → List OpenAiToolCall × ToolCallMap
  | [], toolCalls => ([], toolCalls)
  | call :: calls, toolCalls =>
      let entry := call.entry toolCalls
      let (snapshots, final) := assembleCalls calls (toolCalls.insert (call.index.getD 0) entry)
      (entry :: snapshots, final)

/-- What the loop has accumulated. -/
structure SseState where
  content : String := ""
  toolCalls : ToolCallMap := ∅
  model : Option String := none
  finishReason : OpenAiFinishReason := .other

/-- The chunks that an event yields and the state after it. -/
def SseState.accept (state : SseState) (parsed : OpenAiApiStreamResponse) :
    List OpenAiStreamChunk × SseState :=
  let model := state.model.or parsed.model
  match parsed.choices with
  | [] => ([], { state with model })
  | choice :: _ =>
      let delta := choice.delta.content.getD ""
      let (snapshots, toolCalls) :=
        assembleCalls (choice.delta.toolCalls.getD []) state.toolCalls
      ((if delta = "" then [] else [.textDelta delta]) ++ snapshots.map .toolCallDelta,
        { content := state.content ++ delta, toolCalls, model
          finishReason :=
            if choice.finishReason.isSome then parseFinishReason choice.finishReason
            else state.finishReason })

/-! ## Lines -/

/-- The lines of the buffer that end in a newline, and what is left in the buffer. -/
def completeLines : List Char → List (List Char) × List Char
  | [] => ([], [])
  | c :: text =>
      let (lines, buffer) := completeLines text
      if c = '\n' then ([c] :: lines, buffer)
      else
        match lines with
        | [] => ([], c :: buffer)
        | line :: lines => ((c :: line) :: lines, buffer)

/-- `trim_start_matches("data:")`. -/
def trimStartData : List Char → List Char
  | 'd' :: 'a' :: 't' :: 'a' :: ':' :: rest => trimStartData rest
  | line => line

/-- The payload of a `data:` line. -/
def linePayload (line : List Char) : Option String :=
  if "data:".toList.isPrefixOf (trimChars line) then
    some (String.ofList (trimChars (trimStartData (trimChars line))))
  else none

/-- What the loop does after a line. -/
inductive SseProgress where
  | reading (state : SseState)
  | finished (state : SseState)
  | failed (error : ProviderError)

section

-- `serde_json::from_str::<OpenAiApiStreamResponse>`
variable (parse : String → Except String OpenAiApiStreamResponse)

/-- The body of the loop over the lines. -/
def handleLine (state : SseState) (line : List Char) : List OpenAiStreamChunk × SseProgress :=
  match linePayload line with
  | none => ([], .reading state)
  | some payload =>
      if payload = "[DONE]" then ([], .finished state)
      else
        match parse payload with
        | .error error => ([], .failed (.transport error))
        | .ok parsed =>
            let (items, state) := state.accept parsed
            (items, .reading state)

/-- The loop over the complete lines of the buffer. -/
def handleLines : SseState → List (List Char) → List OpenAiStreamChunk × SseProgress
  | state, [] => ([], .reading state)
  | state, line :: lines =>
      match handleLine parse state line with
      | (items, .reading state) =>
          let (more, progress) := handleLines state lines
          (items ++ more, progress)
      | stopped => stopped

/-- The loop over the chunks of the body. -/
def readChunks : List Char → SseState → List (Except String (List UInt8)) →
    List OpenAiStreamChunk × Except ProviderError SseState
  | _, state, [] => ([], .ok state)
  | _, _, .error error :: _ => ([], .error (.transport error))
  | buffer, state, .ok bytes :: chunks =>
      match Utf8.decode bytes with
      | .error error => ([], .error (.transport error.toString))
      | .ok text =>
          let (lines, buffer) := completeLines (buffer ++ text)
          match handleLines parse state lines with
          | (items, .reading state) =>
              let (more, result) := readChunks buffer state chunks
              (items ++ more, result)
          | (items, .finished state) => (items, .ok state)
          | (items, .failed error) => (items, .error error)

/-- `tool_calls.into_values().collect()`. -/
def SseState.calls (state : SseState) : List OpenAiToolCall :=
  state.toolCalls.toList.map Prod.snd

/-- The response at the end of the stream. -/
def SseState.response (state : SseState) (fallbackModel : String) : OpenAiResponse :=
  { model := state.model.getD fallbackModel
    message := { content := state.content, toolCalls := state.calls }
    finishReason := state.finishReason
    usage := { promptTokens := 0, completionTokens := 0, totalTokens := 0 } }

/-- The stream that `OpenAiHttpTransport::stream` builds over a response body: the items it yields
and how it ends. -/
def sseStream (fallbackModel : String) (chunks : List (Except String (List UInt8))) :
    List OpenAiStreamChunk × Except ProviderError Unit :=
  match readChunks parse [] {} chunks with
  | (items, .error error) => (items, .error error)
  | (items, .ok state) =>
      let response := state.response fallbackModel
      (items ++ [.messageComplete response.message, .responseComplete response], .ok ())

end

end Fiddlesticks.Provider.OpenAi

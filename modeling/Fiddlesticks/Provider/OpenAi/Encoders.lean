import Fiddlesticks.Provider.OpenAi.Types

/-!
# The two OpenAI encoders

The chat-completions request of the HTTP transport and the `response.create` frame of the websocket
transport, and the requests that only one of them accepts.
-/

namespace Fiddlesticks.Provider.OpenAi

/-! ## The HTTP encoder -/

/-- `OpenAiTokenParameter`. -/
inductive OpenAiTokenParameter where
  | maxTokens
  | maxCompletionTokens
  deriving DecidableEq, Repr

/-- `OpenAiApiMessage`. -/
structure OpenAiApiMessage where
  role : String
  content : String
  toolCallId : Option String

/-- `OpenAiApiFunction`. -/
structure OpenAiApiFunction where
  name : String
  description : String
  parameters : JsonValue

/-- `OpenAiApiTool`. -/
structure OpenAiApiTool where
  type : String
  function : OpenAiApiFunction

/-- `OpenAiApiRequest`. -/
structure OpenAiApiRequest where
  model : String
  messages : List OpenAiApiMessage
  tools : Option (List OpenAiApiTool)
  temperature : Option F32
  maxTokens : Option UInt32
  maxCompletionTokens : Option UInt32
  stream : Bool

section

-- `serde_json::from_str::<Value>`
variable (fromStr : String → Option JsonValue)

/-- `TryFrom<OpenAiMessage> for OpenAiApiMessage`. -/
def OpenAiApiMessage.tryFrom (message : OpenAiMessage) : Except ProviderError OpenAiApiMessage :=
  if trim message.content = "" ∧ message.role ≠ .assistant then
    throw (.invalidRequest "OpenAI message content must not be empty")
  else
    return { role := message.role.asStr, content := message.content,
             toolCallId := message.toolCallId }

/-- `serde_json::from_str` on a tool schema. -/
def parseSchema (tool : OpenAiTool) : Except ProviderError JsonValue :=
  match fromStr tool.inputSchema with
  | some parameters => return parameters
  | none => throw (.invalidRequest "OpenAI tool schema must be valid JSON")

/-- `TryFrom<OpenAiTool> for OpenAiApiTool`. -/
def OpenAiApiTool.tryFrom (tool : OpenAiTool) : Except ProviderError OpenAiApiTool := do
  let parameters ← parseSchema fromStr tool
  return { type := "function"
           function := { name := tool.name, description := tool.description, parameters } }

/-- `build_api_request_with_token_parameter`. -/
def buildApiRequestWithTokenParameter (request : OpenAiRequest)
    (tokenParameter : OpenAiTokenParameter) : Except ProviderError OpenAiApiRequest := do
  let messages ← request.messages.mapM OpenAiApiMessage.tryFrom
  if messages.isEmpty then
    throw (.invalidRequest "OpenAI request requires at least one message")
  let tools ←
    if request.tools.isEmpty then pure none
    else some <$> request.tools.mapM (OpenAiApiTool.tryFrom fromStr)
  return { model := request.model, messages, tools, temperature := request.temperature
           maxTokens := if tokenParameter = .maxTokens then request.maxTokens else none
           maxCompletionTokens :=
             if tokenParameter = .maxCompletionTokens then request.maxTokens else none
           stream := request.stream }

/-! ## The websocket encoder -/

/-- The `input` item of a message. -/
def inputItem (message : OpenAiMessage) : Except ProviderError JsonValue :=
  if message.role = .tool then
    match message.toolCallId with
    | none => throw (.invalidRequest "OpenAI tool message is missing tool_call_id")
    | some callId =>
        return .object [("type", .string "function_call_output"), ("call_id", .string callId),
          ("output", .string message.content)]
  else if trim message.content = "" ∧ message.role ≠ .assistant then
    throw (.invalidRequest "OpenAI message content must not be empty")
  else
    return .object [("type", .string "message"), ("role", .string message.role.asStr),
      ("content", .array [.object [("type", .string "input_text"),
        ("text", .string message.content)]])]

/-- The `tools` item of a tool. -/
def toolItem (tool : OpenAiTool) : Except ProviderError JsonValue := do
  let parameters ← parseSchema fromStr tool
  return .object [("type", .string "function"), ("name", .string tool.name),
    ("description", .string tool.description), ("parameters", parameters)]

/-- `json!` of a temperature. -/
def temperatureValue : Option F32 → JsonValue
  | some temperature =>
      if temperature.isFinite then .number (.float temperature) else .null
  | none => .null

/-- `json!` of a token limit. -/
def maxTokensValue : Option UInt32 → JsonValue
  | some maxTokens => .number (.unsigned maxTokens.toUInt64)
  | none => .null

/-- `build_response_create_payload`. -/
def buildResponseCreatePayload (request : OpenAiRequest) : Except ProviderError JsonValue := do
  let input ← request.messages.mapM inputItem
  if input.isEmpty then
    throw (.invalidRequest "OpenAI request requires at least one message")
  let tools ← request.tools.mapM (toolItem fromStr)
  return .object [("type", .string "response.create"), ("model", .string request.model),
    ("store", .bool false), ("input", .array input), ("tools", .array tools),
    ("temperature", temperatureValue request.temperature),
    ("max_output_tokens", maxTokensValue request.maxTokens)]

/-! ## What the encoders accept -/

/-- A list is converted when all of its items are. -/
theorem isOk_mapM {α β ε : Type} (f : α → Except ε β) (items : List α) :
    (items.mapM f).isOk = items.all (fun item => (f item).isOk) := by
  induction items with
  | nil => rfl
  | cons item items ih =>
      rw [List.mapM_cons, List.all_cons, ← ih]
      cases f item with
      | error error => rfl
      | ok value => cases items.mapM f <;> rfl

/-- An encoded list is empty when the list was. -/
theorem isEmpty_of_mapM {α β ε : Type} {f : α → Except ε β} {items : List α} {values : List β}
    (h : items.mapM f = .ok values) : values.isEmpty = items.isEmpty := by
  cases items with
  | nil =>
      cases h
      rfl
  | cons item items =>
      rw [List.mapM_cons] at h
      cases hitem : f item with
      | error error => simp [hitem, bind, Except.bind] at h
      | ok value =>
          cases hitems : items.mapM f with
          | error error => simp [hitem, hitems, bind, Except.bind] at h
          | ok rest =>
              simp only [hitem, hitems, bind, Except.bind, pure, Except.pure,
                Except.ok.injEq] at h
              subst h
              rfl

/-- The content of a message is blank and its role requires content. -/
def OpenAiMessage.Blank (message : OpenAiMessage) : Prop :=
  trim message.content = "" ∧ message.role ≠ .assistant

instance (message : OpenAiMessage) : Decidable message.Blank :=
  inferInstanceAs (Decidable (_ ∧ _))

/-- The HTTP encoder refuses blank messages. -/
theorem isOk_tryFrom (message : OpenAiMessage) :
    (OpenAiApiMessage.tryFrom message).isOk = !decide message.Blank := by
  unfold OpenAiApiMessage.tryFrom
  split
  · next h => rw [decide_eq_true (show message.Blank from h)]; rfl
  · next h => rw [decide_eq_false (show ¬ message.Blank from h)]; rfl

/-- The websocket encoder refuses blank messages and tool messages without a call. -/
theorem isOk_inputItem (message : OpenAiMessage) :
    (inputItem message).isOk =
      if message.role = .tool then message.toolCallId.isSome else !decide message.Blank := by
  unfold inputItem
  split
  · cases message.toolCallId <;> rfl
  · split
    · next h => rw [decide_eq_true (show message.Blank from h)]; rfl
    · next h => rw [decide_eq_false (show ¬ message.Blank from h)]; rfl

/-- A schema is read when it is JSON. -/
theorem isOk_parseSchema (tool : OpenAiTool) :
    (parseSchema fromStr tool).isOk = (fromStr tool.inputSchema).isSome := by
  unfold parseSchema
  cases fromStr tool.inputSchema <;> rfl

/-- The HTTP encoder refuses a tool whose schema is not JSON. -/
theorem isOk_apiTool (tool : OpenAiTool) :
    (OpenAiApiTool.tryFrom fromStr tool).isOk = (fromStr tool.inputSchema).isSome := by
  rw [← isOk_parseSchema fromStr tool]
  unfold OpenAiApiTool.tryFrom
  cases parseSchema fromStr tool <;> rfl

/-- So does the websocket encoder. -/
theorem isOk_toolItem (tool : OpenAiTool) :
    (toolItem fromStr tool).isOk = (fromStr tool.inputSchema).isSome := by
  rw [← isOk_parseSchema fromStr tool]
  unfold toolItem
  cases parseSchema fromStr tool <;> rfl

/-- The HTTP encoder accepts messages that are not blank and tools with a JSON schema. -/
theorem isOk_buildApiRequest {request : OpenAiRequest} (h : request.messages ≠ [])
    (tokenParameter : OpenAiTokenParameter) :
    (buildApiRequestWithTokenParameter fromStr request tokenParameter).isOk =
      (request.messages.all (fun message => !decide message.Blank) &&
        request.tools.all (fun tool => (fromStr tool.inputSchema).isSome)) := by
  have hmessages := isOk_mapM OpenAiApiMessage.tryFrom request.messages
  have htools := isOk_mapM (OpenAiApiTool.tryFrom fromStr) request.tools
  simp only [isOk_tryFrom, isOk_apiTool] at hmessages htools
  rw [← hmessages, ← htools]
  unfold buildApiRequestWithTokenParameter
  cases hvalues : request.messages.mapM OpenAiApiMessage.tryFrom with
  | error error => rfl
  | ok values =>
      have hempty := isEmpty_of_mapM hvalues
      cases hrest : request.tools with
      | nil => simp_all [bind, Except.bind, pure, Except.pure, Except.isOk, Except.toBool]
      | cons tool tools =>
          cases hitems : (tool :: tools).mapM (OpenAiApiTool.tryFrom fromStr) <;>
            simp_all [bind, Except.bind, pure, Except.pure, Except.isOk, Except.toBool]

/-- The websocket encoder asks tool messages for an identifier and not for content. -/
theorem isOk_buildResponseCreatePayload {request : OpenAiRequest} (h : request.messages ≠ []) :
    (buildResponseCreatePayload fromStr request).isOk =
      (request.messages.all (fun message =>
          if message.role = .tool then message.toolCallId.isSome else !decide message.Blank) &&
        request.tools.all (fun tool => (fromStr tool.inputSchema).isSome)) := by
  have hmessages := isOk_mapM inputItem request.messages
  have htools := isOk_mapM (toolItem fromStr) request.tools
  simp only [isOk_inputItem, isOk_toolItem] at hmessages htools
  rw [← hmessages, ← htools]
  unfold buildResponseCreatePayload
  cases hvalues : request.messages.mapM inputItem with
  | error error => rfl
  | ok values =>
      have hempty := isEmpty_of_mapM hvalues
      cases hitems : request.tools.mapM (toolItem fromStr) <;>
        simp_all [bind, Except.bind, pure, Except.pure, Except.isOk, Except.toBool]

end

/-! ## Requests that only one encoder accepts -/

/-- Some content that both encoders check is blank, or the schema of a tool is not JSON. -/
def RejectedByBoth (fromStr : String → Option JsonValue) (request : ModelRequest) : Prop :=
  (∃ message ∈ request.messages,
    (message.role = .system ∨ message.role = .user) ∧ trim message.content = "") ∨
  ∃ tool ∈ request.tools, fromStr tool.inputSchema = none

/-- A message of the conversation has the tool role. -/
def HasToolMessage (request : ModelRequest) : Prop :=
  ∃ message ∈ request.messages, message.role = .tool

/-- A message with the tool role or a tool result is blank. -/
def HasBlankToolOutput (request : ModelRequest) : Prop :=
  (∃ message ∈ request.messages, message.role = .tool ∧ trim message.content = "") ∨
  ∃ result ∈ request.toolResults, trim result.output = ""

/-- A message is blank when it has no text and is not the assistant's. -/
theorem OpenAiMessage.blank_ofMessage (message : Message) :
    (OpenAiMessage.ofMessage message).Blank ↔
      trim message.content = "" ∧ message.role ≠ .assistant := by
  unfold Blank ofMessage
  cases message.role <;> simp [OpenAiRole.ofRole]

/-- A tool result is blank when it has no output. -/
theorem OpenAiMessage.blank_toolResult (result : ToolResult) :
    (OpenAiMessage.toolResult result).Blank ↔ trim result.output = "" := by
  simp [Blank, toolResult]

/-- A valid request has messages. -/
theorem ModelRequest.messages_ne_nil {request : ModelRequest} (h : request.validate = .ok ()) :
    request.messages ≠ [] := by
  intro hmessages
  unfold ModelRequest.validate at h
  split at h
  · cases h
  · cases h

section

variable {fromStr : String → Option JsonValue} {fallbackModel : String} {stream : Bool}
  {request : ModelRequest}

/-- A role other than the assistant's is the tool role or one that both encoders check. -/
theorem Role.ne_assistant {role : Role} :
    role ≠ .assistant ↔ (role = .system ∨ role = .user) ∨ role = .tool := by
  cases role <;> simp

/-- The HTTP encoder refuses what both refuse and blank tool outputs. -/
theorem http_accepts (hvalid : request.validate = .ok ()) (tokenParameter : OpenAiTokenParameter) :
    (buildApiRequestWithTokenParameter fromStr (buildOpenAiRequest fallbackModel request stream)
        tokenParameter).isOk ↔
      ¬ RejectedByBoth fromStr request ∧ ¬ HasBlankToolOutput request := by
  have hmessages : (buildOpenAiRequest fallbackModel request stream).messages ≠ [] := by
    simp [buildOpenAiRequest, ModelRequest.messages_ne_nil hvalid]
  rw [isOk_buildApiRequest fromStr hmessages]
  simp only [buildOpenAiRequest, List.all_append, List.all_map, Bool.and_eq_true, List.all_eq_true,
    Function.comp_apply, Bool.not_eq_true', decide_eq_false_iff_not, OpenAiMessage.blank_ofMessage,
    OpenAiMessage.blank_toolResult, OpenAiTool.ofDefinition, Role.ne_assistant]
  constructor
  · intro h
    obtain ⟨⟨hcontent, hresults⟩, htools⟩ := h
    refine ⟨?_, ?_⟩
    · rintro (⟨message, hmem, hrole, hblank⟩ | ⟨tool, hmem, hschema⟩)
      · exact hcontent message hmem ⟨hblank, .inl hrole⟩
      · simpa [hschema] using htools tool hmem
    · rintro (⟨message, hmem, hrole, hblank⟩ | ⟨result, hmem, hblank⟩)
      · exact hcontent message hmem ⟨hblank, .inr hrole⟩
      · exact hresults result hmem hblank
  · intro h
    obtain ⟨hboth, houtput⟩ := h
    refine ⟨⟨?_, ?_⟩, ?_⟩
    · rintro message hmem ⟨hblank, hrole | hrole⟩
      · exact hboth (.inl ⟨message, hmem, hrole, hblank⟩)
      · exact houtput (.inl ⟨message, hmem, hrole, hblank⟩)
    · exact fun result hmem hblank => houtput (.inr ⟨result, hmem, hblank⟩)
    · intro tool hmem
      rw [Option.isSome_iff_ne_none]
      exact fun hschema => hboth (.inr ⟨tool, hmem, hschema⟩)

/-- The websocket encoder refuses tool messages and blank messages of the system and the user. -/
theorem websocket_ofMessage (message : Message) :
    (if (OpenAiMessage.ofMessage message).role = .tool then
        (OpenAiMessage.ofMessage message).toolCallId.isSome
      else !decide (OpenAiMessage.ofMessage message).Blank) = true ↔
      message.role ≠ .tool ∧
        ¬ ((message.role = .system ∨ message.role = .user) ∧ trim message.content = "") := by
  have hblank := OpenAiMessage.blank_ofMessage message
  cases hrole : message.role <;>
    simp_all [OpenAiMessage.ofMessage, OpenAiRole.ofRole]

/-- The websocket encoder takes every tool result. -/
theorem websocket_toolResult (result : ToolResult) :
    (if (OpenAiMessage.toolResult result).role = .tool then
        (OpenAiMessage.toolResult result).toolCallId.isSome
      else !decide (OpenAiMessage.toolResult result).Blank) = true ↔ True := by
  simp [OpenAiMessage.toolResult]

/-- The websocket encoder refuses what both refuse and tool messages. -/
theorem websocket_accepts (hvalid : request.validate = .ok ()) :
    (buildResponseCreatePayload fromStr (buildOpenAiRequest fallbackModel request stream)).isOk ↔
      ¬ RejectedByBoth fromStr request ∧ ¬ HasToolMessage request := by
  have hmessages : (buildOpenAiRequest fallbackModel request stream).messages ≠ [] := by
    simp [buildOpenAiRequest, ModelRequest.messages_ne_nil hvalid]
  rw [isOk_buildResponseCreatePayload fromStr hmessages]
  simp only [buildOpenAiRequest, List.all_append, List.all_map, Bool.and_eq_true, List.all_eq_true,
    Function.comp_apply, websocket_ofMessage, websocket_toolResult, OpenAiTool.ofDefinition]
  constructor
  · intro h
    obtain ⟨⟨hcontent, -⟩, htools⟩ := h
    refine ⟨?_, ?_⟩
    · rintro (⟨message, hmem, hrole, hblank⟩ | ⟨tool, hmem, hschema⟩)
      · exact (hcontent message hmem).2 ⟨hrole, hblank⟩
      · simpa [hschema] using htools tool hmem
    · exact fun ⟨message, hmem, hrole⟩ => (hcontent message hmem).1 hrole
  · intro h
    obtain ⟨hboth, htool⟩ := h
    refine ⟨⟨?_, fun _ _ => trivial⟩, ?_⟩
    · intro message hmem
      exact ⟨fun hrole => htool ⟨message, hmem, hrole⟩,
        fun ⟨hrole, hblank⟩ => hboth (.inl ⟨message, hmem, hrole, hblank⟩)⟩
    · intro tool hmem
      rw [Option.isSome_iff_ne_none]
      exact fun hschema => hboth (.inr ⟨tool, hmem, hschema⟩)

end

/-- The two encoders accept the same requests exactly when both reject for a reason they share, or
there is a message with the tool role just when some tool output is blank. The HTTP encoder rejects
blank tool output, the websocket encoder rejects tool messages, which have no call identifier. -/
theorem encoders_agree_iff (fromStr : String → Option JsonValue) (fallbackModel : String)
    (stream : Bool) (request : ModelRequest) (hvalid : request.validate = .ok ()) :
    (∀ tokenParameter,
      (buildApiRequestWithTokenParameter fromStr (buildOpenAiRequest fallbackModel request stream)
        tokenParameter).isOk =
      (buildResponseCreatePayload fromStr
        (buildOpenAiRequest fallbackModel request stream)).isOk) ↔
    RejectedByBoth fromStr request ∨ (HasToolMessage request ↔ HasBlankToolOutput request) := by
  simp only [Bool.eq_iff_iff, http_accepts hvalid, websocket_accepts hvalid]
  constructor
  · intro h
    have hagree := h .maxTokens
    by_cases hboth : RejectedByBoth fromStr request
    · exact .inl hboth
    · refine .inr (not_iff_not.1 ?_)
      simpa [hboth] using hagree.symm
  · rintro (hboth | houtput) tokenParameter
    · simp [hboth]
    · rw [houtput]

/-- A conversation with a tool result. -/
def toolResultRequest (output : String) : ModelRequest :=
  { model := "gpt-4o-mini", messages := [⟨.user, "hello"⟩], options := {}, tools := []
    toolResults := [⟨"call_1", output⟩], metadata := ∅ }

/-- The encoders agree on a request with a tool result that has an output. -/
theorem encoders_agree_on_output :
    (buildApiRequestWithTokenParameter (fun _ => none)
        (buildOpenAiRequest "gpt-4o-mini" (toolResultRequest "done") false) .maxTokens).isOk =
      (buildResponseCreatePayload (fun _ => none)
        (buildOpenAiRequest "gpt-4o-mini" (toolResultRequest "done") false)).isOk :=
  (encoders_agree_iff _ "gpt-4o-mini" false (toolResultRequest "done") (by decide)).2
    (.inr (by simp [HasToolMessage, HasBlankToolOutput, toolResultRequest]; decide)) .maxTokens

/-- The HTTP encoder rejects the empty output of a tool, the websocket encoder accepts it. -/
theorem encoders_differ_on_empty_output :
    (toolResultRequest "").validate = .ok () ∧
    ∀ fromStr : String → Option JsonValue,
      (buildApiRequestWithTokenParameter fromStr
        (buildOpenAiRequest "gpt-4o-mini" (toolResultRequest "") false) .maxTokens).isOk = false ∧
      (buildResponseCreatePayload fromStr
        (buildOpenAiRequest "gpt-4o-mini" (toolResultRequest "") false)).isOk = true :=
  ⟨by decide, fun _ => ⟨rfl, rfl⟩⟩

end Fiddlesticks.Provider.OpenAi

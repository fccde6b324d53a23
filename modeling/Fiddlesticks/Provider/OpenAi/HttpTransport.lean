import Fiddlesticks.Effect.History
import Fiddlesticks.Provider.CredentialAccess
import Fiddlesticks.Provider.ModelLists
import Fiddlesticks.Provider.OpenAi.Encoders
import Fiddlesticks.Provider.OpenAi.Sse

/-!
# The HTTP transport

`OpenAiHttpTransport` asks for a response with the token limit under one name and, when the server
wants it under the other one, a second time. `Exchange` says what it sends and what it makes of the
answers; `complete` and `stream` differ in what they do with the response.
-/

namespace Fiddlesticks.Provider.OpenAi

open Effect Prog

/-! ## Requests and responses -/

/-- A header. -/
structure HttpHeader where
  name : String
  value : String
  deriving DecidableEq, Repr

/-- A `POST` request. -/
structure HttpPost where
  url : String
  header : HttpHeader
  body : OpenAiApiRequest

/-- `OpenAiApiToolFunction`. -/
structure OpenAiApiToolFunction where
  name : String
  arguments : String

/-- `OpenAiApiToolCall`. -/
structure OpenAiApiToolCall where
  id : String
  function : OpenAiApiToolFunction

/-- `OpenAiApiAssistantMessage`. -/
structure OpenAiApiAssistantMessage where
  content : Option String
  toolCalls : Option (List OpenAiApiToolCall)

/-- `OpenAiApiChoice`. -/
structure OpenAiApiChoice where
  message : OpenAiApiAssistantMessage
  finishReason : Option String

/-- `OpenAiApiResponse`, whose usage has the fields of `OpenAiUsage`. -/
structure OpenAiApiResponse where
  model : String
  choices : List OpenAiApiChoice
  usage : Option OpenAiUsage

/-- `Response`: its status, and what reading it as a text, as JSON or in chunks gives. -/
structure HttpReply where
  status : StatusCode
  text : Except RequestError String
  json : Except RequestError OpenAiApiResponse
  chunks : List (Except String (List UInt8))

/-- What `send` answers. -/
abbrev HttpAnswer := Except RequestError HttpReply

/-- `serde_json::from_str` at the types that the transport parses: tool schemas, the message of an
error envelope, and stream events. -/
structure SerdeJson where
  value : String → Option JsonValue
  errorEnvelope : String → Option String
  streamResponse : String → Except String OpenAiApiStreamResponse

/-! ## What the adapters ask for -/

/-- The operations of an adapter: the clock, the credential manager and the HTTP client. -/
inductive AdapterOp where
  | now
  | credential (op : CredentialOp)
  | post (post : HttpPost)

/-- The answers to each operation. -/
abbrev AdapterOp.Answer : AdapterOp → Type
  | .now => SystemTime
  | .credential _ => Except ProviderError CredentialAnswer
  | .post _ => HttpAnswer

/-- The signature of the adapters. -/
abbrev AdapterSig : Sig := ⟨AdapterOp, AdapterOp.Answer⟩

/-- A fallible program of an adapter. -/
abbrev AdapterM := ExceptT ProviderError (Prog AdapterSig)

/-- Await the answer to an operation. -/
def await (op : AdapterOp) : AdapterM op.Answer :=
  ExceptT.lift (request (S := AdapterSig) op)

/-! ## Errors -/

/-- `extract_error_message`, with the message for a body without one. -/
def errorMessage (json : SerdeJson) (reply : HttpReply) : String :=
  let body := match reply.text with
    | .ok text => text
    | .error _ => ""
  (json.errorEnvelope body).getD s!"OpenAI request failed with status {reply.status.display}"

/-- `parse_error`. -/
def parseError (json : SerdeJson) (reply : HttpReply) : ProviderError :=
  let message := errorMessage json reply
  let code := reply.status.code
  if code = 401 ∨ code = 403 then .authentication message
  else if code = 429 then .rateLimited message
  else if code = 408 ∨ code = 504 then .timeout message
  else if code = 400 ∨ code = 422 then .invalidRequest message
  else if code = 503 ∨ code = 502 then .unavailable message
  else .transport message

/-- `str::contains`. -/
def containsText (text part : String) : Bool :=
  decide (part.toList <:+: text.toList)

/-! ## Responses -/

/-- `From<OpenAiApiToolCall>` of `TryFrom<OpenAiApiResponse> for OpenAiResponse`. -/
def OpenAiApiToolCall.toToolCall (call : OpenAiApiToolCall) : OpenAiToolCall :=
  { id := call.id, name := call.function.name, arguments := call.function.arguments }

/-- `TryFrom<OpenAiApiResponse> for OpenAiResponse`. -/
def OpenAiResponse.tryFrom (value : OpenAiApiResponse) : Except ProviderError OpenAiResponse :=
  match value.choices with
  | [] => throw (.transport "OpenAI response did not include choices")
  | choice :: _ =>
      return { model := value.model
               message :=
                { content := choice.message.content.getD ""
                  toolCalls := (choice.message.toolCalls.getD []).map (·.toToolCall) }
               finishReason := parseFinishReason choice.finishReason
               usage := value.usage.getD
                { promptTokens := 0, completionTokens := 0, totalTokens := 0 } }

/-! ## The transport -/

/-- `OpenAiHttpTransport`, whose client is the environment. -/
structure OpenAiHttpTransport where
  baseUrl : String

namespace OpenAiHttpTransport

/-- `OpenAiHttpTransport::new`. -/
def new : OpenAiHttpTransport :=
  { baseUrl := "https://api.openai.com/v1" }

/-- `with_base_url`. -/
def withBaseUrl (baseUrl : String) : OpenAiHttpTransport :=
  { baseUrl }

/-- `endpoint`. -/
def endpoint (transport : OpenAiHttpTransport) (path : String) : String :=
  String.ofList (transport.baseUrl.toList.rdropWhile (· = '/')) ++ "/" ++ path

/-- `apply_auth`. -/
def applyAuth : OpenAiAuth → HttpHeader
  | .apiKey key => { name := "authorization", value := "Bearer " ++ key }
  | .browserSession token =>
      { name := "Cookie", value := "__Secure-next-auth.session-token=" ++ token }

variable (json : SerdeJson) (transport : OpenAiHttpTransport)

/-- The request of one round of the loop over the token parameters. -/
def attempt (request : OpenAiRequest) (auth : OpenAiAuth) (tokenParameter : OpenAiTokenParameter) :
    Except ProviderError HttpPost := do
  let body ← buildApiRequestWithTokenParameter json.value request tokenParameter
  return { url := transport.endpoint "chat/completions", header := applyAuth auth, body }

/-- The error of a response wants the token limit under its other name. -/
def refused : HttpAnswer → Bool
  | .ok reply => !reply.status.isSuccess &&
      containsText (parseError json reply).message "max_completion_tokens"
  | .error _ => false

/-- What an answer comes to that is not asked for again. -/
def settle : HttpAnswer → Except ProviderError HttpReply
  | .error error => .error error.toProviderError
  | .ok reply => if reply.status.isSuccess then .ok reply else .error (parseError json reply)

/-- The loop over the token parameters, up to a response with a success status. -/
def sendAccepted (request : OpenAiRequest) (auth : OpenAiAuth) :
    List OpenAiTokenParameter → AdapterM HttpReply
  | [] => throw (.invalidRequest "OpenAI request did not accept supported token parameters")
  | tokenParameter :: rest => do
      let post ← liftM (transport.attempt json request auth tokenParameter)
      let answer ← await (.post post)
      if tokenParameter = .maxTokens ∧ refused json answer then sendAccepted request auth rest
      else liftM (settle json answer)

/-- The token parameters, in the order in which they are tried. -/
def tokenParameters : List OpenAiTokenParameter := [.maxTokens, .maxCompletionTokens]

/-- What `complete` makes of a response. -/
def parseResponse (reply : HttpReply) : Except ProviderError OpenAiResponse := do
  let parsed ← reply.json.mapError fun error => .transport error.text
  OpenAiResponse.tryFrom parsed

/-- `OpenAiHttpTransport::complete`. -/
def complete (request : OpenAiRequest) (auth : OpenAiAuth) : AdapterM OpenAiResponse := do
  let reply ← transport.sendAccepted json request auth tokenParameters
  liftM (parseResponse reply)

/-- `OpenAiHttpTransport::stream`: the items of the stream that it returns, and how that ends. -/
def stream (request : OpenAiRequest) (auth : OpenAiAuth) :
    AdapterM (List OpenAiStreamChunk × Except ProviderError Unit) := do
  let reply ← transport.sendAccepted json { request with stream := true } auth tokenParameters
  return sseStream json.streamResponse request.model reply.chunks

/-! ## What is sent -/

/-- What the loop over the token parameters has sent so far allows it to send the request. -/
inductive MaySend (request : OpenAiRequest) (auth : OpenAiAuth) :
    History AdapterSig → HttpPost → Prop where
  | first {post} (h : transport.attempt json request auth .maxTokens = .ok post) :
      MaySend request auth [] post
  | again {first refusal post} (hfirst : transport.attempt json request auth .maxTokens = .ok first)
      (hrefused : refused json refusal)
      (h : transport.attempt json request auth .maxCompletionTokens = .ok post) :
      MaySend request auth [⟨.post first, refusal⟩] post

/-- The requests of the loop over the token parameters, with their answers, and its outcome. -/
inductive Exchange (request : OpenAiRequest) (auth : OpenAiAuth) :
    History AdapterSig → Except ProviderError HttpReply → Prop where
  | rejected {error} (h : transport.attempt json request auth .maxTokens = .error error) :
      Exchange request auth [] (.error error)
  | settled {post answer} (h : transport.attempt json request auth .maxTokens = .ok post)
      (hanswer : ¬ refused json answer) :
      Exchange request auth [⟨.post post, answer⟩] (settle json answer)
  | again {first second refusal answer}
      (hfirst : transport.attempt json request auth .maxTokens = .ok first)
      (hrefused : refused json refusal)
      (hsecond : transport.attempt json request auth .maxCompletionTokens = .ok second) :
      Exchange request auth [⟨.post first, refusal⟩, ⟨.post second, answer⟩] (settle json answer)

/-- The body with the token limit under its other name. -/
def renameLimit (post : HttpPost) : HttpPost :=
  { post with body := { post.body with
      maxTokens := none
      maxCompletionTokens := post.body.maxTokens } }

/-- The body with another stream flag. -/
def withStream (stream : Bool) (post : HttpPost) : HttpPost :=
  { post with body := { post.body with stream } }

variable {json : SerdeJson} {transport : OpenAiHttpTransport} {request : OpenAiRequest}
  {auth : OpenAiAuth}

/-- The second request differs from the first in the name of its limit. -/
theorem attempt_maxCompletionTokens :
    transport.attempt json request auth .maxCompletionTokens =
      (transport.attempt json request auth .maxTokens).map renameLimit := by
  unfold attempt buildApiRequestWithTokenParameter
  cases request.messages.mapM OpenAiApiMessage.tryFrom with
  | error error => rfl
  | ok messages =>
      cases messages with
      | nil => rfl
      | cons message messages =>
          cases request.tools with
          | nil => rfl
          | cons tool tools =>
              cases (tool :: tools).mapM (OpenAiApiTool.tryFrom json.value) <;> rfl

/-- A request for a stream differs from a plain one in its flag. -/
theorem attempt_stream (stream : Bool) (tokenParameter : OpenAiTokenParameter) :
    transport.attempt json { request with stream } auth tokenParameter =
      (transport.attempt json request auth tokenParameter).map (withStream stream) := by
  unfold attempt buildApiRequestWithTokenParameter
  cases request.messages.mapM OpenAiApiMessage.tryFrom with
  | error error => rfl
  | ok messages =>
      cases messages with
      | nil => rfl
      | cons message messages =>
          cases request.tools with
          | nil => rfl
          | cons tool tools =>
              cases (tool :: tools).mapM (OpenAiApiTool.tryFrom json.value) <;> rfl

/-- A request that can be sent goes to the endpoint with the credential. -/
theorem attempt_ok {tokenParameter : OpenAiTokenParameter} {post : HttpPost}
    (h : transport.attempt json request auth tokenParameter = .ok post) :
    post.url = transport.endpoint "chat/completions" ∧ post.header = applyAuth auth := by
  unfold attempt at h
  cases hbody : buildApiRequestWithTokenParameter json.value request tokenParameter with
  | error error =>
      rw [hbody] at h
      cases h
  | ok body =>
      rw [hbody] at h
      cases h
      exact ⟨rfl, rfl⟩

/-- Whatever is sent goes to the endpoint with the header of the key. -/
theorem MaySend.destination {sent : History AdapterSig} {post : HttpPost}
    (h : MaySend json transport request auth sent post) :
    post.url = transport.endpoint "chat/completions" ∧ post.header = applyAuth auth := by
  cases h with
  | first hpost => exact attempt_ok hpost
  | again _ _ hpost => exact attempt_ok hpost

/-- The loop over the token parameters sends what it may and ends in an exchange. -/
theorem sendAccepted_obeys (start : History AdapterSig) :
    Obeys (fun h e => ∃ sent post, h = start ++ sent ∧ e.op = AdapterOp.post post ∧
        MaySend json transport request auth sent post)
      (fun h result => ∃ events, h = start ++ events ∧
        Exchange json transport request auth events result)
      start (transport.sendAccepted json request auth tokenParameters).run := by
  rw [tokenParameters, sendAccepted]
  refine obeys_check_seq (fun first hfirst => ?_) fun error hrejected =>
    ⟨[], (List.append_nil _).symm, .rejected hrejected⟩
  refine obeys_request_seq (fun _ => ⟨[], first, (List.append_nil _).symm, rfl, .first hfirst⟩)
    fun answer => ?_
  by_cases hrefused : refused json answer
  · rw [if_pos ⟨rfl, hrefused⟩, sendAccepted]
    have hsecond : transport.attempt json request auth .maxCompletionTokens =
        .ok (renameLimit first) := by
      rw [attempt_maxCompletionTokens, hfirst]
      rfl
    rw [hsecond]
    refine obeys_request_seq (fun _ => ⟨_, _, rfl, rfl, .again hfirst hrefused hsecond⟩)
      fun again => ?_
    rw [if_neg (by simp)]
    refine (obeys_except_lift _).mpr ⟨_, ?_, .again hfirst hrefused hsecond⟩
    simp
  · rw [if_neg (by simp [hrefused])]
    exact (obeys_except_lift _).mpr ⟨_, rfl, .settled hfirst hrefused⟩

end OpenAiHttpTransport

end Fiddlesticks.Provider.OpenAi

import Fiddlesticks.Provider.OpenAi.HttpTransport

/-!
# The adapters

`OpenAiProvider`, `AnthropicProvider`, `OpenCodeZenProvider` and `OllamaProvider` over the HTTP
transport. A call validates its request, fetches the key of its provider and hands both to the
transport.
-/

namespace Fiddlesticks.Provider

open Effect Prog OpenAi

/-! ## The adapters -/

/-- What sets the adapters apart, for adapters with the given transport. -/
structure Adapter where
  provider : ProviderId
  transport : OpenAiHttpTransport
  fallbackModel : String

/-- `OpenAiProvider::new`. -/
def OpenAiProvider.new (transport : OpenAiHttpTransport) : Adapter :=
  { provider := .openAi, transport, fallbackModel := "gpt-4o-mini" }

/-- `AnthropicProvider::new`. -/
def AnthropicProvider.new (transport : OpenAiHttpTransport) : Adapter :=
  { provider := .anthropic, transport, fallbackModel := "claude-3-5-sonnet-latest" }

/-- `AnthropicProvider::default_http_transport`. -/
def AnthropicProvider.defaultHttpTransport : OpenAiHttpTransport :=
  .withBaseUrl "https://api.anthropic.com/v1"

/-- `OpenCodeZenProvider::new`. -/
def OpenCodeZenProvider.new (transport : OpenAiHttpTransport) : Adapter :=
  { provider := .openCodeZen, transport, fallbackModel := "kimi-k2.5" }

/-- `OpenCodeZenProvider::default_http_transport`. -/
def OpenCodeZenProvider.defaultHttpTransport : OpenAiHttpTransport :=
  .withBaseUrl "https://opencode.ai/zen/v1"

/-- `OllamaProvider::new`. -/
def OllamaProvider.new (transport : OpenAiHttpTransport) : Adapter :=
  { provider := .ollama, transport, fallbackModel := "llama3.2" }

/-- `OllamaProvider::default_http_transport`. -/
def OllamaProvider.defaultHttpTransport : OpenAiHttpTransport :=
  .withBaseUrl "http://localhost:11434/v1"

/-! ## Credentials -/

/-- The key of a provider, from `SecureCredentialManager::api_key`. -/
def resolveApiKey (provider : ProviderId) (missing : String) : AdapterM OpenAiAuth := do
  let now ← await .now
  match ← await (.credential (.withApiKey provider now)) with
  | .error error => throw error
  | .ok (.apiKey (some key)) => return .apiKey key
  | .ok _ => throw (.authentication missing)

/-- `resolve_openai_auth`. -/
def resolveOpenAiAuth : AdapterM OpenAiAuth :=
  resolveApiKey .openAi "no OpenAI API key configured"

/-- `resolve_anthropic_api_key`. -/
def resolveAnthropicApiKey : AdapterM OpenAiAuth :=
  resolveApiKey .anthropic "no Anthropic credentials configured"

/-- `resolve_zen_api_key`. -/
def resolveZenApiKey : AdapterM OpenAiAuth :=
  resolveApiKey .openCodeZen "no OpenCode Zen credentials configured"

/-- `auth_placeholder`. -/
def authPlaceholder : OpenAiAuth := .apiKey "ollama-local"

/-! ## Calls -/

namespace Adapter

variable (json : SerdeJson) (adapter : Adapter)

/-- The credential of an adapter. -/
def resolve : AdapterM OpenAiAuth :=
  match adapter.provider with
  | .openAi => resolveOpenAiAuth
  | .anthropic => resolveAnthropicApiKey
  | .openCodeZen => resolveZenApiKey
  | .ollama => return authPlaceholder

/-- The steps that `complete` and `stream` share: validate the request, fetch the key, send. -/
def ask (request : ModelRequest) (asked : OpenAiRequest) : AdapterM HttpReply := do
  liftM request.validate
  let auth ← adapter.resolve
  adapter.transport.sendAccepted json asked auth OpenAiHttpTransport.tokenParameters

/-- `ModelProvider::complete`. -/
def complete (request : ModelRequest) : AdapterM ModelResponse := do
  liftM request.validate
  let auth ← adapter.resolve
  let response ← adapter.transport.complete json
    (buildOpenAiRequest adapter.fallbackModel request false) auth
  return response.intoModelResponse adapter.provider

/-- `ModelProvider::stream`: the events of the stream that it returns, and how that ends. -/
def stream (request : ModelRequest) :
    AdapterM (List StreamEvent × Except ProviderError Unit) := do
  liftM request.validate
  let auth ← adapter.resolve
  let items ← adapter.transport.stream json
    (buildOpenAiRequest adapter.fallbackModel request true) auth
  return (items.1.map (mapStreamChunk adapter.provider), items.2)

/-- `complete` asks, parses the reply and maps the response. -/
theorem complete_eq (request : ModelRequest) :
    adapter.complete json request =
      adapter.ask json request (buildOpenAiRequest adapter.fallbackModel request false) >>=
        fun reply => liftM (OpenAiHttpTransport.parseResponse reply) >>= fun response =>
          return response.intoModelResponse adapter.provider := by
  simp only [complete, ask, OpenAiHttpTransport.complete, LawfulMonad.bind_assoc]

/-- `stream` asks and maps the items of the reply. -/
theorem stream_eq (request : ModelRequest) :
    adapter.stream json request =
      adapter.ask json request (buildOpenAiRequest adapter.fallbackModel request true) >>=
        fun reply =>
          let items := sseStream json.streamResponse
            (buildOpenAiRequest adapter.fallbackModel request true).model reply.chunks
          return (items.1.map (mapStreamChunk adapter.provider), items.2) := by
  simp only [stream, ask, OpenAiHttpTransport.stream, LawfulMonad.bind_assoc, LawfulMonad.pure_bind]
  rfl

end Adapter

/-- A call that touches the credentials: of an adapter, or of the manager itself. -/
inductive AdapterCall where
  | complete (adapter : Adapter) (request : ModelRequest)
  | stream (adapter : Adapter) (request : ModelRequest)
  | credential (op : CredentialOp)

/-- What a call returns. -/
inductive AdapterResult where
  | response (response : ModelResponse)
  | events (events : List StreamEvent) (ending : Except ProviderError Unit)
  | answer (answer : CredentialAnswer)

namespace AdapterCall

/-- The adapter of a call and its request, as the transport is given it. -/
def asks : AdapterCall → Option (Adapter × ModelRequest × OpenAiRequest)
  | complete adapter request =>
      some (adapter, request, buildOpenAiRequest adapter.fallbackModel request false)
  | stream adapter request =>
      some (adapter, request, buildOpenAiRequest adapter.fallbackModel request true)
  | credential _ => none

/-- The program of a call. -/
def program (json : SerdeJson) : AdapterCall → AdapterM AdapterResult
  | complete adapter request => do
      return .response (← adapter.complete json request)
  | stream adapter request => do
      let items ← adapter.stream json request
      return .events items.1 items.2
  | credential op => do
      match ← await (.credential op) with
      | .ok answer => return .answer answer
      | .error error => throw error

end AdapterCall

end Fiddlesticks.Provider

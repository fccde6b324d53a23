import Fiddlesticks.Chat.Types
import Fiddlesticks.Provider.Retry

/-!
# The chat service

`ChatService` of the `fchat` crate: `run_turn`, `stream_turn` and what they call. A turn is a
program over the signature of the store, the provider, the tool runtime, the stream's consumer
and the provider hooks; every `await` and every `yield` of the source is one call.
-/

namespace Fiddlesticks.Chat

open Effect Provider Tooling

/-! ## The environment of a turn -/

/-- What a turn asks of its environment. -/
inductive ChatOp where
  | loadMessages (sessionId : SessionId)
  | appendMessages (sessionId : SessionId) (messages : List Message)
  | complete (request : ModelRequest)
  | stream (request : ModelRequest)
  | execute (call : ToolCall) (context : ToolExecutionContext)
  | yield (event : ChatEvent)
  | hook (event : HookEvent)
  | sleep (delay : Duration)
  | panic
  deriving DecidableEq

/-- The items a provider stream delivers up to its end. A stream that never ends is met by the
runs that stop within a finite part of it. -/
abbrev ProviderStream := List (Except ProviderError StreamEvent)

/-- The answers to each operation. A panic has none. -/
abbrev ChatOp.Answer : ChatOp → Type
  | .loadMessages _ => Except ChatError (List Message)
  | .appendMessages _ _ => Except ChatError Unit
  | .complete _ => Except ProviderError ModelResponse
  | .stream _ => Except ProviderError ProviderStream
  | .execute _ _ => Except ToolError ToolExecutionResult
  | .yield _ => Unit
  | .hook _ => Unit
  | .sleep _ => Unit
  | .panic => Empty

/-- The signature of a turn. -/
abbrev ChatSig : Sig := ⟨ChatOp, ChatOp.Answer⟩

instance : Prog.Panics ChatSig := ⟨.panic, id⟩

/-- A fallible program of the chat service. -/
abbrev Turn := ExceptT ChatError (Prog ChatSig)

/-- Await the answer to an operation. -/
def ask (op : ChatOp) : Prog ChatSig op.Answer :=
  .call op .pure

/-- `result.await.map_err(convert)?`. -/
def orElseRaise {ε α : Type} (convert : ε → ChatError) (program : Prog ChatSig (Except ε α)) :
    Turn α :=
  ExceptT.mk do
    match ← program with
    | .ok value => pure (.ok value)
    | .error error => pure (.error (convert error))

/-- `ConversationStore::load_messages` with the error mapping of its callers. -/
def loadMessages (sessionId : SessionId) : Turn (List Message) :=
  orElseRaise (·.withPhase .storage) (ask (.loadMessages sessionId))

/-- `ConversationStore::append_messages` with the error mapping of its callers. -/
def appendMessages (sessionId : SessionId) (messages : List Message) : Turn Unit :=
  orElseRaise (·.withPhase .storage) (ask (.appendMessages sessionId messages))

/-- `ToolRuntime::execute` with the error mapping of its callers. -/
def execute (call : ToolCall) (context : ToolExecutionContext) : Turn ToolExecutionResult :=
  orElseRaise (fun error => (ChatError.ofTool error).withPhase .tooling)
    (ask (.execute call context))

/-- `yield` of an event to the consumer of the stream. -/
def yieldEvent (event : ChatEvent) : Turn Unit :=
  ExceptT.lift (ask (.yield event))

/-! ## The service -/

/-- `ChatPolicy`. -/
structure ChatPolicy where
  maxToolRoundTrips : Nat
  defaultTemperature : Option F32
  defaultMaxTokens : Option UInt32
  providerRetryPolicy : RetryPolicy
  deriving DecidableEq

/-- `ChatPolicy::default`. -/
def ChatPolicy.default : ChatPolicy :=
  { maxToolRoundTrips := 4, defaultTemperature := none, defaultMaxTokens := none,
    providerRetryPolicy := .default }

/-- `ChatService`: its policy and whether it has a tool runtime. The provider, the store, the
runtime and the hooks are the environment of its programs. -/
structure ChatService where
  policy : ChatPolicy
  hasToolRuntime : Bool
  deriving DecidableEq

/-- `TurnContext`. -/
structure TurnContext where
  session : ChatSession
  userMessage : Message
  conversationMessages : List Message
  temperature : Option F32
  maxTokens : Option UInt32

/-- The builder that `build_request` fills. -/
def requestBuilder (model : String) (messages : List Message) (temperature : Option F32)
    (maxTokens : Option UInt32) (stream : Bool) (toolResults : List ToolResult) :
    ModelRequestBuilder :=
  let builder := (ModelRequestBuilder.new model).addMessages messages
  let builder := match temperature with
    | some value => builder.temperature value
    | none => builder
  let builder := match maxTokens with
    | some value => builder.maxTokens value
    | none => builder
  let builder := if stream then builder.enableStreaming else builder
  if toolResults.isEmpty then builder else builder.withToolResults toolResults

/-- `build_request`. -/
def buildRequest (model : String) (messages : List Message) (temperature : Option F32)
    (maxTokens : Option UInt32) (stream : Bool) (toolResults : List ToolResult) :
    Except ChatError ModelRequest :=
  (requestBuilder model messages temperature maxTokens stream toolResults).build.mapError
    fun error => (ChatError.ofProvider error).withPhase .requestValidation

/-- The request that `build_request` assembles. -/
def turnRequest (model : String) (messages : List Message) (temperature : Option F32)
    (maxTokens : Option UInt32) (stream : Bool) (toolResults : List ToolResult) : ModelRequest :=
  { model, messages, options := { temperature, maxTokens, stream }, tools := [], toolResults,
    metadata := ∅ }

/-- The builder puts its arguments into the request. -/
theorem requestBuilder_eq (model : String) (messages : List Message) (temperature : Option F32)
    (maxTokens : Option UInt32) (stream : Bool) (toolResults : List ToolResult) :
    requestBuilder model messages temperature maxTokens stream toolResults =
      ⟨model, messages, ⟨temperature, maxTokens, stream⟩, [], toolResults, ∅⟩ := by
  cases temperature <;> cases maxTokens <;> cases stream <;> cases toolResults <;> rfl

/-- `build_request` validates the request it assembles. -/
theorem buildRequest_eq (model : String) (messages : List Message) (temperature : Option F32)
    (maxTokens : Option UInt32) (stream : Bool) (toolResults : List ToolResult) :
    buildRequest model messages temperature maxTokens stream toolResults =
      match (turnRequest model messages temperature maxTokens stream toolResults).validate with
      | .ok _ => .ok (turnRequest model messages temperature maxTokens stream toolResults)
      | .error error => .error ((ChatError.ofProvider error).withPhase .requestValidation) := by
  rw [buildRequest, requestBuilder_eq]
  change Except.mapError _ (Except.bind
    (turnRequest model messages temperature maxTokens stream toolResults).validate _) = _
  cases (turnRequest model messages temperature maxTokens stream toolResults).validate <;> rfl

/-- `collect_output`. -/
def collectOutput : List OutputItem → String × List ToolCall
  | [] => ("", [])
  | .message message :: items =>
      let (text, calls) := collectOutput items
      if message.role = .assistant then (message.content ++ text, calls) else (text, calls)
  | .toolCall call :: items =>
      let (text, calls) := collectOutput items
      (text, call :: calls)

/-! ## Accumulating a stream -/

/-- What a round of `stream_turn` accumulates from the events of a provider stream. The tool calls
are a map ordered by call id. -/
structure StreamRound where
  assistantText : String := ""
  toolCalls : Std.ExtTreeMap String ToolCall := ∅
  stopReason : StopReason := .other
  usage : TokenUsage := {}

/-- `tool_calls.values()`. -/
def StreamRound.calls (round : StreamRound) : List ToolCall :=
  round.toolCalls.toList.map Prod.snd

/-- What one stream event changes. -/
def StreamRound.update (round : StreamRound) : StreamEvent → StreamRound
  | .textDelta delta => { round with assistantText := round.assistantText ++ delta }
  | .toolCallDelta call => { round with toolCalls := round.toolCalls.insert call.id call }
  | .messageComplete message =>
      if message.role = .assistant ∧ round.assistantText = "" then
        { round with assistantText := message.content }
      else round
  | .responseComplete response =>
      let (content, outputCalls) := collectOutput response.output
      { assistantText := if content = "" then round.assistantText else content
        toolCalls := outputCalls.foldl (fun calls call => calls.insert call.id call)
          round.toolCalls
        stopReason := response.stopReason
        usage := response.usage }

/-- The chat event that one stream event yields. -/
def chatEvent : StreamEvent → Option ChatEvent
  | .textDelta delta => some (.textDelta delta)
  | .toolCallDelta call => some (.toolCallDelta call)
  | .messageComplete message =>
      if message.role = .assistant then some (.assistantMessageComplete message.content) else none
  | .responseComplete _ => none

/-- The loop over the events of a provider stream. -/
def consumeEvents : StreamRound → ProviderStream → Turn StreamRound
  | round, [] => return round
  | _, .error error :: _ => throw ((ChatError.ofProvider error).withPhase .streaming)
  | round, .ok event :: events => do
      match chatEvent event with
      | some chatEvent => yieldEvent chatEvent
      | none => pure ()
      consumeEvents (round.update event) events

namespace ChatService

variable (service : ChatService)

/-- `prepare_turn`. -/
def prepareTurn (request : ChatTurnRequest) : Turn TurnContext := do
  if trim request.userInput = "" then
    throw (.invalidRequest "user_input must not be empty")
  let temperature := request.options.temperature.or service.policy.defaultTemperature
  let maxTokens := request.options.maxTokens.or service.policy.defaultMaxTokens
  let prior ← loadMessages request.session.id
  let userMessage : Message := ⟨.user, request.userInput⟩
  let systemMessages : List Message := match request.session.systemPrompt with
    | some systemPrompt => [⟨.system, systemPrompt⟩]
    | none => []
  return { session := request.session, userMessage,
           conversationMessages := systemMessages ++ prior ++ [userMessage],
           temperature, maxTokens }

/-- `complete_with_retry`. -/
def completeWithRetry (provider : ProviderId) (request : ModelRequest) : Turn ModelResponse :=
  orElseRaise (fun error => (ChatError.ofProvider error).withPhase .provider)
    (executeWithRetry (fun event => ask (.hook event)) (fun delay => ask (.sleep delay))
      provider "complete" service.policy.providerRetryPolicy
      (fun _ => ask (.complete request)))

/-- The loop of `stream_turn` that acquires a provider stream. The count `left` is
`max_attempts - attempt`, as in `executeWithRetryLoop`. -/
def acquireStreamLoop (provider : ProviderId) (request : ModelRequest) (left attempt : Nat) :
    Turn ProviderStream := do
  ExceptT.lift (ask (.hook (.attemptStart provider "stream" attempt)))
  match ← ExceptT.lift (ask (.stream request)) with
  | .ok stream => do
      ExceptT.lift (ask (.hook (.success provider "stream" attempt)))
      return stream
  | .error error =>
      match left with
      | left + 1 =>
          if service.policy.providerRetryPolicy.shouldRetry attempt error then
            match service.policy.providerRetryPolicy.backoffForAttempt attempt with
            | some delay => do
                ExceptT.lift (ask (.hook (.retryScheduled provider "stream" attempt delay error)))
                ExceptT.lift (ask (.sleep delay))
                acquireStreamLoop provider request left (attempt + 1)
            | none => ExceptT.mk Prog.panicked
          else do
            ExceptT.lift (ask (.hook (.failure provider "stream" attempt error)))
            throw ((ChatError.ofProvider error).withPhase .provider)
      | 0 => do
          ExceptT.lift (ask (.hook (.failure provider "stream" attempt error)))
          throw ((ChatError.ofProvider error).withPhase .provider)

/-- The stream acquisition of `stream_turn`. -/
def acquireStream (provider : ProviderId) (request : ModelRequest) : Turn ProviderStream :=
  service.acquireStreamLoop provider request
    (service.policy.providerRetryPolicy.maxAttempts.toNat - 1) 1

/-- The written-out loop is the loop of `execute_with_retry` with its error converted. -/
theorem acquireStreamLoop_eq (provider : ProviderId) (request : ModelRequest)
    (left attempt : Nat) :
    service.acquireStreamLoop provider request left attempt =
      orElseRaise (fun error => (ChatError.ofProvider error).withPhase .provider)
        (executeWithRetryLoop (fun event => ask (.hook event)) (fun delay => ask (.sleep delay))
          provider "stream" service.policy.providerRetryPolicy
          (fun _ => ask (.stream request)) left attempt) := by
  induction left generalizing attempt with
  | zero =>
      rw [acquireStreamLoop.eq_def, executeWithRetryLoop.eq_def]
      refine Prog.call_congr fun _ => Prog.call_congr fun outcome => ?_
      cases outcome with
      | ok stream => rfl
      | error error => rfl
  | succ left ih =>
      rw [acquireStreamLoop.eq_def, executeWithRetryLoop.eq_def]
      refine Prog.call_congr fun _ => Prog.call_congr fun outcome => ?_
      cases outcome with
      | ok stream => rfl
      | error error =>
          dsimp only [Prog.bind, Function.comp_apply, ExceptT.bindCont]
          by_cases hretry : service.policy.providerRetryPolicy.shouldRetry attempt error
          · rw [if_pos hretry, if_pos hretry]
            cases service.policy.providerRetryPolicy.backoffForAttempt attempt with
            | none => exact (Prog.panicked_bind _).symm
            | some delay => exact Prog.call_congr fun _ => Prog.call_congr fun _ => ih (attempt + 1)
          · rw [if_neg hretry, if_neg hretry]
            rfl

/-- A turn acquires its stream as `execute_with_retry` would. -/
theorem acquireStream_eq (provider : ProviderId) (request : ModelRequest) :
    service.acquireStream provider request =
      orElseRaise (fun error => (ChatError.ofProvider error).withPhase .provider)
        (executeWithRetry (fun event => ask (.hook event)) (fun delay => ask (.sleep delay))
          provider "stream" service.policy.providerRetryPolicy (fun _ => ask (.stream request))) :=
  service.acquireStreamLoop_eq provider request _ 1

/-! ## `run_turn` -/

/-- The tool loop of `run_turn`. -/
def executeTools (sessionId : SessionId) : List ToolCall → Turn (List ToolResult)
  | [] => return []
  | call :: calls => do
      let result ← execute call (.new sessionId)
      let results ← executeTools sessionId calls
      return ⟨result.toolCallId, result.output⟩ :: results

/-- The round loop of `run_turn`. The count `remaining` is `max_tool_round_trips - round_trips`. -/
def runTurnLoop (context : TurnContext) (remaining : Nat) (conversation persisted : List Message)
    (response : ModelResponse) : Turn ChatTurnResult := do
  let (assistantMessage, toolCalls) := collectOutput response.output
  let assistant : Message := ⟨.assistant, assistantMessage⟩
  let conversation := conversation ++ [assistant]
  let persisted := persisted ++ [assistant]
  let finish (limitReached : Bool) : Turn ChatTurnResult := do
    appendMessages context.session.id persisted
    return { sessionId := context.session.id, assistantMessage, toolCalls,
             stopReason := response.stopReason, usage := response.usage,
             toolRoundLimitReached := limitReached }
  if service.hasToolRuntime && !toolCalls.isEmpty then
    match remaining with
    | remaining + 1 => do
        let toolResults ← executeTools context.session.id toolCalls
        let request ← buildRequest context.session.model conversation context.temperature
          context.maxTokens false toolResults
        let response ← service.completeWithRetry context.session.provider request
        runTurnLoop context remaining conversation persisted response
    | 0 => finish true
  else finish false

/-- `run_turn`. -/
def runTurn (request : ChatTurnRequest) : Turn ChatTurnResult := do
  if request.options.stream then
    throw (.invalidRequest "use stream_turn for streaming requests")
  let context ← service.prepareTurn request
  let modelRequest ← buildRequest context.session.model context.conversationMessages
    context.temperature context.maxTokens false []
  let response ← service.completeWithRetry context.session.provider modelRequest
  service.runTurnLoop context service.policy.maxToolRoundTrips context.conversationMessages
    [context.userMessage] response

/-! ## `stream_turn` -/

/-- The tool loop of `stream_turn`. -/
def streamTools (sessionId : SessionId) : List ToolCall → Turn (List ToolResult)
  | [] => return []
  | call :: calls => do
      yieldEvent (.toolExecutionStarted call)
      let executed ← execute call (.new sessionId)
      yieldEvent (.toolExecutionFinished call)
      let results ← streamTools sessionId calls
      return ⟨executed.toolCallId, executed.output⟩ :: results

/-- The round loop of `stream_turn`. The count `remaining` is
`max_tool_round_trips - round_trips`. -/
def streamTurnLoop (context : TurnContext) (remaining : Nat)
    (conversation persisted : List Message) (nextToolResults : List ToolResult) : Turn Unit := do
  let request ← buildRequest context.session.model conversation context.temperature
    context.maxTokens true nextToolResults
  let events ← service.acquireStream context.session.provider request
  let round ← consumeEvents {} events
  let assistant : Message := ⟨.assistant, round.assistantText⟩
  let conversation := conversation ++ [assistant]
  let persisted := persisted ++ [assistant]
  let finish (limitReached : Bool) : Turn Unit := do
    let result : ChatTurnResult :=
      { sessionId := context.session.id, assistantMessage := round.assistantText,
        toolCalls := round.calls, stopReason := round.stopReason, usage := round.usage,
        toolRoundLimitReached := limitReached }
    appendMessages context.session.id persisted
    yieldEvent (.turnComplete result)
  if service.hasToolRuntime && !round.calls.isEmpty then
    match remaining with
    | remaining + 1 => do
        let toolResults ← streamTools context.session.id round.calls
        streamTurnLoop context remaining conversation persisted toolResults
    | 0 => do
        yieldEvent (.toolRoundLimitReached service.policy.maxToolRoundTrips round.calls.length)
        finish true
  else finish false

/-- `stream_turn`: its value is the program of the event stream. -/
def streamTurn (request : ChatTurnRequest) : Turn (Turn Unit) := do
  let context ← service.prepareTurn request
  return service.streamTurnLoop context service.policy.maxToolRoundTrips
    context.conversationMessages [context.userMessage] []

/-- `stream_turn` with its stream polled to the end. -/
def streamTurnToEnd (request : ChatTurnRequest) : Turn Unit := do
  let stream ← service.streamTurn request
  stream

end ChatService

end Fiddlesticks.Chat

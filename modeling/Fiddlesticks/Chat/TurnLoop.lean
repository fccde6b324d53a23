import Fiddlesticks.Chat.Service

/-!
# The turn loop

What a turn is, whichever of the two entry points runs it: ask the model, commit when no tool is
to be run, otherwise run the tools and ask again with their results. A `TurnMode` says how a
round is asked, how tools are run and how the result is delivered. `run_turn` and `stream_turn`
are the two modes of this one loop (`runTurn_eq`, `streamTurnToEnd_eq`).
-/

namespace Fiddlesticks.Chat

open Effect Provider Tooling

/-- What one model round contributes to a turn. -/
structure Round where
  assistantMessage : String
  toolCalls : List ToolCall
  stopReason : StopReason
  usage : TokenUsage

/-- A way of running turns. -/
structure TurnMode (α : Type) where
  streaming : Bool
  askModel : ProviderId → ModelRequest → Turn Round
  executeTools : SessionId → List ToolCall → Turn (List ToolResult)
  limitReached : (maxRoundTrips pendingToolCalls : Nat) → Turn Unit
  deliver : ChatTurnResult → Turn α

/-- The message a round adds to the conversation. -/
def Round.assistant (round : Round) : Message :=
  ⟨.assistant, round.assistantMessage⟩

/-- The result of a turn whose last round this is. -/
def Round.result (round : Round) (sessionId : SessionId) (limitReached : Bool) : ChatTurnResult :=
  { sessionId, assistantMessage := round.assistantMessage, toolCalls := round.toolCalls,
    stopReason := round.stopReason, usage := round.usage, toolRoundLimitReached := limitReached }

/-- Commit the messages of a turn and deliver its result. -/
def finishTurn {α : Type} (mode : TurnMode α) (sessionId : SessionId) (persisted : List Message)
    (result : ChatTurnResult) : Turn α := do
  appendMessages sessionId persisted
  mode.deliver result

/-- The round loop of a turn, with `remaining` tool rounds left. -/
def turnLoop {α : Type} (mode : TurnMode α) (service : ChatService) (context : TurnContext)
    (remaining : Nat) (conversation persisted : List Message) (toolResults : List ToolResult) :
    Turn α := do
  let request ← buildRequest context.session.model conversation context.temperature
    context.maxTokens mode.streaming toolResults
  let round ← mode.askModel context.session.provider request
  if service.hasToolRuntime && !round.toolCalls.isEmpty then
    match remaining with
    | remaining + 1 => do
        let toolResults ← mode.executeTools context.session.id round.toolCalls
        turnLoop mode service context remaining (conversation ++ [round.assistant])
          (persisted ++ [round.assistant]) toolResults
    | 0 => do
        mode.limitReached service.policy.maxToolRoundTrips round.toolCalls.length
        finishTurn mode context.session.id (persisted ++ [round.assistant])
          (round.result context.session.id true)
  else
    finishTurn mode context.session.id (persisted ++ [round.assistant])
      (round.result context.session.id false)

namespace ChatService

variable (service : ChatService)

/-! ## Turns that wait for whole responses -/

/-- The round a response stands for. -/
def roundOfResponse (response : ModelResponse) : Round :=
  { assistantMessage := (collectOutput response.output).1
    toolCalls := (collectOutput response.output).2
    stopReason := response.stopReason
    usage := response.usage }

/-- How `run_turn` runs a round. -/
def runMode : TurnMode ChatTurnResult :=
  { streaming := false
    askModel := fun provider request =>
      roundOfResponse <$> service.completeWithRetry provider request
    executeTools
    limitReached := fun _ _ => return ()
    deliver := fun result => return result }

/-- A round of `run_turn` is a round of the loop, entered after its response has come in. -/
theorem runTurnLoop_eq (context : TurnContext) (remaining : Nat)
    (conversation persisted : List Message) (toolResults : List ToolResult) :
    (do
      let request ← buildRequest context.session.model conversation context.temperature
        context.maxTokens false toolResults
      let response ← service.completeWithRetry context.session.provider request
      service.runTurnLoop context remaining conversation persisted response) =
      turnLoop service.runMode service context remaining conversation persisted toolResults := by
  induction remaining generalizing conversation persisted toolResults with
  | zero =>
      rw [turnLoop]
      refine bind_congr fun request => ?_
      rw [runMode, bind_map_left]
      refine bind_congr fun response => ?_
      rw [runTurnLoop]
      rfl
  | succ remaining ih =>
      rw [turnLoop]
      simp only [← ih]
      refine bind_congr fun request => ?_
      rw [runMode, bind_map_left]
      refine bind_congr fun response => ?_
      rw [runTurnLoop]
      rfl

/-- `run_turn` is the turn loop in its mode. -/
theorem runTurn_eq (request : ChatTurnRequest) :
    service.runTurn request =
      if request.options.stream then
        throw (.invalidRequest "use stream_turn for streaming requests")
      else service.prepareTurn request >>= fun context =>
        turnLoop service.runMode service context service.policy.maxToolRoundTrips
          context.conversationMessages [context.userMessage] [] := by
  rw [runTurn]
  split
  · rfl
  · simp only [← runTurnLoop_eq]

/-! ## Turns that stream -/

/-- The round a finished stream stands for. -/
def StreamRound.toRound (round : StreamRound) : Round :=
  { assistantMessage := round.assistantText
    toolCalls := round.calls
    stopReason := round.stopReason
    usage := round.usage }

/-- How `stream_turn` runs a round. -/
def streamMode : TurnMode Unit :=
  { streaming := true
    askModel := fun provider request => do
      let events ← service.acquireStream provider request
      StreamRound.toRound <$> consumeEvents {} events
    executeTools := streamTools
    limitReached := fun maxRoundTrips pendingToolCalls =>
      yieldEvent (.toolRoundLimitReached maxRoundTrips pendingToolCalls)
    deliver := fun result => yieldEvent (.turnComplete result) }

/-- `stream_turn` retries its requests as `execute_with_retry` does. -/
theorem streamMode_askModel (provider : ProviderId) (request : ModelRequest) :
    service.streamMode.askModel provider request = (do
      let events ← orElseRaise (fun error => (ChatError.ofProvider error).withPhase .provider)
        (executeWithRetry (fun event => ask (.hook event)) (fun delay => ask (.sleep delay))
          provider "stream" service.policy.providerRetryPolicy (fun _ => ask (.stream request)))
      StreamRound.toRound <$> consumeEvents {} events) := by
  rw [← service.acquireStream_eq]
  rfl

/-- A round of `stream_turn` is a round of the loop. -/
theorem streamTurnLoop_eq (context : TurnContext) (remaining : Nat)
    (conversation persisted : List Message) (toolResults : List ToolResult) :
    service.streamTurnLoop context remaining conversation persisted toolResults =
      turnLoop service.streamMode service context remaining conversation persisted
        toolResults := by
  induction remaining generalizing conversation persisted toolResults with
  | zero =>
      rw [turnLoop]
      simp only [streamMode, streamTurnLoop, bind_map_left, bind_assoc, StreamRound.toRound]
      rfl
  | succ remaining ih =>
      rw [turnLoop]
      simp only [streamTurnLoop, ih]
      simp only [streamMode, bind_map_left, bind_assoc, StreamRound.toRound]
      rfl

/-- `stream_turn`, polled to the end, is the turn loop in its mode. -/
theorem streamTurnToEnd_eq (request : ChatTurnRequest) :
    service.streamTurnToEnd request = service.prepareTurn request >>= fun context =>
      turnLoop service.streamMode service context service.policy.maxToolRoundTrips
        context.conversationMessages [context.userMessage] [] := by
  simp only [streamTurnToEnd, streamTurn, bind_assoc, pure_bind, streamTurnLoop_eq]

end ChatService

end Fiddlesticks.Chat

import Fiddlesticks.Chat.TurnLog

/-!
# A deterministic environment of turns

A provider whose answers depend on the request alone, a tool runtime that may depend on the calls
it has executed before, and a store that never fails. The state of the environment is what an
observer of the turn sees.
-/

namespace Fiddlesticks.Chat

open Effect Provider Tooling

/-- `q` with the stream flag ignored. -/
def plain (request : ModelRequest) : ModelRequest :=
  { request with options.stream := false }

/-- A provider, a tool runtime and the stored transcripts. -/
structure TurnEnvironment where
  complete : ModelRequest → ModelResponse
  stream : ModelRequest → List StreamEvent
  execute : List ToolCall → ToolCall → ToolExecutionContext → Except ToolError ToolExecutionResult
  prior : SessionId → List Message

/-- What an observer sees of a turn: the executed calls, the tool results of each provider request,
the messages appended to the store and the result of a `TurnComplete` event. -/
structure Observed where
  executed : List ToolCall := []
  sent : List (List ToolResult) := []
  appended : List (SessionId × List Message) := []
  delivered : Option ChatTurnResult := none
  deriving DecidableEq

/-- The answers of the environment and what they add to the observation. -/
def TurnEnvironment.handle (env : TurnEnvironment) :
    (op : ChatOp) → Observed → Option (op.Answer × Observed)
  | .loadMessages sessionId, seen => some (.ok (env.prior sessionId), seen)
  | .appendMessages sessionId messages, seen =>
      some (.ok (), { seen with appended := seen.appended ++ [(sessionId, messages)] })
  | .complete request, seen =>
      some (.ok (env.complete (plain request)),
        { seen with sent := seen.sent ++ [request.toolResults] })
  | .stream request, seen =>
      some (.ok ((env.stream (plain request)).map .ok),
        { seen with sent := seen.sent ++ [request.toolResults] })
  | .execute call context, seen =>
      some (env.execute seen.executed call context,
        { seen with executed := seen.executed ++ [call] })
  | .yield (.turnComplete result), seen => some ((), { seen with delivered := some result })
  | .yield _, seen => some ((), seen)
  | .hook _, seen => some ((), seen)
  | .sleep _, seen => some ((), seen)
  | .panic, _ => none

/-- The turn of a user who says hello. -/
def helloTurn : ChatTurnRequest :=
  { session := ⟨⟨"session"⟩, .openAi, "model", none⟩, userInput := "hello", options := {} }

end Fiddlesticks.Chat

import Fiddlesticks.Chat.Service
import Fiddlesticks.Harness.Types
import Fiddlesticks.Memory.Adapter

/-!
# The harness

`Harness` of the `fharness` crate: the initializer phase, the task iteration phase and what they
call. An execution is a program over the memory backend, the chat service's environment, the
pluggable strategies and the clock; every `await` of the source is one call.
-/

namespace Fiddlesticks.Harness

open Effect Chat Memory

/-! ## The environment of an execution -/

/-- The calls of `HarnessRuntimeHooks`, without the elapsed time. -/
inductive PhaseEvent where
  | phaseStart (phase : HarnessPhase) (sessionId : SessionId) (runId : String)
  | phaseSuccess (phase : HarnessPhase) (sessionId : SessionId) (runId : String)
  | phaseFailure (phase : HarnessPhase) (sessionId : SessionId) (runId : String)
      (error : HarnessError)
  deriving DecidableEq, Repr

/-- What an execution asks of its environment. -/
inductive HarnessOp where
  | memory (op : MemoryOp)
  | chat (op : ChatOp)
  | healthCheck (sessionId : SessionId) (initPlan : InitPlan)
  | select (featureList : List FeatureRecord)
  | validate (feature : FeatureRecord) (result : ChatTurnResult)
  | observe (event : ChatEvent)
  | now
  | hook (event : PhaseEvent)
  /-- The fuel of an unlimited batch has run out: the execution goes no further. -/
  | exhausted

/-- The answers to each operation. -/
abbrev HarnessOp.Answer : HarnessOp → Type
  | .memory op => op.Answer
  | .chat op => op.Answer
  | .healthCheck _ _ => Except HarnessError Unit
  | .select _ => Option FeatureRecord
  | .validate _ _ => Except HarnessError Bool
  | .observe _ => Unit
  | .now => SystemTime
  | .hook _ => Unit
  | .exhausted => Empty

/-- The signature of an execution. -/
abbrev HarnessSig : Sig := ⟨HarnessOp, HarnessOp.Answer⟩

/-- A fallible program of the harness. -/
abbrev Execution := ExceptT HarnessError (Prog HarnessSig)

/-- Await the answer to an operation. -/
def ask (op : HarnessOp) : Prog HarnessSig op.Answer :=
  .call op .pure

/-- `self.memory.operation(..).await?`. -/
def callMemory (op : MemoryOp) : Execution op.Value :=
  ExceptT.mk ((·.mapError HarnessError.ofMemory) <$> ask (.memory op))

/-- `SystemTime::now`. -/
def now : Execution SystemTime :=
  ExceptT.lift (ask .now)

/-- `ProgressEntry::new`. -/
def newProgressEntry (runId summary : String) : Execution ProgressEntry := do
  return { runId, summary, createdAt := ← now }

/-- `RunCheckpoint::started`. -/
def startedCheckpoint (runId : String) : Execution RunCheckpoint := do
  return { runId, startedAt := ← now, completedAt := none, status := .inProgress, note := none }

/-- Run to the outcome and keep going whatever it is. -/
def attempt {α : Type} (execution : Execution α) : Execution (Except HarnessError α) :=
  ExceptT.lift execution.run

/-! ## Feature lists -/

/-- `feature`. -/
def feature (id category description : String) (steps : List String) : FeatureRecord :=
  { id, category, description, steps, passes := false }

/-- `starter_feature_list`. -/
def starterFeatureList (objective : String) : List FeatureRecord :=
  [feature "initializer.artifacts" "functional"
      s!"Initializer artifacts exist for objective: {objective}"
      ["Create init plan metadata", "Create session manifest", "Create starter feature list"],
    feature "harness.baseline" "functional"
      "Baseline harness checks can run before task iterations"
      ["Run startup script", "Verify workspace status is readable",
        "Record baseline in progress log"],
    feature "chat.turn" "functional" "Chat turn execution path is available"
      ["Create a chat session", "Run one non-streaming turn", "Persist transcript messages"],
    feature "chat.streaming" "functional" "Streaming turn execution emits expected events"
      ["Run one streaming turn", "Observe text/tool events", "Observe terminal turn completion"],
    feature "tool.loop" "functional" "Tool loop executes and feeds results back into model"
      ["Register at least one tool", "Execute tool call during turn",
        "Confirm follow-up completion"],
    feature "quality.regression" "quality" "Regression test pass status is tracked"
      ["Run crate-level tests", "Capture failures in progress log",
        "Only mark feature pass after verification"]]

/-- The loop of `validate_feature_list`, with the ids seen so far. -/
def validateFeatures : List String → List FeatureRecord → Except HarnessError Unit
  | _, [] => .ok ()
  | ids, feature :: features =>
      if trim feature.id = "" then
        .error (.invalidRequest "feature_list entries require non-empty id")
      else if feature.id ∈ ids then
        .error (.invalidRequest
          s!"feature_list contains duplicate id '{feature.id}': ids must be unique")
      else if trim feature.description = "" then
        .error (.invalidRequest s!"feature '{feature.id}' must include a non-empty description")
      else if feature.steps.isEmpty then
        .error (.invalidRequest
          s!"feature '{feature.id}' must include at least one validation step")
      else if feature.passes then
        .error (.invalidRequest
          s!"feature '{feature.id}' cannot start with passes=true during initializer phase")
      else validateFeatures (feature.id :: ids) features

/-- `validate_feature_list`. -/
def validateFeatureList (featureList : List FeatureRecord) : Except HarnessError Unit :=
  if featureList.isEmpty then
    .error (.invalidRequest "feature_list must contain at least one feature")
  else validateFeatures [] featureList

/-- `build_feature_prompt`. -/
def buildFeaturePrompt (feature : FeatureRecord) (objective : String) : String :=
  let steps := "\n".intercalate (feature.steps.map fun step => s!"- {step}")
  s!"Objective: {objective}\n\nWork on one feature incrementally and leave a clean handoff.\n\n" ++
    s!"Feature: {feature.id}\nCategory: {feature.category}\n" ++
    s!"Description: {feature.description}\nValidation steps:\n{steps}"

/-- `all_required_features_passed`. -/
def allRequiredFeaturesPassed (featureList : List FeatureRecord) : Bool :=
  !featureList.isEmpty && featureList.all (·.passes)

/-! ## The harness -/

/-- A chat service, and whether its conversation store is the harness's memory, as
`HarnessBuilder::build` arranges, or another one. -/
structure HarnessChat where
  service : ChatService
  storesInMemory : Bool
  deriving DecidableEq

end Fiddlesticks.Harness

open Fiddlesticks.Harness in
/-- `Harness`. The memory, the strategies and the hooks are the environment of its programs. -/
structure Fiddlesticks.Harness where
  chat : Option HarnessChat
  runPolicy : RunPolicy
  runPolicyValid : runPolicy.validate = .ok ()
  schemaVersion : UInt32
  harnessVersion : String

namespace Fiddlesticks.Harness

open Effect Chat Memory

/-- `Harness::new`. -/
def new : Harness :=
  { chat := none, runPolicy := .default, runPolicyValid := RunPolicy.default_valid,
    schemaVersion := 1, harnessVersion := "v0" }

/-- `Harness::default_init_plan`. -/
def defaultInitPlan : InitPlan :=
  ⟨[.command "git" ["status", "--short", "--branch"],
    .command "git" ["log", "--oneline", "-20"]]⟩

/-! ## Chat turns -/

/-- What an operation of the chat service becomes inside a harness. -/
def chatOp (storesInMemory : Bool) : (op : ChatOp) → Prog HarnessSig op.Answer
  | .loadMessages sessionId =>
      if storesInMemory then
        (·.mapError memoryErrorToChatError) <$> ask (.memory (.loadTranscriptMessages sessionId))
      else ask (.chat (.loadMessages sessionId))
  | .appendMessages sessionId messages =>
      if storesInMemory then
        (·.mapError memoryErrorToChatError) <$>
          ask (.memory (.appendTranscriptMessages sessionId messages))
      else ask (.chat (.appendMessages sessionId messages))
  | op => ask (.chat op)

/-- A program of the chat service inside a harness. -/
def chatTurn {α : Type} (chat : HarnessChat) (turn : Turn α) : Execution α :=
  ExceptT.mk ((·.mapError HarnessError.ofChat) <$> turn.run.translate (chatOp chat.storesInMemory))

/-- Hand an event to the observer, if there is one. -/
def observe (observed : Bool) (event : ChatEvent) : Prog HarnessSig Unit :=
  if observed then ask (.observe event) else .pure ()

/-- The `final_result` of `execute_turn` after an event. -/
def keepResult (finalResult : Option ChatTurnResult) : ChatEvent → Option ChatTurnResult
  | .turnComplete result => some result
  | _ => finalResult

/-- The loop of `execute_turn` over the items of a turn's stream. -/
def followStream (chat : HarnessChat) (observed : Bool) :
    Option ChatTurnResult → Prog ChatSig (Except ChatError Unit) →
      Prog HarnessSig (Except HarnessError ChatTurnResult)
  | some result, .pure (.ok _) => .pure (.ok result)
  | none, .pure (.ok _) => .pure (.error (.chat "stream ended without TurnComplete event"))
  | _, .pure (.error error) => .pure (.error (.ofChat error))
  | finalResult, .call (.yield event) next => do
      observe observed event
      followStream chat observed (keepResult finalResult event) (next ())
  | finalResult, .call op next => do
      let answer ← chatOp chat.storesInMemory op
      followStream chat observed finalResult (next answer)

/-- `execute_turn`. -/
def executeTurn (chat : HarnessChat) (turnRequest : ChatTurnRequest) (observed : Bool) :
    Execution ChatTurnResult :=
  if turnRequest.options.stream then do
    let stream ← chatTurn chat (chat.service.streamTurn turnRequest)
    ExceptT.mk (followStream chat observed none stream.run)
  else chatTurn chat (chat.service.runTurn turnRequest)

/-- A turn in two parts inside a harness. -/
theorem chatTurn_bind {α β : Type} (chat : HarnessChat) (turn : Turn α) (rest : α → Turn β) :
    chatTurn chat (turn >>= rest) =
      chatTurn chat turn >>= fun value => chatTurn chat (rest value) := by
  refine ExceptT.ext ?_
  show _ <$> Prog.translate _ (turn.run >>= _) = (_ <$> Prog.translate _ turn.run) >>= _
  rw [Prog.translate_bind, map_bind, bind_map_left]
  refine bind_congr fun result => ?_
  cases result with
  | ok value => rfl
  | error error => rfl

/-- A streamed turn prepares and then follows its loop. -/
theorem executeTurn_stream (chat : HarnessChat) (turnRequest : ChatTurnRequest) (observed : Bool)
    (hstream : turnRequest.options.stream = true) :
    executeTurn chat turnRequest observed =
      chatTurn chat (chat.service.prepareTurn turnRequest) >>= fun context =>
        ExceptT.mk (followStream chat observed none
          (chat.service.streamTurnLoop context chat.service.policy.maxToolRoundTrips
            context.conversationMessages [context.userMessage] []).run) := by
  rw [executeTurn, if_pos hstream, ChatService.streamTurn, chatTurn_bind, bind_assoc]
  rfl

end Fiddlesticks.Harness

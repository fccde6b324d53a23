import Fiddlesticks.Harness.Service

/-!
# The phases of the harness

`run_initializer`, `run_task_iteration` and `run`, with the loops of a task iteration over
features and over the turns of one feature.
-/

namespace Fiddlesticks.Harness

open Effect Chat Memory

/-- Report the phase to the hooks around its execution. -/
def withHooks {α : Type} (phase : HarnessPhase) (sessionId : SessionId) (runId : String)
    (execution : Execution α) : Execution α := do
  ExceptT.lift (ask (.hook (.phaseStart phase sessionId runId)))
  let result ← attempt execution
  match result with
  | .ok _ => ExceptT.lift (ask (.hook (.phaseSuccess phase sessionId runId)))
  | .error error => ExceptT.lift (ask (.hook (.phaseFailure phase sessionId runId error)))
  liftM result

variable (harness : Harness)

/-! ## The initializer -/

/-- The manifest an initializer request asks for. -/
def initialManifest (request : InitializerRequest) : SessionManifest :=
  { SessionManifest.new request.sessionId request.activeBranch request.currentObjective with
    schemaVersion := harness.schemaVersion
    harnessVersion := harness.harnessVersion
    initPlan := some (request.initPlan.getD defaultInitPlan) }

/-- `run_initializer_inner`. -/
def runInitializerInner (request : InitializerRequest) : Execution InitializerResult := do
  if trim request.currentObjective = "" then
    throw (.invalidRequest "current_objective must not be empty")
  let featureList :=
    if request.featureList.isEmpty then starterFeatureList request.currentObjective
    else request.featureList
  liftM (validateFeatureList featureList)
  let progressSummary :=
    if trim request.progressSummary = "" then
      s!"Initializer scaffold created for objective: {request.currentObjective}"
    else request.progressSummary
  let entry ← newProgressEntry request.runId progressSummary
  let checkpoint ← startedCheckpoint request.runId
  let created ← callMemory (.initializeSessionIfMissing request.sessionId
    (harness.initialManifest request) featureList (some entry) (some checkpoint))
  let bootstrap ← callMemory (.loadBootstrapState request.sessionId)
  match bootstrap.manifest with
  | none => throw (.memory "manifest missing after initializer run")
  | some manifest =>
      return { sessionId := manifest.sessionId, created, schemaVersion := manifest.schemaVersion,
               harnessVersion := manifest.harnessVersion,
               featureCount := bootstrap.featureList.length }

/-- `run_initializer`. -/
def runInitializer (request : InitializerRequest) : Execution InitializerResult :=
  withHooks .initializer request.sessionId request.runId (harness.runInitializerInner request)

/-! ## The task iteration -/

/-- What a task iteration has done so far. -/
structure Iteration where
  processedFeatureIds : List String := []
  validatedFeatureIds : List String := []
  selectedFeatureId : Option String := none
  lastAssistantMessage : Option String := none
  deriving DecidableEq, Repr

/-- The result of a task iteration that ends here. -/
def Iteration.result (done : Iteration) (request : TaskIterationRequest)
    (validated noPendingFeatures : Bool) (assistantMessage : Option String) :
    TaskIterationResult :=
  { sessionId := request.session.id, selectedFeatureId := done.selectedFeatureId,
    processedFeatureIds := done.processedFeatureIds,
    validatedFeatureIds := done.validatedFeatureIds,
    processedFeatureCount := done.processedFeatureIds.length, validated, noPendingFeatures,
    usedStream := request.stream, assistantMessage }

/-- How the turns for one feature end: with the result of the iteration, or by going on to the
next feature. -/
inductive FeatureEnd where
  | returned (result : TaskIterationResult)
  | next (done : Iteration)

/-- The request of a turn that works on a feature. -/
def turnRequest (request : TaskIterationRequest) (manifest : SessionManifest)
    (feature : FeatureRecord) : ChatTurnRequest :=
  { session := request.session
    userInput := request.promptOverride.getD
      (buildFeaturePrompt feature manifest.currentObjective)
    options := { stream := request.stream } }

/-- The loop over the turns for one feature. The count `turnsLeft` is
`max_turns_per_run - turns_used`. -/
def runTurns (chat : HarnessChat) (request : TaskIterationRequest) (observed : Bool)
    (manifest : SessionManifest) (feature : FeatureRecord) :
    Nat → Nat → Iteration → Execution FeatureEnd
  | 0, _, done => return .next done
  | turnsLeft + 1, retriesRemaining, done => do
      match ← attempt (executeTurn chat (turnRequest request manifest feature) observed) with
      | .error error =>
          if harness.runPolicy.failFast.onChatError || retriesRemaining == 0 || turnsLeft == 0 then
            throw error
          else
            runTurns chat request observed manifest feature turnsLeft (retriesRemaining - 1) done
      | .ok turnResult => do
          let validated ← ExceptT.mk (ask (.validate feature turnResult))
          if validated then
            callMemory (.updateFeaturePass request.session.id feature.id true)
            return .next { done with
              validatedFeatureIds := done.validatedFeatureIds ++ [feature.id]
              lastAssistantMessage := some turnResult.assistantMessage }
          else if harness.runPolicy.failFast.onValidationFailure || retriesRemaining == 0 ||
              turnsLeft == 0 then
            return .returned (done.result request false false (some turnResult.assistantMessage))
          else
            runTurns chat request observed manifest feature turnsLeft (retriesRemaining - 1)
              { done with lastAssistantMessage := some turnResult.assistantMessage }

/-- The loop over the features of a run. Under a feature limit the count `remaining` is what is
left of it; an unlimited batch runs as far as its fuel. -/
def runFeatures (chat : HarnessChat) (request : TaskIterationRequest) (observed : Bool)
    (manifest : SessionManifest) : Nat → Iteration → Execution TaskIterationResult
  | 0, done =>
      match harness.runPolicy.maxFeaturesPerRunLimit with
      | none => do nomatch ← ExceptT.lift (ask .exhausted)
      | some _ => do
          let bootstrap ← callMemory (.loadBootstrapState request.session.id)
          return done.result request true (allRequiredFeaturesPassed bootstrap.featureList)
            done.lastAssistantMessage
  | remaining + 1, done => do
      let bootstrap ← callMemory (.loadBootstrapState request.session.id)
      if allRequiredFeaturesPassed bootstrap.featureList then
        return done.result request true true done.lastAssistantMessage
      else
        match ← ExceptT.lift (ask (.select bootstrap.featureList)) with
        | none =>
            throw (.validation
              "feature selector returned no work before required features reached passes=true")
        | some feature => do
            let done := { done with
              processedFeatureIds := done.processedFeatureIds ++ [feature.id]
              selectedFeatureId := some feature.id }
            match ← harness.runTurns chat request observed manifest feature
                harness.runPolicy.maxTurnsPerRun harness.runPolicy.retryBudget done with
            | .returned result => return result
            | .next done => runFeatures chat request observed manifest remaining done

/-- `run_task_iteration_inner`. -/
def runTaskIterationInner (fuel : Nat) (chat : HarnessChat) (request : TaskIterationRequest)
    (observed : Bool) : Execution TaskIterationResult := do
  let bootstrap ← callMemory (.loadBootstrapState request.session.id)
  match bootstrap.manifest with
  | none => throw (.notReady "session is not initialized; run initializer first")
  | some manifest => do
      let initPlan := manifest.initPlan.getD defaultInitPlan
      match ← ExceptT.lift (ask (.healthCheck request.session.id initPlan)) with
      | .ok () => pure ()
      | .error error => if harness.runPolicy.failFast.onHealthCheckError then throw error
      if allRequiredFeaturesPassed bootstrap.featureList then
        return Iteration.result {} request true true none
      else
        harness.runFeatures chat request observed manifest
          (harness.runPolicy.maxFeaturesPerRunLimit.getD fuel) {}

/-- The status and the note that a finished task iteration leaves. -/
def handoffNote (outcome : Except HarnessError TaskIterationResult) : RunStatus × String :=
  match outcome with
  | .ok value =>
      let processed := value.processedFeatureCount
      let validated := value.validatedFeatureIds.length
      if value.noPendingFeatures then
        (.succeeded, s!"All required features pass=true in feature_list; completion gate " ++
          s!"satisfied (processed={processed}, validated={validated})")
      else if value.validated then
        (.succeeded, s!"Validated {validated} feature(s) this run (processed={processed}); " ++
          "remaining required features still pending")
      else
        let id := value.selectedFeatureId.getD "unknown"
        (.failed, s!"Feature '{id}' was not validated; processed={processed} " ++
          s!"validated={validated} and left failing for next run")
  | .error error => (.failed, s!"Run failed: {error.display}")

/-- `record_final_handoff`. -/
def recordFinalHandoff (request : TaskIterationRequest) (startedAt : SystemTime)
    (status : RunStatus) (note : String) : Execution Unit := do
  let completedAt ← now
  callMemory (.recordRunCheckpoint request.session.id
    { runId := request.runId, startedAt, completedAt := some completedAt, status,
      note := some note })
  let entry ← newProgressEntry request.runId note
  callMemory (.appendProgressEntry request.session.id entry)

/-- `run_task_iteration_with_observer_inner`. -/
def runTaskIterationWithObserverInner (fuel : Nat) (request : TaskIterationRequest)
    (observed : Bool) : Execution TaskIterationResult :=
  match harness.chat with
  | none => throw (.notReady "chat service is not configured in harness")
  | some chat => do
      let startedAt ← now
      let checkpoint ← startedCheckpoint request.runId
      callMemory (.recordRunCheckpoint request.session.id checkpoint)
      let result ← attempt (harness.runTaskIterationInner fuel chat request observed)
      let (status, note) := handoffNote result
      recordFinalHandoff request startedAt status note
      liftM result

/-- `run_task_iteration_with_observer`. Without an observer it is `run_task_iteration`. -/
def runTaskIteration (fuel : Nat) (request : TaskIterationRequest) (observed : Bool) :
    Execution TaskIterationResult :=
  withHooks .taskIteration request.session.id request.runId
    (harness.runTaskIterationWithObserverInner fuel request observed)

/-! ## Choosing the phase -/

/-- `select_phase`. -/
def selectPhase (sessionId : SessionId) : Execution HarnessPhase := do
  return if ← callMemory (.isInitialized sessionId) then .taskIteration else .initializer

/-- The initializer request of a runtime request. -/
def initializerRequest (request : RuntimeRunRequest) : InitializerRequest :=
  let initializer := InitializerRequest.new request.session.id request.runId
    request.currentObjective
  { initializer with
    activeBranch := request.activeBranch
    initPlan := request.initPlan
    featureList := request.featureList
    progressSummary := request.progressSummary.getD initializer.progressSummary }

/-- The task iteration request of a runtime request. -/
def taskIterationRequest (request : RuntimeRunRequest) : TaskIterationRequest :=
  { session := request.session, runId := request.runId, stream := request.stream,
    promptOverride := request.promptOverride }

/-- `run_with_observer`. Without an observer it is `run`. -/
def runWithObserver (fuel : Nat) (request : RuntimeRunRequest) (observed : Bool) :
    Execution RuntimeRunOutcome := do
  match ← selectPhase request.session.id with
  | .initializer => return .initializer (← harness.runInitializer (initializerRequest request))
  | .taskIteration =>
      return .taskIteration
        (← harness.runTaskIteration fuel (taskIterationRequest request) observed)

/-! ## Calls -/

/-- A call of the harness. A run that is not observed has no observer of its chat events. -/
inductive HarnessCall where
  | runInitializer (request : InitializerRequest)
  | runTaskIteration (fuel : Nat) (request : TaskIterationRequest) (observed : Bool)
  | run (fuel : Nat) (request : RuntimeRunRequest) (observed : Bool)

namespace HarnessCall

/-- The session of a call. -/
def sessionId : HarnessCall → SessionId
  | .runInitializer request => request.sessionId
  | .runTaskIteration _ request _ => request.session.id
  | .run _ request _ => request.session.id

/-- The program of a call. -/
def program (harness : Harness) : HarnessCall → Execution RuntimeRunOutcome
  | .runInitializer request => do return .initializer (← harness.runInitializer request)
  | .runTaskIteration fuel request observed => do
      return .taskIteration (← harness.runTaskIteration fuel request observed)
  | .run fuel request observed => harness.runWithObserver fuel request observed

end HarnessCall

end Fiddlesticks.Harness

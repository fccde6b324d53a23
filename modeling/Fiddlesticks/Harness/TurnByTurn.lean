import Fiddlesticks.Harness.Phases

/-!
# A task iteration turn by turn

The task iteration over a signature in which a whole chat turn is one operation. Two more operations
mark the points of the turn loop that should not be reached. Expanding the turns and dropping the
marks gives the task iteration back.
-/

namespace Fiddlesticks.Harness

open Effect Chat Memory

/-! ## The signature -/

/-- What a task iteration asks for when a chat turn is one operation. -/
inductive TurnOp where
  | turn (chat : HarnessChat) (turnRequest : ChatTurnRequest) (observed : Bool)
  | other (op : HarnessOp)
  /-- The loop over the turns for a feature is left by its condition. -/
  | turnsUsedUp
  /-- A retry is taken where none is left. -/
  | noRetryLeft

/-- The answers to each operation. -/
abbrev TurnOp.Answer : TurnOp → Type
  | .turn _ _ _ => Except HarnessError ChatTurnResult
  | .other op => op.Answer
  | .turnsUsedUp => Unit
  | .noRetryLeft => Unit

/-- The signature of a task iteration turn by turn. -/
abbrev TurnSig : Sig := ⟨TurnOp, TurnOp.Answer⟩

/-- A fallible program turn by turn. -/
abbrev TurnExecution := ExceptT HarnessError (Prog TurnSig)

/-- What an operation stands for. -/
def TurnOp.expand : (op : TurnOp) → Prog HarnessSig op.Answer
  | .turn chat turnRequest observed => (executeTurn chat turnRequest observed).run
  | .other op => ask op
  | .turnsUsedUp => .pure ()
  | .noRetryLeft => .pure ()

/-- The program with its turns expanded and its marks dropped. -/
def expand {α : Type} (execution : TurnExecution α) : Execution α :=
  ExceptT.mk (execution.run.translate TurnOp.expand)

/-- An operation other than a turn. -/
def askOther (op : HarnessOp) : Prog TurnSig op.Answer :=
  .call (.other op) .pure

/-- A program without turns. -/
def plain {α : Type} (execution : Execution α) : TurnExecution α :=
  ExceptT.mk (execution.run.translate askOther)

/-- `execute_turn` as one operation. -/
def takeTurn (chat : HarnessChat) (turnRequest : ChatTurnRequest) (observed : Bool) :
    TurnExecution (Except HarnessError ChatTurnResult) :=
  ExceptT.lift (.call (.turn chat turnRequest observed) .pure)

/-- `retries_remaining -= 1`. -/
def takeRetry : Nat → TurnExecution Nat
  | 0 => do
      ExceptT.lift (.call .noRetryLeft .pure)
      return 0
  | retriesRemaining + 1 => return retriesRemaining

/-- A program without turns asks for what it asked for before. -/
theorem plain_uses {α : Type} {P : HarnessOp → Prop} {p : Execution α} (hp : Prog.Uses P p.run) :
    Prog.Uses (fun op : TurnOp => ∃ other, op = .other other ∧ P other) (plain p).run :=
  hp.translate fun op hop => Prog.uses_request (S := TurnSig) ⟨op, rfl, hop⟩

/-- A retry that is left is taken. -/
theorem takeRetry_of_ne_zero {retriesRemaining : Nat} (h : retriesRemaining ≠ 0) :
    takeRetry retriesRemaining = pure (retriesRemaining - 1) := by
  cases retriesRemaining with
  | zero => exact absurd rfl h
  | succ retriesRemaining => rfl

/-! ## The loops -/

namespace TurnByTurn

variable (harness : Harness)

/-- `Harness.runTurns`. -/
def runTurns (chat : HarnessChat) (request : TaskIterationRequest) (observed : Bool)
    (manifest : SessionManifest) (feature : FeatureRecord) :
    Nat → Nat → Iteration → TurnExecution FeatureEnd
  | 0, _, done => do
      ExceptT.lift (.call .turnsUsedUp .pure)
      return .next done
  | turnsLeft + 1, retriesRemaining, done => do
      match ← takeTurn chat (turnRequest request manifest feature) observed with
      | .error error =>
          if harness.runPolicy.failFast.onChatError || retriesRemaining == 0 || turnsLeft == 0 then
            throw error
          else do
            let retriesRemaining ← takeRetry retriesRemaining
            runTurns chat request observed manifest feature turnsLeft retriesRemaining done
      | .ok turnResult => do
          let validated ← plain (ExceptT.mk (ask (.validate feature turnResult)))
          if validated then
            plain (callMemory (.updateFeaturePass request.session.id feature.id true))
            return .next { done with
              validatedFeatureIds := done.validatedFeatureIds ++ [feature.id]
              lastAssistantMessage := some turnResult.assistantMessage }
          else if harness.runPolicy.failFast.onValidationFailure || retriesRemaining == 0 ||
              turnsLeft == 0 then
            return .returned (done.result request false false (some turnResult.assistantMessage))
          else do
            let retriesRemaining ← takeRetry retriesRemaining
            runTurns chat request observed manifest feature turnsLeft retriesRemaining
              { done with lastAssistantMessage := some turnResult.assistantMessage }

/-- `Harness.runFeatures`. -/
def runFeatures (chat : HarnessChat) (request : TaskIterationRequest) (observed : Bool)
    (manifest : SessionManifest) : Nat → Iteration → TurnExecution TaskIterationResult
  | 0, done =>
      match harness.runPolicy.maxFeaturesPerRunLimit with
      | none => do nomatch ← plain (ExceptT.lift (ask .exhausted))
      | some _ => do
          let bootstrap ← plain (callMemory (.loadBootstrapState request.session.id))
          return done.result request true (allRequiredFeaturesPassed bootstrap.featureList)
            done.lastAssistantMessage
  | remaining + 1, done => do
      let bootstrap ← plain (callMemory (.loadBootstrapState request.session.id))
      if allRequiredFeaturesPassed bootstrap.featureList then
        return done.result request true true done.lastAssistantMessage
      else
        match ← plain (ExceptT.lift (ask (.select bootstrap.featureList))) with
        | none =>
            throw (.validation
              "feature selector returned no work before required features reached passes=true")
        | some feature => do
            let done := { done with
              processedFeatureIds := done.processedFeatureIds ++ [feature.id]
              selectedFeatureId := some feature.id }
            match ← runTurns harness chat request observed manifest feature
                harness.runPolicy.maxTurnsPerRun harness.runPolicy.retryBudget done with
            | .returned result => return result
            | .next done => runFeatures chat request observed manifest remaining done

/-- `Harness.runTaskIterationInner`. -/
def runTaskIterationInner (fuel : Nat) (chat : HarnessChat) (request : TaskIterationRequest)
    (observed : Bool) : TurnExecution TaskIterationResult := do
  let bootstrap ← plain (callMemory (.loadBootstrapState request.session.id))
  match bootstrap.manifest with
  | none => throw (.notReady "session is not initialized; run initializer first")
  | some manifest => do
      let initPlan := manifest.initPlan.getD defaultInitPlan
      match ← plain (ExceptT.lift (ask (.healthCheck request.session.id initPlan))) with
      | .ok () => pure ()
      | .error error => if harness.runPolicy.failFast.onHealthCheckError then throw error
      if allRequiredFeaturesPassed bootstrap.featureList then
        return Iteration.result {} request true true none
      else
        runFeatures harness chat request observed manifest
          (harness.runPolicy.maxFeaturesPerRunLimit.getD fuel) {}

/-- `Harness.runTaskIterationWithObserverInner`. -/
def runTaskIterationWithObserverInner (fuel : Nat) (request : TaskIterationRequest)
    (observed : Bool) : TurnExecution TaskIterationResult :=
  match harness.chat with
  | none => throw (.notReady "chat service is not configured in harness")
  | some chat => do
      let startedAt ← plain now
      let checkpoint ← plain (startedCheckpoint request.runId)
      plain (callMemory (.recordRunCheckpoint request.session.id checkpoint))
      let result ← ExceptT.lift (runTaskIterationInner harness fuel chat request observed).run
      let (status, note) := handoffNote result
      plain (recordFinalHandoff request startedAt status note)
      liftM result

/-- `Harness.runTaskIteration`. -/
def runTaskIteration (fuel : Nat) (request : TaskIterationRequest) (observed : Bool) :
    TurnExecution TaskIterationResult := do
  plain (ExceptT.lift
    (ask (.hook (.phaseStart .taskIteration request.session.id request.runId))))
  let result ← ExceptT.lift (runTaskIterationWithObserverInner harness fuel request observed).run
  match result with
  | .ok _ =>
      plain (ExceptT.lift
        (ask (.hook (.phaseSuccess .taskIteration request.session.id request.runId))))
  | .error error =>
      plain (ExceptT.lift
        (ask (.hook (.phaseFailure .taskIteration request.session.id request.runId error))))
  liftM result

end TurnByTurn

/-! ## Expansion -/

section

variable {α β : Type}

/-- Returning expands to itself. -/
@[simp] theorem expand_pure (value : α) : expand (pure value) = pure value := rfl

/-- Failing expands to itself. -/
@[simp] theorem expand_throw (error : HarnessError) :
    expand (throw error : TurnExecution α) = throw error := rfl

/-- A sequence expands part by part. -/
@[simp] theorem expand_bind (execution : TurnExecution α) (f : α → TurnExecution β) :
    expand (execution >>= f) = expand execution >>= fun value => expand (f value) := by
  refine (Prog.translate_bind TurnOp.expand execution.run _).trans (bind_congr fun result => ?_)
  cases result with
  | ok value => rfl
  | error error => rfl

/-- Expansion undoes the embedding of programs without turns. -/
@[simp] theorem expand_plain (execution : Execution α) : expand (plain execution) = execution := by
  show Prog.translate TurnOp.expand (Prog.translate askOther execution.run) = execution.run
  induction execution.run with
  | pure value => rfl
  | call op next ih => exact Prog.call_congr ih

/-- An attempt expands to an attempt. -/
@[simp] theorem expand_lift (execution : TurnExecution α) :
    expand (ExceptT.lift execution.run) = attempt (expand execution) := by
  refine (Prog.translate_bind TurnOp.expand execution.run _).trans ?_
  rfl

/-- A pure outcome expands to itself. -/
@[simp] theorem expand_liftM (result : Except HarnessError α) :
    expand (liftM result) = liftM result := rfl

/-- Taking a turn expands to an attempt at `execute_turn`. -/
@[simp] theorem expand_takeTurn (chat : HarnessChat) (turnRequest : ChatTurnRequest)
    (observed : Bool) :
    expand (takeTurn chat turnRequest observed) =
      attempt (executeTurn chat turnRequest observed) := rfl

/-- Taking a retry leaves one less. -/
@[simp] theorem expand_takeRetry (retriesRemaining : Nat) :
    expand (takeRetry retriesRemaining) = pure (retriesRemaining - 1) := by
  cases retriesRemaining <;> rfl

end

variable (harness : Harness) (chat : HarnessChat) (request : TaskIterationRequest) (observed : Bool)
  (manifest : SessionManifest)

/-- The turns on a feature expand to the loop of `run_task_iteration_inner`. -/
theorem expand_runTurns (feature : FeatureRecord) (turnsLeft retriesRemaining : Nat)
    (done : Iteration) :
    expand (TurnByTurn.runTurns harness chat request observed manifest feature turnsLeft
        retriesRemaining done) =
      harness.runTurns chat request observed manifest feature turnsLeft retriesRemaining done := by
  induction turnsLeft generalizing retriesRemaining done with
  | zero => rfl
  | succ turnsLeft ih =>
      rw [TurnByTurn.runTurns, runTurns, expand_bind, expand_takeTurn]
      refine bind_congr fun turn => ?_
      cases turn with
      | error error =>
          dsimp only
          split
          · rfl
          · rw [expand_bind, expand_takeRetry, pure_bind, ih]
      | ok turnResult =>
          dsimp only
          rw [expand_bind, expand_plain]
          refine bind_congr fun validated => ?_
          split
          · rw [expand_bind, expand_plain]
            rfl
          · split
            · rfl
            · rw [expand_bind, expand_takeRetry, pure_bind, ih]

/-- The loop over the features expands to that of `run_task_iteration_inner`. -/
theorem expand_runFeatures (remaining : Nat) (done : Iteration) :
    expand (TurnByTurn.runFeatures harness chat request observed manifest remaining done) =
      harness.runFeatures chat request observed manifest remaining done := by
  induction remaining generalizing done with
  | zero =>
      rw [TurnByTurn.runFeatures, runFeatures]
      cases harness.runPolicy.maxFeaturesPerRunLimit with
      | none =>
          dsimp only
          rw [expand_bind, expand_plain]
          exact bind_congr fun never => nomatch never
      | some limit =>
          dsimp only
          rw [expand_bind, expand_plain]
          rfl
  | succ remaining ih =>
      rw [TurnByTurn.runFeatures, runFeatures, expand_bind, expand_plain]
      refine bind_congr fun bootstrap => ?_
      split
      · rfl
      · rw [expand_bind, expand_plain]
        refine bind_congr fun selected => ?_
        cases selected with
        | none => rfl
        | some feature =>
            dsimp only
            rw [expand_bind, expand_runTurns]
            refine bind_congr fun ending => ?_
            cases ending with
            | returned result => rfl
            | next done => exact ih done

/-- The whole expands to `run_task_iteration_inner`. -/
theorem expand_runTaskIterationInner (fuel : Nat) :
    expand (TurnByTurn.runTaskIterationInner harness fuel chat request observed) =
      harness.runTaskIterationInner fuel chat request observed := by
  rw [TurnByTurn.runTaskIterationInner, runTaskIterationInner, expand_bind, expand_plain]
  refine bind_congr fun bootstrap => ?_
  cases bootstrap.manifest with
  | none => rfl
  | some manifest =>
      dsimp only
      rw [expand_bind, expand_plain]
      refine bind_congr fun healthy => ?_
      have hrest : expand (if allRequiredFeaturesPassed bootstrap.featureList then
            pure (Iteration.result {} request true true none)
          else TurnByTurn.runFeatures harness chat request observed manifest
            (harness.runPolicy.maxFeaturesPerRunLimit.getD fuel) {}) =
          if allRequiredFeaturesPassed bootstrap.featureList then
            pure (Iteration.result {} request true true none)
          else harness.runFeatures chat request observed manifest
            (harness.runPolicy.maxFeaturesPerRunLimit.getD fuel) {} := by
        split
        · rfl
        · exact expand_runFeatures harness chat request observed manifest _ _
      rcases healthy with error | _
      · dsimp only
        split
        · rfl
        · exact hrest
      · exact hrest

/-- So it does with what is recorded before and after. -/
theorem expand_runTaskIterationWithObserverInner (fuel : Nat) :
    expand (TurnByTurn.runTaskIterationWithObserverInner harness fuel request observed) =
      harness.runTaskIterationWithObserverInner fuel request observed := by
  rw [TurnByTurn.runTaskIterationWithObserverInner, runTaskIterationWithObserverInner]
  cases harness.chat with
  | none => rfl
  | some chat =>
      dsimp only
      simp only [expand_bind, expand_plain, expand_lift, expand_runTaskIterationInner, expand_liftM]

/-- A task iteration is its turn-by-turn program with the turns expanded. -/
theorem expand_runTaskIteration (fuel : Nat) :
    expand (TurnByTurn.runTaskIteration harness fuel request observed) =
      harness.runTaskIteration fuel request observed := by
  rw [TurnByTurn.runTaskIteration, runTaskIteration, withHooks, expand_bind, expand_plain]
  refine bind_congr fun _ => ?_
  rw [expand_bind, expand_lift, expand_runTaskIterationWithObserverInner]
  refine bind_congr fun result => ?_
  cases result with
  | ok result =>
      dsimp only
      rw [expand_bind, expand_plain, expand_liftM]
  | error error =>
      dsimp only
      rw [expand_bind, expand_plain, expand_liftM]

end Fiddlesticks.Harness

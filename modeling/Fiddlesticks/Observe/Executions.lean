import Fiddlesticks.Effect.Accounts
import Fiddlesticks.Harness.Conduct

/-!
# Accounts of executions

What an execution of the harness does to an account that its turns and its other operations leave as
they find it: it opens a phase, works in it and closes it again.
-/

namespace Fiddlesticks.Observe

open Effect Prog Memory Harness

variable {α : Type}

/-- The operation is neither one of a turn nor a report of a phase. -/
def Plain : HarnessOp → Prop
  | .chat _ | .hook _ => False
  | _ => True

/-- An account of executions whose phases and turns each leave it as they find it. -/
structure PhaseAccount {A : Type} (account : Account HarnessSig A) (idle : A)
    (during : HarnessPhase → A) : Prop where
  start : ∀ phase sessionId runId,
    account idle (.hook (.phaseStart phase sessionId runId)) = some (during phase)
  success : ∀ phase sessionId runId,
    account (during phase) (.hook (.phaseSuccess phase sessionId runId)) = some idle
  failure : ∀ phase sessionId runId error,
    account (during phase) (.hook (.phaseFailure phase sessionId runId error)) = some idle
  plain : ∀ state op, Plain op → account state op = some state
  turn : ∀ phase chat turnRequest observed,
    Settles account (during phase) (executeTurn chat turnRequest observed).run

section Phases

variable {A : Type} {account : Account HarnessSig A} {idle : A} {during : HarnessPhase → A}
  {state : A}

/-- An execution of plain operations. -/
theorem plain_settles (h : PhaseAccount account idle during) {p : Prog HarnessSig α}
    (hp : Uses Plain p) : Settles account state p :=
  hp.settles fun op hop => h.plain state op hop

/-- A call on the memory is plain. -/
theorem callMemory_plain (op : MemoryOp) : Uses Plain (callMemory op).run :=
  uses_map _ (uses_request trivial)

/-- Reading the clock is plain. -/
theorem now_plain : Uses Plain now.run :=
  uses_map _ (uses_request trivial)

/-- The final handoff is plain. -/
theorem recordFinalHandoff_plain (request : TaskIterationRequest) (startedAt : SystemTime)
    (status : RunStatus) (note : String) :
    Uses Plain (recordFinalHandoff request startedAt status note).run := by
  refine uses_except_bind now_plain fun completedAt => ?_
  refine uses_except_bind (callMemory_plain _) fun _ => ?_
  exact uses_except_bind (uses_except_bind now_plain fun _ => uses_pure _) fun entry =>
    callMemory_plain _

variable (harness : Harness)

/-- What the initializer runs under its hooks is plain. -/
theorem runInitializerInner_plain (request : InitializerRequest) :
    Uses Plain (harness.runInitializerInner request).run := by
  rw [runInitializerInner]
  split
  · exact uses_pure _
  refine uses_except_bind (uses_pure _) fun _ => ?_
  dsimp only
  refine uses_except_bind (uses_except_bind now_plain fun _ => uses_pure _) fun entry => ?_
  refine uses_except_bind (uses_except_bind now_plain fun _ => uses_pure _) fun checkpoint => ?_
  refine uses_except_bind (callMemory_plain _) fun created => ?_
  refine uses_except_bind (callMemory_plain _) fun bootstrap => ?_
  cases BootstrapState.manifest bootstrap with
  | none => exact uses_pure _
  | some manifest => exact uses_pure _

/-- The turns on a feature are settled within their phase. -/
theorem runTurns_settles {phase : HarnessPhase} (h : PhaseAccount account idle during)
    (chat : HarnessChat) (request : TaskIterationRequest) (observed : Bool)
    (manifest : SessionManifest) (feature : FeatureRecord) (turnsLeft retriesRemaining : Nat)
    (done : Iteration) :
    Settles account (during phase) (harness.runTurns chat request observed manifest feature
      turnsLeft retriesRemaining done).run := by
  induction turnsLeft generalizing retriesRemaining done with
  | zero => exact settles_pure _
  | succ turnsLeft ih =>
      rw [runTurns]
      refine settles_except_bind (settles_map _ (h.turn phase chat _ observed)) fun turn => ?_
      cases turn with
      | error error =>
          dsimp only
          split
          · exact settles_pure _
          · exact ih _ _
      | ok turnResult =>
          refine settles_except_bind (plain_settles h (uses_request (S := HarnessSig) trivial))
            fun validated => ?_
          split
          · exact settles_except_bind (plain_settles h (callMemory_plain _))
              fun _ => settles_pure _
          · split
            · exact settles_pure _
            · exact ih _ _

/-- So is the loop over the features. -/
theorem runFeatures_settles {phase : HarnessPhase} (h : PhaseAccount account idle during)
    (chat : HarnessChat) (request : TaskIterationRequest) (observed : Bool)
    (manifest : SessionManifest) (remaining : Nat) (done : Iteration) :
    Settles account (during phase)
      (harness.runFeatures chat request observed manifest remaining done).run := by
  have hload : Settles account (during phase)
      (callMemory (.loadBootstrapState request.session.id)).run :=
    plain_settles h (callMemory_plain _)
  have hask (op : HarnessOp) (hop : Plain op) : Settles account (during phase)
      (ExceptT.lift (Harness.ask op) : Execution op.Answer).run :=
    plain_settles h (uses_map _ (uses_request hop))
  induction remaining generalizing done with
  | zero =>
      rw [runFeatures]
      split
      · exact settles_except_bind (hask _ trivial) fun answer => Empty.elim answer
      · exact settles_except_bind hload fun _ => settles_pure _
  | succ remaining ih =>
      rw [runFeatures]
      refine settles_except_bind hload fun bootstrap => ?_
      split
      · exact settles_pure _
      · refine settles_except_bind (hask _ trivial) fun selected => ?_
        cases selected with
        | none => exact settles_pure _
        | some feature =>
            refine settles_except_bind (runTurns_settles harness h chat request observed manifest
              feature _ _ _) fun ending => ?_
            cases ending with
            | returned result => exact settles_pure _
            | next done => exact ih done

/-- So is what a task iteration runs. -/
theorem runTaskIterationInner_settles {phase : HarnessPhase}
    (h : PhaseAccount account idle during) (fuel : Nat) (chat : HarnessChat)
    (request : TaskIterationRequest) (observed : Bool) :
    Settles account (during phase)
      (harness.runTaskIterationInner fuel chat request observed).run := by
  rw [runTaskIterationInner]
  refine settles_except_bind (plain_settles h (callMemory_plain _)) fun bootstrap => ?_
  cases BootstrapState.manifest bootstrap with
  | none => exact settles_pure _
  | some manifest =>
      refine settles_except_bind (plain_settles h (uses_map _ (uses_request trivial)))
        fun healthy => ?_
      have hrest : Settles account (during phase)
          (if allRequiredFeaturesPassed (BootstrapState.featureList bootstrap) then
            pure (Iteration.result {} request true true none)
          else harness.runFeatures chat request observed manifest
            (harness.runPolicy.maxFeaturesPerRunLimit.getD fuel) {} :
            Execution TaskIterationResult).run := by
        split
        · exact settles_pure _
        · exact runFeatures_settles harness h chat request observed _ _ _
      cases healthy with
      | error error =>
          dsimp only
          split
          · exact settles_pure _
          · exact hrest
      | ok value => exact hrest

/-- So it is with what is recorded before and after. -/
theorem runTaskIterationWithObserverInner_settles {phase : HarnessPhase}
    (h : PhaseAccount account idle during) (fuel : Nat) (request : TaskIterationRequest)
    (observed : Bool) :
    Settles account (during phase)
      (harness.runTaskIterationWithObserverInner fuel request observed).run := by
  rw [runTaskIterationWithObserverInner]
  split
  · exact settles_pure _
  · rename_i chat _
    refine settles_except_bind (plain_settles h now_plain) fun startedAt => ?_
    refine settles_except_bind (plain_settles h (uses_except_bind now_plain fun _ => uses_pure _))
      fun checkpoint => ?_
    refine settles_except_bind (plain_settles h (callMemory_plain _)) fun _ => ?_
    refine settles_except_bind (settles_map _
      (runTaskIterationInner_settles harness h fuel chat request observed)) fun result => ?_
    exact settles_except_bind (plain_settles h (recordFinalHandoff_plain _ _ _ _))
      fun _ => settles_pure _

/-- The reports of a phase are around what it does. -/
theorem withHooks_settles (h : PhaseAccount account idle during) (phase : HarnessPhase)
    (sessionId : SessionId) (runId : String) {execution : Execution α}
    (hexecution : Settles account (during phase) execution.run) :
    Settles account idle (withHooks phase sessionId runId execution).run := by
  refine accords_lift_bind (accords_request (h.start phase sessionId runId)) fun _ => ?_
  refine accords_lift_bind hexecution fun result => ?_
  cases result with
  | ok value =>
      exact accords_lift_bind (accords_request (h.success phase sessionId runId))
        fun _ => settles_pure _
  | error error =>
      exact accords_lift_bind (accords_request (h.failure phase sessionId runId error))
        fun _ => settles_pure _

/-- An initializer leaves no phase open. -/
theorem runInitializer_settles (h : PhaseAccount account idle during)
    (request : InitializerRequest) :
    Settles account idle (harness.runInitializer request).run :=
  withHooks_settles h _ _ _ (plain_settles h (runInitializerInner_plain harness request))

/-- A task iteration leaves no phase open. -/
theorem runTaskIteration_settles (h : PhaseAccount account idle during) (fuel : Nat)
    (request : TaskIterationRequest) (observed : Bool) :
    Settles account idle (harness.runTaskIteration fuel request observed).run :=
  withHooks_settles h _ _ _ (runTaskIterationWithObserverInner_settles harness h fuel request
    observed)

/-- Every execution leaves the account as it finds it. -/
theorem execution_settles (h : PhaseAccount account idle during) (call : HarnessCall) :
    Settles account idle (call.program harness).run := by
  cases call with
  | runInitializer request =>
      exact settles_except_bind (p := harness.runInitializer request)
        (runInitializer_settles harness h request) fun result => settles_pure _
  | runTaskIteration fuel request observed =>
      exact settles_except_bind (p := harness.runTaskIteration fuel request observed)
        (runTaskIteration_settles harness h fuel request observed) fun result => settles_pure _
  | run fuel request observed =>
      rw [HarnessCall.program, runWithObserver]
      have hselect : Uses Plain (selectPhase request.session.id).run :=
        uses_except_bind (callMemory_plain _) fun initialized => uses_pure _
      refine settles_except_bind (plain_settles h hselect) fun phase => ?_
      cases phase with
      | initializer =>
          exact settles_except_bind (runInitializer_settles harness h _) fun result =>
            settles_pure _
      | taskIteration =>
          exact settles_except_bind (runTaskIteration_settles harness h fuel _ observed)
            fun result => settles_pure _

end Phases

end Fiddlesticks.Observe

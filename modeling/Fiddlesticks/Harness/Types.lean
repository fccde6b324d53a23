import Fiddlesticks.Chat.Types
import Fiddlesticks.Memory.Types

/-!
# Harness types

Errors, requests, results and the run policy of the `fharness` crate.
-/

namespace Fiddlesticks.Harness

open Chat Memory

/-! ## Errors -/

/-- `HarnessErrorKind`. -/
inductive HarnessErrorKind where
  | invalidRequest
  | memory
  | chat
  | validation
  | healthCheck
  | notReady
  deriving DecidableEq, Repr

/-- `Debug for HarnessErrorKind`. -/
def HarnessErrorKind.debug : HarnessErrorKind → String
  | .invalidRequest => "InvalidRequest"
  | .memory => "Memory"
  | .chat => "Chat"
  | .validation => "Validation"
  | .healthCheck => "HealthCheck"
  | .notReady => "NotReady"

/-- `HarnessError`. -/
structure HarnessError where
  kind : HarnessErrorKind
  message : String
  deriving DecidableEq, Repr

namespace HarnessError

/-- `HarnessError::invalid_request`. -/
def invalidRequest (message : String) : HarnessError := ⟨.invalidRequest, message⟩
/-- `HarnessError::memory`. -/
def memory (message : String) : HarnessError := ⟨.memory, message⟩
/-- `HarnessError::chat`. -/
def chat (message : String) : HarnessError := ⟨.chat, message⟩
/-- `HarnessError::validation`. -/
def validation (message : String) : HarnessError := ⟨.validation, message⟩
/-- `HarnessError::not_ready`. -/
def notReady (message : String) : HarnessError := ⟨.notReady, message⟩

/-- `Display for HarnessError`. -/
def display (error : HarnessError) : String :=
  s!"{error.kind.debug}: {error.message}"

/-- `From<MemoryError> for HarnessError`. -/
def ofMemory (error : MemoryError) : HarnessError :=
  memory error.message

/-- `From<ChatError> for HarnessError`. -/
def ofChat (error : ChatError) : HarnessError :=
  chat error.display

end HarnessError

/-! ## Requests and results -/

/-- `InitializerRequest`. -/
structure InitializerRequest where
  sessionId : SessionId
  runId : String
  activeBranch : String
  currentObjective : String
  initPlan : Option InitPlan
  featureList : List FeatureRecord
  progressSummary : String
  deriving DecidableEq, Repr

/-- `InitializerRequest::new`. -/
def InitializerRequest.new (sessionId : SessionId) (runId currentObjective : String) :
    InitializerRequest :=
  { sessionId, runId, activeBranch := "feature/initializer", currentObjective, initPlan := none,
    featureList := [], progressSummary := "Initializer scaffold created" }

/-- `InitializerResult`. -/
structure InitializerResult where
  sessionId : SessionId
  created : Bool
  schemaVersion : UInt32
  harnessVersion : String
  featureCount : Nat
  deriving DecidableEq, Repr

/-- `TaskIterationRequest`. -/
structure TaskIterationRequest where
  session : ChatSession
  runId : String
  stream : Bool := false
  promptOverride : Option String := none
  deriving DecidableEq, Repr

/-- `TaskIterationResult`. -/
structure TaskIterationResult where
  sessionId : SessionId
  selectedFeatureId : Option String
  processedFeatureIds : List String
  validatedFeatureIds : List String
  processedFeatureCount : Nat
  validated : Bool
  noPendingFeatures : Bool
  usedStream : Bool
  assistantMessage : Option String
  deriving DecidableEq, Repr

/-- `HarnessPhase`. -/
inductive HarnessPhase where
  | initializer
  | taskIteration
  deriving DecidableEq, Repr

/-- `RuntimeRunOutcome`. -/
inductive RuntimeRunOutcome where
  | initializer (result : InitializerResult)
  | taskIteration (result : TaskIterationResult)
  deriving DecidableEq, Repr

/-- `RuntimeRunRequest`. -/
structure RuntimeRunRequest where
  session : ChatSession
  runId : String
  currentObjective : String
  stream : Bool
  promptOverride : Option String
  initPlan : Option InitPlan
  featureList : List FeatureRecord
  activeBranch : String
  progressSummary : Option String
  deriving DecidableEq, Repr

/-! ## The run policy -/

/-- `FailFastPolicy`. -/
structure FailFastPolicy where
  onHealthCheckError : Bool
  onChatError : Bool
  onValidationFailure : Bool
  deriving DecidableEq, Repr

/-- `FailFastPolicy::default`. -/
def FailFastPolicy.default : FailFastPolicy :=
  { onHealthCheckError := true, onChatError := false, onValidationFailure := true }

/-- `RunPolicyMode`. -/
inductive RunPolicyMode where
  | strictIncremental
  | boundedBatch
  | unlimitedBatch
  deriving DecidableEq, Repr

/-- `RunPolicy`. -/
structure RunPolicy where
  mode : RunPolicyMode
  maxTurnsPerRun : Nat
  maxFeaturesPerRun : Nat
  retryBudget : Nat
  failFast : FailFastPolicy
  deriving DecidableEq, Repr

namespace RunPolicy

/-- `RunPolicy::default`. -/
def default : RunPolicy :=
  { mode := .strictIncremental, maxTurnsPerRun := 1, maxFeaturesPerRun := 1, retryBudget := 0,
    failFast := .default }

/-- `RunPolicy::bounded_batch`. -/
def boundedBatch (maxFeaturesPerRun : Nat) : RunPolicy :=
  { default with mode := .boundedBatch, maxFeaturesPerRun }

/-- `RunPolicy::unlimited_batch`. -/
def unlimitedBatch : RunPolicy :=
  { default with mode := .unlimitedBatch }

/-- `RunPolicy::validate`. -/
def validate (policy : RunPolicy) : Except HarnessError Unit := do
  if policy.maxTurnsPerRun = 0 then
    throw (.invalidRequest "run policy requires max_turns_per_run >= 1")
  match policy.mode with
  | .strictIncremental =>
      if policy.maxFeaturesPerRun ≠ 1 then
        throw (.invalidRequest "run policy strict mode requires max_features_per_run = 1")
  | .boundedBatch =>
      if policy.maxFeaturesPerRun = 0 then
        throw (.invalidRequest "run policy bounded-batch mode requires max_features_per_run >= 1")
  | .unlimitedBatch => pure ()

/-- `RunPolicy::max_features_per_run_limit`. -/
def maxFeaturesPerRunLimit (policy : RunPolicy) : Option Nat :=
  match policy.mode with
  | .strictIncremental => some 1
  | .boundedBatch => some policy.maxFeaturesPerRun
  | .unlimitedBatch => none

/-- The default policy is valid. -/
theorem default_valid : default.validate = .ok () := rfl

/-- The policy of an unlimited batch is valid. -/
theorem unlimitedBatch_valid : unlimitedBatch.validate = .ok () := rfl

/-- A valid policy allows a turn and a feature. -/
theorem validate_ok {policy : RunPolicy} (hvalid : policy.validate = .ok ()) :
    policy.maxTurnsPerRun ≠ 0 ∧ ∀ limit ∈ policy.maxFeaturesPerRunLimit, 1 ≤ limit := by
  rw [validate] at hvalid
  by_cases hturns : policy.maxTurnsPerRun = 0
  · rw [if_pos hturns] at hvalid
    cases hvalid
  · rw [if_neg hturns] at hvalid
    refine ⟨hturns, ?_⟩
    rw [maxFeaturesPerRunLimit]
    cases hmode : policy.mode with
    | strictIncremental => simp
    | boundedBatch =>
        by_cases hfeatures : policy.maxFeaturesPerRun = 0
        · simp only [hmode, hfeatures, if_true] at hvalid
          cases hvalid
        · simpa using Nat.one_le_iff_ne_zero.mpr hfeatures
    | unlimitedBatch => simp

end RunPolicy

end Fiddlesticks.Harness

import Fiddlesticks.Provider.Model

/-!
# Memory records

The durable records and errors of the `fmemory` crate.
-/

namespace Fiddlesticks.Memory

/-! ## Errors -/

/-- `MemoryErrorKind`. -/
inductive MemoryErrorKind where
  | storage
  | notFound
  | invalidRequest
  | other
  deriving DecidableEq, Repr

/-- `MemoryError`. -/
structure MemoryError where
  kind : MemoryErrorKind
  message : String
  deriving DecidableEq, Repr

namespace MemoryError

/-- `MemoryError::storage`. -/
def storage (message : String) : MemoryError := ⟨.storage, message⟩
/-- `MemoryError::not_found`. -/
def notFound (message : String) : MemoryError := ⟨.notFound, message⟩
/-- `MemoryError::invalid_request`. -/
def invalidRequest (message : String) : MemoryError := ⟨.invalidRequest, message⟩

end MemoryError

/-! ## Records -/

/-- `FeatureRecord`. -/
structure FeatureRecord where
  id : String
  category : String
  description : String
  steps : List String
  passes : Bool
  deriving DecidableEq, Repr

/-- `ProgressEntry`. -/
structure ProgressEntry where
  runId : String
  summary : String
  createdAt : SystemTime
  deriving DecidableEq, Repr

/-- `InitShell`. -/
inductive InitShell where
  | bash
  | sh
  | pwsh
  | cmd
  deriving DecidableEq, Repr

/-- `InitStep`, with the fields of `InitCommand` and `InitShellScript`. -/
inductive InitStep where
  | command (program : String) (args : List String)
  | shell (shell : InitShell) (script : String)
  deriving DecidableEq, Repr

/-- `InitPlan`. -/
structure InitPlan where
  steps : List InitStep
  deriving DecidableEq, Repr

/-- `SessionManifest`. -/
structure SessionManifest where
  sessionId : SessionId
  schemaVersion : UInt32
  harnessVersion : String
  activeBranch : String
  currentObjective : String
  lastKnownGoodCommit : Option String
  initPlan : Option InitPlan
  metadata : MetadataMap
  deriving DecidableEq

/-- `SessionManifest::new`. -/
def SessionManifest.new (sessionId : SessionId) (activeBranch currentObjective : String) :
    SessionManifest :=
  { sessionId, schemaVersion := 1, harnessVersion := "v0", activeBranch, currentObjective,
    lastKnownGoodCommit := none, initPlan := none, metadata := ∅ }

/-- `RunStatus`. -/
inductive RunStatus where
  | inProgress
  | succeeded
  | failed
  deriving DecidableEq, Repr

/-- `RunCheckpoint`. -/
structure RunCheckpoint where
  runId : String
  startedAt : SystemTime
  completedAt : Option SystemTime
  status : RunStatus
  note : Option String
  deriving DecidableEq, Repr

/-- `BootstrapState`. -/
structure BootstrapState where
  manifest : Option SessionManifest := none
  featureList : List FeatureRecord := []
  recentProgress : List ProgressEntry := []
  checkpoints : List RunCheckpoint := []
  deriving DecidableEq

end Fiddlesticks.Memory

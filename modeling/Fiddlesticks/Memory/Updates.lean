import Fiddlesticks.Memory.Operations
import Fiddlesticks.Memory.Persisted

/-!
# Updates of stored documents

The calls that load the document of a session, change it and store it, and what a place that stores
the document says about the session.
-/

namespace Fiddlesticks.Memory

open Provider

/-! ## Updates -/

/-- The calls that update a session without a transaction. -/
inductive Update where
  | saveManifest (manifest : SessionManifest)
  | appendProgressEntry (entry : ProgressEntry)
  | replaceFeatureList (features : List FeatureRecord)
  | updateFeaturePass (featureId : String) (passes : Bool)
  | recordRunCheckpoint (checkpoint : RunCheckpoint)
  | appendTranscriptMessages (messages : List Message)

namespace Update

/-- The operation on the in-memory backend. -/
def op (sessionId : SessionId) : Update → MemoryOp
  | .saveManifest manifest => .saveManifest sessionId manifest
  | .appendProgressEntry entry => .appendProgressEntry sessionId entry
  | .replaceFeatureList features => .replaceFeatureList sessionId features
  | .updateFeaturePass featureId passes => .updateFeaturePass sessionId featureId passes
  | .recordRunCheckpoint checkpoint => .recordRunCheckpoint sessionId checkpoint
  | .appendTranscriptMessages messages => .appendTranscriptMessages sessionId messages

/-- What the call changes in the document. -/
def change : Update → PersistedState → Except MemoryError PersistedState
  | .saveManifest manifest => PersistedState.saveManifest manifest
  | .appendProgressEntry entry => PersistedState.appendProgressEntry entry
  | .replaceFeatureList features => PersistedState.replaceFeatureList features
  | .updateFeaturePass featureId passes => PersistedState.updateFeaturePass featureId passes
  | .recordRunCheckpoint checkpoint => PersistedState.recordRunCheckpoint checkpoint
  | .appendTranscriptMessages messages => PersistedState.appendTranscriptMessages messages

variable {sessionId : SessionId} (update : Update)

/-- The operation of an update is one on its session. -/
@[simp] theorem op_sessionId : (update.op sessionId).sessionId = sessionId := by
  cases update <;> rfl

variable {update}

/-- A changed document represents the state that the in-memory backend would leave. -/
theorem represents_change {document changed : PersistedState} {state : SessionState}
    (h : document.Represents sessionId state) (hchange : update.change document = .ok changed)
    (hkeys : ∀ manifest ∈ (update.op sessionId).manifests, manifest.sessionId = sessionId) :
    changed.Represents sessionId (state.apply (update.op sessionId)).2 := by
  cases update with
  | saveManifest manifest =>
      exact h.saveManifest hchange (hkeys manifest (List.mem_singleton_self _))
  | appendProgressEntry entry => exact h.appendProgressEntry hchange
  | replaceFeatureList features => exact h.replaceFeatureList hchange
  | updateFeaturePass featureId passes =>
      obtain ⟨featureList, hset, hchanged⟩ := h.updateFeaturePass hchange
      simpa only [op, SessionState.apply, hset] using hchanged
  | recordRunCheckpoint checkpoint => exact h.recordRunCheckpoint hchange
  | appendTranscriptMessages messages => exact h.appendTranscriptMessages hchange

end Update

/-! ## What is stored -/

section Stores

variable {J : Type} (json : StateJson J) (sessionId : SessionId)

/-- The document of a session, which is empty while nothing is stored. -/
def storedDocument (row : Option J) : Except String PersistedState :=
  match row with
  | none => .ok {}
  | some value => json.fromValue value

/-- What is stored represents a session state. -/
def Stores (row : Option J) (state : SessionState) : Prop :=
  ∃ document, storedDocument json row = .ok document ∧ document.Represents sessionId state

end Stores

end Fiddlesticks.Memory

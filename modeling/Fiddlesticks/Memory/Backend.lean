import Fiddlesticks.Effect.Prog
import Fiddlesticks.Memory.Types

/-!
# Memory backends

The operations of the `MemoryBackend` trait and its in-memory implementation, which is also the
specification the other backends are compared with.
-/

namespace Fiddlesticks.Memory

open Effect Provider

/-! ## Operations -/

/-- The operations of `MemoryBackend`. -/
inductive MemoryOp where
  | isInitialized (sessionId : SessionId)
  | initializeSessionIfMissing (sessionId : SessionId) (manifest : SessionManifest)
      (featureList : List FeatureRecord) (initialProgressEntry : Option ProgressEntry)
      (initialCheckpoint : Option RunCheckpoint)
  | loadBootstrapState (sessionId : SessionId)
  | saveManifest (sessionId : SessionId) (manifest : SessionManifest)
  | appendProgressEntry (sessionId : SessionId) (entry : ProgressEntry)
  | replaceFeatureList (sessionId : SessionId) (features : List FeatureRecord)
  | updateFeaturePass (sessionId : SessionId) (featureId : String) (passes : Bool)
  | recordRunCheckpoint (sessionId : SessionId) (checkpoint : RunCheckpoint)
  | loadTranscriptMessages (sessionId : SessionId)
  | appendTranscriptMessages (sessionId : SessionId) (messages : List Message)

namespace MemoryOp

/-- The value of a successful operation. -/
abbrev Value : MemoryOp → Type
  | .isInitialized _ => Bool
  | .initializeSessionIfMissing _ _ _ _ _ => Bool
  | .loadBootstrapState _ => BootstrapState
  | .saveManifest _ _ => Unit
  | .appendProgressEntry _ _ => Unit
  | .replaceFeatureList _ _ => Unit
  | .updateFeaturePass _ _ _ => Unit
  | .recordRunCheckpoint _ _ => Unit
  | .loadTranscriptMessages _ => List Message
  | .appendTranscriptMessages _ _ => Unit

/-- The answer to an operation. -/
abbrev Answer (op : MemoryOp) : Type := Except MemoryError op.Value

/-- The session an operation is about. -/
def sessionId : MemoryOp → SessionId
  | .isInitialized sessionId => sessionId
  | .initializeSessionIfMissing sessionId _ _ _ _ => sessionId
  | .loadBootstrapState sessionId => sessionId
  | .saveManifest sessionId _ => sessionId
  | .appendProgressEntry sessionId _ => sessionId
  | .replaceFeatureList sessionId _ => sessionId
  | .updateFeaturePass sessionId _ _ => sessionId
  | .recordRunCheckpoint sessionId _ => sessionId
  | .loadTranscriptMessages sessionId => sessionId
  | .appendTranscriptMessages sessionId _ => sessionId

end MemoryOp

/-! ## One session -/

/-- `SessionState`. -/
structure SessionState where
  manifest : Option SessionManifest := none
  featureList : List FeatureRecord := []
  progress : List ProgressEntry := []
  checkpoints : List RunCheckpoint := []
  transcript : List Message := []
  deriving DecidableEq

/-- What `load_bootstrap_state` returns of a session. -/
def SessionState.bootstrap (state : SessionState) : BootstrapState :=
  { manifest := state.manifest, featureList := state.featureList
    recentProgress := state.progress, checkpoints := state.checkpoints }

/-- Set `passes` of the first feature with an id, if there is one. -/
def setFeaturePass (featureId : String) (passes : Bool) :
    List FeatureRecord → Option (List FeatureRecord)
  | [] => none
  | feature :: features =>
      if feature.id = featureId then some ({ feature with passes } :: features)
      else (setFeaturePass featureId passes features).map (feature :: ·)

/-- The effect of an operation on the state of its session. -/
def SessionState.apply (state : SessionState) : (op : MemoryOp) → op.Answer × SessionState
  | .isInitialized _ => (.ok state.manifest.isSome, state)
  | .initializeSessionIfMissing _ manifest featureList initialProgressEntry initialCheckpoint =>
      if state.manifest.isSome then (.ok false, state)
      else
        (.ok true, { state with
          manifest := some manifest
          featureList
          progress := state.progress ++ initialProgressEntry.toList
          checkpoints := state.checkpoints ++ initialCheckpoint.toList })
  | .loadBootstrapState _ => (.ok state.bootstrap, state)
  | .saveManifest _ manifest => (.ok (), { state with manifest := some manifest })
  | .appendProgressEntry _ entry => (.ok (), { state with progress := state.progress ++ [entry] })
  | .replaceFeatureList _ features => (.ok (), { state with featureList := features })
  | .updateFeaturePass _ featureId passes =>
      match setFeaturePass featureId passes state.featureList with
      | some featureList => (.ok (), { state with featureList })
      | none => (.error (.notFound s!"feature '{featureId}' not found"), state)
  | .recordRunCheckpoint _ checkpoint =>
      (.ok (), { state with checkpoints := state.checkpoints ++ [checkpoint] })
  | .loadTranscriptMessages _ => (.ok state.transcript, state)
  | .appendTranscriptMessages _ messages =>
      (.ok (), { state with transcript := state.transcript ++ messages })

/-! ## The in-memory backend -/

/-- `InMemoryMemoryBackend`: a mutex around a map from sessions to their states. -/
structure InMemoryMemoryBackend where
  sessions : SessionId → Option SessionState
  poisoned : Bool

namespace InMemoryMemoryBackend

/-- `InMemoryMemoryBackend::new`. -/
def new : InMemoryMemoryBackend :=
  { sessions := fun _ => none, poisoned := false }

/-- The state of a session; a session that was never written to is empty. -/
def session (backend : InMemoryMemoryBackend) (sessionId : SessionId) : SessionState :=
  (backend.sessions sessionId).getD {}

/-- Whether an operation takes `entry(session_id).or_default()`, which adds a missing session. -/
def entersSession : MemoryOp → Bool
  | .isInitialized _ => false
  | .loadBootstrapState _ => false
  | .loadTranscriptMessages _ => false
  | _ => true

/-- The operations of the in-memory backend. -/
def handle (op : MemoryOp) (backend : InMemoryMemoryBackend) :
    op.Answer × InMemoryMemoryBackend :=
  if backend.poisoned then (.error (.storage "memory backend lock poisoned"), backend)
  else
    let (answer, state) := (backend.session op.sessionId).apply op
    (answer,
      if entersSession op then
        { backend with sessions := Function.update backend.sessions op.sessionId (some state) }
      else backend)

/-- An operation only touches the session it is about. -/
theorem handle_session (op : MemoryOp) (backend : InMemoryMemoryBackend) :
    (handle op backend).2.session =
      if backend.poisoned then backend.session
      else Function.update backend.session op.sessionId
        ((backend.session op.sessionId).apply op).2 := by
  funext other
  rw [handle]
  split
  · rfl
  · by_cases hother : other = op.sessionId
    · subst hother
      cases op <;> simp [entersSession, session, SessionState.apply, MemoryOp.sessionId]
    · cases op <;> simp_all [entersSession, session, MemoryOp.sessionId]

/-- A backend that is not poisoned stays so and answers from the state of the session. -/
theorem handle_of_not_poisoned (op : MemoryOp) {backend : InMemoryMemoryBackend}
    (h : backend.poisoned = false) :
    (handle op backend).1 = ((backend.session op.sessionId).apply op).1 ∧
      (handle op backend).2.poisoned = false := by
  rw [handle, if_neg (by simp [h])]
  refine ⟨rfl, ?_⟩
  by_cases henters : entersSession op = true <;> simp [henters, h]

end InMemoryMemoryBackend

end Fiddlesticks.Memory

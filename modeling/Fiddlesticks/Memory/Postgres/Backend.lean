import Fiddlesticks.Memory.Persisted
import Fiddlesticks.Memory.Postgres.Database

/-!
# The Postgres backend

`PostgresMemoryBackend`: every operation of `MemoryBackend` as a program over its database client.
Only `initialize_session_if_missing` runs in a transaction. The other writers load the document of
the session, change it and store it as a whole.
-/

namespace Fiddlesticks.Memory.Postgres

open Effect Provider

variable {J : Type}

/-- A fallible program of the backend. -/
abbrev PostgresM (J : Type) := ExceptT MemoryError (Prog (PostgresSig J))

/-- Run an operation of the client and convert its error. -/
def execute (context : String) (op : PostgresOp J) : PostgresM J op.Result :=
  ExceptT.mk ((·.mapError fun error => .storage s!"{context}: {error}") <$> Prog.request op)

/-- An operation of the client, with the conversion of its error. -/
theorem obeys_execute {G : History (PostgresSig J) → Event (PostgresSig J) → Prop}
    {h : History (PostgresSig J)} (context : String) (op : PostgresOp J)
    {Q : History (PostgresSig J) → Except MemoryError op.Result → Prop} :
    Prog.Obeys G Q h (execute context op).run ↔ ∀ answer : Except String op.Result,
      G h ⟨op, answer⟩ ∧ Q (h ++ [⟨op, answer⟩])
        (answer.mapError fun error => .storage s!"{context}: {error}") := by
  rw [execute, ExceptT.run_mk, Prog.obeys_map, Prog.obeys_request]

/-- `PostgresMemoryBackend::connect_client`. -/
def connectClient : PostgresM J Unit := do
  execute "failed to connect to postgres" .connect
  execute "failed to initialize postgres schema" .createTable

variable (json : StateJson J) (sessionId : SessionId)

/-- `PostgresMemoryBackend::load_state`. -/
def loadState : PostgresM J (Option PersistedState) := do
  match ← execute "failed to query session state" (.select sessionId.value) with
  | none => return none
  | some value =>
      let state ← convert "failed to deserialize postgres session state" (json.fromValue value)
      return some state

/-- `PostgresMemoryBackend::save_state`. -/
def saveState (state : PersistedState) : PostgresM J Unit := do
  let value ← convert "failed to serialize postgres session state" (json.toValue state)
  execute "failed to upsert session state" (.upsert sessionId.value value)

/-! ## Initialization -/

/-- Run a part of a transaction, which is dropped when the part fails. -/
def orDrop {α : Type} (p : PostgresM J α) : PostgresM J α :=
  tryCatch p fun error => do
    let _ ← ExceptT.lift (Prog.request (S := PostgresSig J) .dropTransaction)
    throw error

/-- The document that an initialization finds. -/
def existingState (existing : Option J) : Except MemoryError PersistedState :=
  match existing with
  | none => .ok {}
  | some value =>
      convert "failed to deserialize existing session state" (json.fromValue value)

/-- What `initialize_session_if_missing` is called with. -/
structure Initialization where
  manifest : SessionManifest
  featureList : List FeatureRecord
  entry : Option ProgressEntry
  checkpoint : Option RunCheckpoint

/-- The document that an initialization makes of one without a manifest. -/
def Initialization.document (call : Initialization) (state : PersistedState) :
    Except MemoryError J := do
  let state ← state.initializeSession call.manifest call.featureList call.entry call.checkpoint
  convert "failed to serialize session state" (json.toValue state)

/-- `initialize_session_if_missing`. -/
def initializeSessionIfMissing (call : Initialization) : PostgresM J Bool := do
  connectClient
  execute "failed to begin tx" .begin
  let existing ← orDrop <|
    execute "failed to lock session state row" (.selectForUpdate sessionId.value)
  let state ← orDrop (liftM (existingState json existing))
  if state.manifest.isSome then
    execute "failed to rollback tx" .rollback
    return false
  let value ← orDrop (liftM (call.document json state))
  orDrop <| execute "failed to write initialized session state"
    (.upsertInTransaction sessionId.value value)
  execute "failed to commit tx" .commit
  return true

/-! ## Updates -/

/-- Load the document of a session, change it and store it. -/
def updateState (change : PersistedState → Except MemoryError PersistedState) :
    PostgresM J Unit := do
  connectClient
  let state ← loadState json sessionId
  let state ← change (state.getD {})
  saveState json sessionId state

/-- `save_manifest`. -/
def saveManifest (manifest : SessionManifest) : PostgresM J Unit :=
  updateState json sessionId (PersistedState.saveManifest manifest)

/-- `append_progress_entry`. -/
def appendProgressEntry (entry : ProgressEntry) : PostgresM J Unit :=
  updateState json sessionId (PersistedState.appendProgressEntry entry)

/-- `replace_feature_list`. -/
def replaceFeatureList (features : List FeatureRecord) : PostgresM J Unit :=
  updateState json sessionId (PersistedState.replaceFeatureList features)

/-- `update_feature_pass`. -/
def updateFeaturePass (featureId : String) (passes : Bool) : PostgresM J Unit :=
  updateState json sessionId (PersistedState.updateFeaturePass featureId passes)

/-- `record_run_checkpoint`. -/
def recordRunCheckpoint (checkpoint : RunCheckpoint) : PostgresM J Unit :=
  updateState json sessionId (PersistedState.recordRunCheckpoint checkpoint)

/-- `append_transcript_messages`. -/
def appendTranscriptMessages (messages : List Message) : PostgresM J Unit :=
  updateState json sessionId (PersistedState.appendTranscriptMessages messages)

/-! ## Readers -/

/-- `is_initialized`. -/
def isInitialized : PostgresM J Bool := do
  connectClient
  let state ← loadState json sessionId
  return (state.bind (·.manifest)).isSome

/-- `load_bootstrap_state`. -/
def loadBootstrapState : PostgresM J BootstrapState := do
  connectClient
  match ← loadState json sessionId with
  | none => return {}
  | some state => liftM (state.intoBootstrapState sessionId)

/-- `load_transcript_messages`. -/
def loadTranscriptMessages : PostgresM J (List Message) := do
  connectClient
  match ← loadState json sessionId with
  | none => return []
  | some state => liftM state.intoTranscript

/-- The operations of the backend. -/
def operation : (op : MemoryOp) → PostgresM J op.Value
  | .isInitialized sessionId => isInitialized json sessionId
  | .initializeSessionIfMissing sessionId manifest featureList entry checkpoint =>
      initializeSessionIfMissing json sessionId ⟨manifest, featureList, entry, checkpoint⟩
  | .loadBootstrapState sessionId => loadBootstrapState json sessionId
  | .saveManifest sessionId manifest => saveManifest json sessionId manifest
  | .appendProgressEntry sessionId entry => appendProgressEntry json sessionId entry
  | .replaceFeatureList sessionId features => replaceFeatureList json sessionId features
  | .updateFeaturePass sessionId featureId passes =>
      updateFeaturePass json sessionId featureId passes
  | .recordRunCheckpoint sessionId checkpoint => recordRunCheckpoint json sessionId checkpoint
  | .loadTranscriptMessages sessionId => loadTranscriptMessages json sessionId
  | .appendTranscriptMessages sessionId messages =>
      appendTranscriptMessages json sessionId messages

end Fiddlesticks.Memory.Postgres

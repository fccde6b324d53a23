import Fiddlesticks.Effect.History
import Fiddlesticks.Memory.Filesystem.Paths
import Fiddlesticks.Memory.Updates

/-!
# The filesystem backend

`FilesystemMemoryBackend`: every operation of `MemoryBackend` as a program over the backend's lock
and the files below its root. Each session has one file with its whole document, which an update
loads, changes and replaces.
-/

namespace Fiddlesticks.Memory.Filesystem

open Effect Provider

variable {J : Type}

/-! ## Files -/

/-- The files by their paths, with contents of any type. -/
abbrev Files (J : Type) := Path → Option J

/-- The calls of `std::fs` that may fail. -/
inductive FileCall (J : Type) where
  | createDirAll (path : Path)
  | read (path : Path)
  | write (path : Path) (bytes : J)
  | removeFile (path : Path)
  | rename (source target : Path)

namespace FileCall

/-- The result of a call that succeeds. -/
abbrev Result : FileCall J → Type
  | .read _ => J
  | _ => Unit

/-- The effect of a call. -/
def run (files : Files J) : (call : FileCall J) → Except String call.Result × Files J
  | .createDirAll _ => (.ok (), files)
  | .read path =>
      match files path with
      | some bytes => (.ok bytes, files)
      | none => (.error "No such file or directory (os error 2)", files)
  | .write path bytes => (.ok (), Function.update files path (some bytes))
  | .removeFile path =>
      match files path with
      | some _ => (.ok (), Function.update files path none)
      | none => (.error "No such file or directory (os error 2)", files)
  | .rename source target =>
      match files source with
      | some bytes =>
          (.ok (), Function.update (Function.update files source none) target (some bytes))
      | none => (.error "No such file or directory (os error 2)", files)

end FileCall

/-! ## Programs over files -/

/-- What an operation asks for: the lock of the backend, whether a file exists, or a call. -/
inductive FilesystemOp (J : Type) where
  | lock
  | pathExists (path : Path)
  | run (call : FileCall J)

/-- The answers: whether the lock is poisoned, whether the file exists, the outcome of a call. -/
abbrev FilesystemOp.Answer : FilesystemOp J → Type
  | .lock => Bool
  | .pathExists _ => Bool
  | .run call => Except String call.Result

/-- The signature of the backend. -/
abbrev FilesystemSig (J : Type) : Sig := ⟨FilesystemOp J, FilesystemOp.Answer⟩

/-- A fallible program of the backend. -/
abbrev FilesystemM (J : Type) := ExceptT MemoryError (Prog (FilesystemSig J))

/-- Await the answer to an operation that does not fail. -/
def ask (op : FilesystemOp J) : FilesystemM J op.Answer :=
  ExceptT.lift (Prog.request (S := FilesystemSig J) op)

/-- Run a call and convert its error. -/
def execute (context : String) (call : FileCall J) : FilesystemM J call.Result :=
  ExceptT.mk ((convert context ·) <$> Prog.request (S := FilesystemSig J) (.run call))

/-- `self.lock.lock()?`. -/
def lock : FilesystemM J Unit := do
  if ← ask .lock then
    throw (.storage "filesystem backend lock poisoned")

/-- `write_atomic`. -/
def writeAtomic (path : Path) (bytes : J) : FilesystemM J Unit := do
  if path = [] then
    throw (.storage "session state file missing parent directory")
  execute "failed to create parent directory" (.createDirAll path.dropLast)
  let tmp := temporaryPath path
  execute "failed to write temporary state file" (.write tmp bytes)
  if ← ask (.pathExists path) then
    execute "failed to replace existing state file" (.removeFile path)
  execute "failed to finalize state file" (.rename tmp path)

variable (json : StateJson J) (root : Path) (sessionId : SessionId)

/-- `FilesystemMemoryBackend::load_state`. -/
def loadState : FilesystemM J (Option PersistedState) := do
  let path := sessionPath root sessionId
  if !(← ask (.pathExists path)) then
    return none
  let bytes ← execute "failed to read session state file" (.read path)
  let state ← convert "failed to deserialize session state" (json.fromValue bytes)
  return some state

/-- `FilesystemMemoryBackend::save_state`. -/
def saveState (state : PersistedState) : FilesystemM J Unit := do
  let path := sessionPath root sessionId
  let bytes ← convert "failed to serialize session state" (json.toValue state)
  writeAtomic path bytes

/-! ## Operations -/

/-- `is_initialized`. -/
def isInitialized : FilesystemM J Bool := do
  lock
  let state ← loadState json root sessionId
  return (state.bind (·.manifest)).isSome

/-- `initialize_session_if_missing`. -/
def initializeSessionIfMissing (manifest : SessionManifest) (featureList : List FeatureRecord)
    (initialProgressEntry : Option ProgressEntry) (initialCheckpoint : Option RunCheckpoint) :
    FilesystemM J Bool := do
  lock
  let state := (← loadState json root sessionId).getD {}
  if state.manifest.isSome then
    return false
  let state ← state.initializeSession manifest featureList initialProgressEntry initialCheckpoint
  saveState json root sessionId state
  return true

/-- `load_bootstrap_state`. -/
def loadBootstrapState : FilesystemM J BootstrapState := do
  lock
  match ← loadState json root sessionId with
  | none => return {}
  | some state => liftM (state.intoBootstrapState sessionId)

/-- Load the document of a session, change it and store it. -/
def updateState (change : PersistedState → Except MemoryError PersistedState) :
    FilesystemM J Unit := do
  lock
  let state := (← loadState json root sessionId).getD {}
  let state ← change state
  saveState json root sessionId state

/-- `save_manifest`. -/
def saveManifest (manifest : SessionManifest) : FilesystemM J Unit :=
  updateState json root sessionId (PersistedState.saveManifest manifest)

/-- `append_progress_entry`. -/
def appendProgressEntry (entry : ProgressEntry) : FilesystemM J Unit :=
  updateState json root sessionId (PersistedState.appendProgressEntry entry)

/-- `replace_feature_list`. -/
def replaceFeatureList (features : List FeatureRecord) : FilesystemM J Unit :=
  updateState json root sessionId (PersistedState.replaceFeatureList features)

/-- `update_feature_pass`. -/
def updateFeaturePass (featureId : String) (passes : Bool) : FilesystemM J Unit :=
  updateState json root sessionId (PersistedState.updateFeaturePass featureId passes)

/-- `record_run_checkpoint`. -/
def recordRunCheckpoint (checkpoint : RunCheckpoint) : FilesystemM J Unit :=
  updateState json root sessionId (PersistedState.recordRunCheckpoint checkpoint)

/-- `load_transcript_messages`. -/
def loadTranscriptMessages : FilesystemM J (List Message) := do
  lock
  match ← loadState json root sessionId with
  | none => return []
  | some state => liftM state.intoTranscript

/-- `append_transcript_messages`. -/
def appendTranscriptMessages (messages : List Message) : FilesystemM J Unit :=
  updateState json root sessionId (PersistedState.appendTranscriptMessages messages)

/-- The operations of the backend. -/
def operation (json : StateJson J) (root : Path) : (op : MemoryOp) → FilesystemM J op.Value
  | .isInitialized sessionId => isInitialized json root sessionId
  | .initializeSessionIfMissing sessionId manifest featureList entry checkpoint =>
      initializeSessionIfMissing json root sessionId manifest featureList entry checkpoint
  | .loadBootstrapState sessionId => loadBootstrapState json root sessionId
  | .saveManifest sessionId manifest => saveManifest json root sessionId manifest
  | .appendProgressEntry sessionId entry => appendProgressEntry json root sessionId entry
  | .replaceFeatureList sessionId features => replaceFeatureList json root sessionId features
  | .updateFeaturePass sessionId featureId passes =>
      updateFeaturePass json root sessionId featureId passes
  | .recordRunCheckpoint sessionId checkpoint => recordRunCheckpoint json root sessionId checkpoint
  | .loadTranscriptMessages sessionId => loadTranscriptMessages json root sessionId
  | .appendTranscriptMessages sessionId messages =>
      appendTranscriptMessages json root sessionId messages

/-! ## The backend -/

/-- `FilesystemMemoryBackend`, with the files below its root. -/
structure FilesystemMemoryBackend (J : Type) where
  root : Path
  files : Files J
  poisoned : Bool

namespace FilesystemMemoryBackend

/-- `FilesystemMemoryBackend::new` on a root without files. -/
def new (root : Path) : FilesystemMemoryBackend J :=
  { root, files := fun _ => none, poisoned := false }

/-- The answer of the files and the lock to an operation. -/
def handle : (op : FilesystemOp J) → FilesystemMemoryBackend J →
    op.Answer × FilesystemMemoryBackend J
  | .lock, backend => (backend.poisoned, backend)
  | .pathExists path, backend => ((backend.files path).isSome, backend)
  | .run call, backend =>
      let (answer, files) := call.run backend.files
      (answer, { backend with files })

/-- Run an operation of the backend. -/
def perform (json : StateJson J) (op : MemoryOp) (backend : FilesystemMemoryBackend J) :
    op.Answer × FilesystemMemoryBackend J :=
  Prog.run handle (operation json backend.root op).run backend

end FilesystemMemoryBackend

end Fiddlesticks.Memory.Filesystem

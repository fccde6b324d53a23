import Fiddlesticks.Effect.History
import Fiddlesticks.Memory.Backend
import Fiddlesticks.Memory.Json
import Fiddlesticks.Memory.Sqlite.Database

/-!
# The SQLite backend

`SqliteMemoryBackend`: every operation of `MemoryBackend` as a program over the connection's lock
and its SQL statements. No operation opens a transaction, so each statement is one of its own.
-/

namespace Fiddlesticks.Memory.Sqlite

open Effect Provider

/-! ## Programs over a connection -/

/-- What an operation asks for: the lock of the connection, or a statement. -/
inductive SqliteOp where
  | lock
  | run (statement : Statement)

/-- Why a statement fails: it cannot be prepared, or it cannot be run. -/
inductive SqlError where
  | prepare (error : String)
  | run (error : String)
  deriving DecidableEq

/-- The text of an SQL error. -/
def SqlError.text : SqlError → String
  | .prepare error => error
  | .run error => error

/-- The answers: whether the lock is poisoned, and the outcome of a statement. -/
abbrev SqliteOp.Answer : SqliteOp → Type
  | .lock => Bool
  | .run statement => Except SqlError statement.Result

/-- The signature of the backend. -/
abbrev SqliteSig : Sig := ⟨SqliteOp, SqliteOp.Answer⟩

/-- A fallible program of the backend. -/
abbrev SqliteM := ExceptT MemoryError (Prog SqliteSig)

/-- Await the answer to an operation. -/
def ask (op : SqliteOp) : Prog SqliteSig op.Answer :=
  .call op .pure

/-- `self.connection()?`. -/
def connection : SqliteM Unit := do
  if ← ExceptT.lift (ask .lock) then
    throw (.storage "sqlite backend lock poisoned")

/-- Run a statement and convert its error. -/
def sql (statement : Statement) (convert : SqlError → MemoryError) : SqliteM statement.Result :=
  ExceptT.mk ((·.mapError convert) <$> ask (.run statement))

/-- `conn.execute(..)?` and `conn.query_row(..).optional()?`. -/
def execute (context : String) (statement : Statement) : SqliteM statement.Result :=
  sql statement fun error => .storage s!"{context}: {error.text}"

/-- `conn.prepare(..)?.query_map(..)?`. -/
def query (prepareContext queryContext : String) (statement : Statement) :
    SqliteM statement.Result :=
  sql statement fun error => match error with
    | .prepare error => .storage s!"{prepareContext}: {error}"
    | .run error => .storage s!"{queryContext}: {error}"

/-- Run writes one after the other. -/
def executeAll (context : String) : List Write → SqliteM Unit
  | [] => return
  | write :: writes => do
      execute context (.write write)
      executeAll context writes

/-- Decode the rows of a query as they are fetched. -/
def readRows {R α : Type} (context : String) (decode : R → Except MemoryError α) :
    Fetched R → Except MemoryError (List α)
  | [] => .ok []
  | .error error :: _ => .error (.storage s!"{context}: {error}")
  | .ok row :: rows => do
      let value ← decode row
      let values ← readRows context decode rows
      return value :: values

/-! ## What the backend takes from its libraries -/

/-- The JSON of string lists, and the order in which a hash map iterates over its entries. -/
structure Libraries where
  json : StringListJson
  entries : MetadataMap → List (String × String)
  entries_perm : ∀ metadata, (entries metadata).Perm metadata.toList

/-- Libraries that write compact JSON and iterate over maps in the order of their keys. -/
def Libraries.compact : Libraries where
  json := .compact
  entries := Std.ExtTreeMap.toList
  entries_perm _ := .refl _

/-! ## Rows of records -/

/-- The row of a manifest in `sessions`. -/
def sessionRow (sessionId : SessionId) (manifest : SessionManifest) : SessionRow :=
  { sessionId := sessionId.value, schemaVersion := encodeSchemaVersion manifest.schemaVersion,
    harnessVersion := manifest.harnessVersion, activeBranch := manifest.activeBranch,
    currentObjective := manifest.currentObjective,
    lastKnownGoodCommit := manifest.lastKnownGoodCommit }

/-- The row of a metadata entry. -/
def metadataRow (sessionId : SessionId) (entry : String × String) : MetadataRow :=
  { sessionId := sessionId.value, key := entry.1, value := entry.2 }

/-- The row of a step of an init plan. -/
def initPlanStepRow (json : StringListJson) (sessionId : SessionId) (index : Nat) :
    InitStep → InitPlanStepRow
  | .command program args =>
      { sessionId := sessionId.value, stepIndex := index, stepKind := "command",
        commandProgram := some program, commandArgsJson := some (json.toString args),
        shellName := none, shellScript := none }
  | .shell shell script =>
      { sessionId := sessionId.value, stepIndex := index, stepKind := "shell",
        commandProgram := none, commandArgsJson := none,
        shellName := some (initShellToStr shell), shellScript := some script }

/-- The row of a feature. -/
def featureRow (json : StringListJson) (sessionId : SessionId) (position : Nat)
    (feature : FeatureRecord) : FeatureRow :=
  { sessionId := sessionId.value, position, featureId := feature.id,
    category := feature.category, description := feature.description,
    stepsJson := json.toString feature.steps, passes := encodePasses feature.passes }

/-- The row of a progress entry. -/
def progressRow (sessionId : SessionId) (entry : ProgressEntry) :
    Except MemoryError ProgressRow := do
  let (secs, nanos) ← encodeSystemTime entry.createdAt
  return { sessionId := sessionId.value, runId := entry.runId, summary := entry.summary,
           createdAtSecs := secs, createdAtNanos := nanos }

/-- The row of a checkpoint. -/
def checkpointRow (sessionId : SessionId) (checkpoint : RunCheckpoint) :
    Except MemoryError CheckpointRow := do
  let (startedSecs, startedNanos) ← encodeSystemTime checkpoint.startedAt
  let (completedSecs, completedNanos) ← match checkpoint.completedAt with
    | some completedAt => do
        let (secs, nanos) ← encodeSystemTime completedAt
        pure (some secs, some nanos)
    | none => pure (none, none)
  return { sessionId := sessionId.value, runId := checkpoint.runId, startedAtSecs := startedSecs,
           startedAtNanos := startedNanos, completedAtSecs := completedSecs,
           completedAtNanos := completedNanos, status := runStatusToStr checkpoint.status,
           note := checkpoint.note }

/-- The row of a message. -/
def transcriptRow (sessionId : SessionId) (message : Message) : TranscriptRow :=
  { sessionId := sessionId.value, role := roleToStr message.role, content := message.content }

/-! ## Records of rows -/

/-- The manifest of a row of `sessions`. -/
def manifestOfRow (sessionId : SessionId) (row : SessionRow) : SessionManifest :=
  { sessionId, schemaVersion := decodeSchemaVersion row.schemaVersion,
    harnessVersion := row.harnessVersion, activeBranch := row.activeBranch,
    currentObjective := row.currentObjective, lastKnownGoodCommit := row.lastKnownGoodCommit,
    initPlan := none, metadata := ∅ }

/-- Collect metadata rows into a map. -/
def collectMetadata (rows : List MetadataRow) : MetadataMap :=
  rows.foldl (fun metadata row => metadata.insert row.key row.value) ∅

/-- The step of a row of `init_plan_steps`. -/
def initPlanStepOfRow (json : StringListJson) (row : InitPlanStepRow) :
    Except MemoryError InitStep :=
  match row.stepKind with
  | "command" => do
      let program ← row.commandProgram.elim
        (.error (.storage "init plan command step missing program")) .ok
      let argsJson ← row.commandArgsJson.elim
        (.error (.storage "init plan command step missing args")) .ok
      let args ← (json.fromStr argsJson).mapError fun error =>
        .storage s!"failed to decode init command args JSON: {error}"
      return .command program args
  | "shell" => do
      let shellName ← row.shellName.elim
        (.error (.storage "init plan shell step missing shell name")) .ok
      let shell ← initShellFromStr shellName
      let script ← row.shellScript.elim
        (.error (.storage "init plan shell step missing script")) .ok
      return .shell shell script
  | stepKind => .error (.storage s!"unsupported init plan step kind '{stepKind}'")

/-- The feature of a row of `features`. -/
def featureOfRow (json : StringListJson) (row : FeatureRow) : Except MemoryError FeatureRecord := do
  let steps ← (json.fromStr row.stepsJson).mapError fun error =>
    .storage s!"failed to decode feature steps JSON: {error}"
  return { id := row.featureId, category := row.category, description := row.description,
           steps, passes := decodePasses row.passes }

/-- The entry of a row of `progress_entries`. -/
def progressOfRow (row : ProgressRow) : Except MemoryError ProgressEntry := do
  return { runId := row.runId, summary := row.summary,
           createdAt := ← decodeSystemTime row.createdAtSecs row.createdAtNanos }

/-- The checkpoint of a row of `run_checkpoints`. -/
def checkpointOfRow (row : CheckpointRow) : Except MemoryError RunCheckpoint := do
  let completedAt ← match row.completedAtSecs, row.completedAtNanos with
    | some secs, some nanos => do pure (some (← decodeSystemTime secs nanos))
    | none, none => pure none
    | _, _ => throw (.storage
        "checkpoint completed timestamp must include both seconds and nanos")
  let startedAt ← decodeSystemTime row.startedAtSecs row.startedAtNanos
  let status ← runStatusFromStr row.status
  return { runId := row.runId, startedAt, completedAt, status, note := row.note }

/-- The message of a row of `transcript_messages`. -/
def messageOfRow (row : TranscriptRow) : Except MemoryError Message := do
  return { role := ← roleFromStr row.role, content := row.content }

/-! ## Operations -/

section

variable (lib : Libraries) (sessionId : SessionId)

/-- The steps of a manifest's plan. -/
def planSteps (manifest : SessionManifest) : List InitStep :=
  (manifest.initPlan.map InitPlan.steps).getD []

/-- `save_manifest_rows`. -/
def saveManifestRows (manifest : SessionManifest) : SqliteM Unit := do
  execute "failed to upsert session manifest"
    (.write (.upsertSession (sessionRow sessionId manifest)))
  execute "failed to clear session metadata" (.write (.deleteMetadata sessionId.value))
  executeAll "failed to write session metadata row"
    ((lib.entries manifest.metadata).map fun entry => .insertMetadata (metadataRow sessionId entry))
  execute "failed to clear init plan steps" (.write (.deleteInitPlanSteps sessionId.value))
  executeAll "failed to write init plan step"
    ((planSteps manifest).mapIdx fun index step =>
      .insertInitPlanStep (initPlanStepRow lib.json sessionId index step))

/-- `replace_features`. -/
def replaceFeatures (features : List FeatureRecord) : SqliteM Unit := do
  execute "failed to clear feature rows" (.write (.deleteFeatures sessionId.value))
  executeAll "failed to write feature row"
    (features.mapIdx fun position feature =>
      .insertFeature (featureRow lib.json sessionId position feature))

/-- `is_initialized`. -/
def isInitialized : SqliteM Bool := do
  connection
  execute "failed to check session initialization" (.sessionExists sessionId.value)

/-- The initial progress entry that `initialize_session_if_missing` writes. -/
def writeInitialProgress (initialProgressEntry : Option ProgressEntry) : SqliteM Unit := do
  if let some entry := initialProgressEntry then
    let row ← liftM (progressRow sessionId entry)
    execute "failed to write initial progress entry" (.write (.insertProgress row))

/-- The initial checkpoint that `initialize_session_if_missing` writes. -/
def writeInitialCheckpoint (initialCheckpoint : Option RunCheckpoint) : SqliteM Unit := do
  if let some checkpoint := initialCheckpoint then
    let row ← liftM (checkpointRow sessionId checkpoint)
    execute "failed to write initial checkpoint" (.write (.insertCheckpoint row))

/-- `initialize_session_if_missing`. -/
def initializeSessionIfMissing (manifest : SessionManifest) (featureList : List FeatureRecord)
    (initialProgressEntry : Option ProgressEntry) (initialCheckpoint : Option RunCheckpoint) :
    SqliteM Bool := do
  connection
  let inserted ← execute "failed to initialize session manifest"
    (.insertOrIgnoreSession (sessionRow sessionId manifest))
  if inserted == 0 then
    return false
  else
    saveManifestRows lib sessionId manifest
    replaceFeatures lib sessionId featureList
    writeInitialProgress sessionId initialProgressEntry
    writeInitialCheckpoint sessionId initialCheckpoint
    return true

/-- The manifest that `load_bootstrap_state` assembles. -/
def loadManifest : SqliteM (Option SessionManifest) := do
  match ← execute "failed to load session manifest row" (.selectSession sessionId.value) with
  | none => return none
  | some row =>
      let metadataRows ← query "failed to prepare metadata query" "failed to query metadata rows"
        (.selectMetadata sessionId.value)
      let metadata ← liftM (readRows "failed to read metadata row" .ok metadataRows)
      let planRows ← query "failed to prepare init plan query" "failed to query init plan rows"
        (.selectInitPlanSteps sessionId.value)
      let steps ← liftM (readRows "failed to read init plan row" (initPlanStepOfRow lib.json)
        planRows)
      return some { manifestOfRow sessionId row with
        metadata := collectMetadata metadata
        initPlan := if steps.isEmpty then none else some ⟨steps⟩ }

/-- `load_bootstrap_state`. -/
def loadBootstrapState : SqliteM BootstrapState := do
  connection
  let manifest ← loadManifest lib sessionId
  let featureRows ← query "failed to prepare feature query" "failed to query feature rows"
    (.selectFeatures sessionId.value)
  let featureList ← liftM (readRows "failed to read feature row" (featureOfRow lib.json)
    featureRows)
  let progressRows ← query "failed to prepare progress query" "failed to query progress rows"
    (.selectProgress sessionId.value)
  let recentProgress ← liftM (readRows "failed to read progress row" progressOfRow progressRows)
  let checkpointRows ← query "failed to prepare checkpoint query"
    "failed to query checkpoint rows" (.selectCheckpoints sessionId.value)
  let checkpoints ← liftM (readRows "failed to read checkpoint row" checkpointOfRow
    checkpointRows)
  return { manifest, featureList, recentProgress, checkpoints }

/-- `save_manifest`. -/
def saveManifest (manifest : SessionManifest) : SqliteM Unit := do
  connection
  saveManifestRows lib sessionId manifest

/-- `append_progress_entry`. -/
def appendProgressEntry (entry : ProgressEntry) : SqliteM Unit := do
  connection
  let row ← liftM (progressRow sessionId entry)
  execute "failed to append progress entry" (.write (.insertProgress row))

/-- `replace_feature_list`. -/
def replaceFeatureList (features : List FeatureRecord) : SqliteM Unit := do
  connection
  replaceFeatures lib sessionId features

/-- `update_feature_pass`. -/
def updateFeaturePass (featureId : String) (passes : Bool) : SqliteM Unit := do
  connection
  match ← execute "failed to query feature update target"
      (.selectFeatureTarget sessionId.value featureId) with
  | none => throw (.notFound s!"feature '{featureId}' not found")
  | some rowId =>
      execute "failed to update feature pass status"
        (.write (.updateFeaturePasses (encodePasses passes) rowId))

/-- `record_run_checkpoint`. -/
def recordRunCheckpoint (checkpoint : RunCheckpoint) : SqliteM Unit := do
  connection
  let row ← liftM (checkpointRow sessionId checkpoint)
  execute "failed to record checkpoint" (.write (.insertCheckpoint row))

/-- `load_transcript_messages`. -/
def loadTranscriptMessages : SqliteM (List Message) := do
  connection
  let rows ← query "failed to prepare transcript query" "failed to query transcript rows"
    (.selectTranscript sessionId.value)
  liftM (readRows "failed to read transcript row" messageOfRow rows)

/-- `append_transcript_messages`. -/
def appendTranscriptMessages (messages : List Message) : SqliteM Unit := do
  connection
  executeAll "failed to append transcript message"
    (messages.map fun message => .insertTranscript (transcriptRow sessionId message))

end

/-- The operations of the backend. -/
def operation (lib : Libraries) : (op : MemoryOp) → SqliteM op.Value
  | .isInitialized sessionId => isInitialized sessionId
  | .initializeSessionIfMissing sessionId manifest featureList entry checkpoint =>
      initializeSessionIfMissing lib sessionId manifest featureList entry checkpoint
  | .loadBootstrapState sessionId => loadBootstrapState lib sessionId
  | .saveManifest sessionId manifest => saveManifest lib sessionId manifest
  | .appendProgressEntry sessionId entry => appendProgressEntry sessionId entry
  | .replaceFeatureList sessionId features => replaceFeatureList lib sessionId features
  | .updateFeaturePass sessionId featureId passes => updateFeaturePass sessionId featureId passes
  | .recordRunCheckpoint sessionId checkpoint => recordRunCheckpoint sessionId checkpoint
  | .loadTranscriptMessages sessionId => loadTranscriptMessages sessionId
  | .appendTranscriptMessages sessionId messages => appendTranscriptMessages sessionId messages

/-! ## A backend without failures -/

/-- `SqliteMemoryBackend`: a mutex around a connection to a database. -/
structure SqliteMemoryBackend where
  database : Database
  poisoned : Bool

/-- `SqliteMemoryBackend::new` on a new database. -/
def SqliteMemoryBackend.new : SqliteMemoryBackend :=
  { database := .empty, poisoned := false }

/-- The answers of a connection on which no statement fails but by a constraint. -/
def SqliteMemoryBackend.handle : (op : SqliteOp) → SqliteMemoryBackend →
    op.Answer × SqliteMemoryBackend
  | .lock, backend => (backend.poisoned, backend)
  | .run statement, backend =>
      let (result, database) := statement.run backend.database
      (result.mapError .run, { backend with database })

/-- The operations of the backend without failures. -/
def SqliteMemoryBackend.perform (lib : Libraries) (op : MemoryOp) (backend : SqliteMemoryBackend) :
    op.Answer × SqliteMemoryBackend :=
  Prog.run handle (operation lib op).run backend

end Fiddlesticks.Memory.Sqlite

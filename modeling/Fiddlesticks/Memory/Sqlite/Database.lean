import Fiddlesticks.Memory.Types
import Fiddlesticks.Sql.Table

/-!
# The SQLite database

The schema of `SqliteMemoryBackend` and its SQL statements. A statement is named after what it
does; its values are those that the backend binds. Columns that no statement reads apart from
their table's key are kept with the rest of the row.
-/

namespace Fiddlesticks.Memory.Sqlite

open Sql

/-! ## Rows -/

/-- A row of `sessions`. -/
structure SessionRow where
  sessionId : String
  schemaVersion : Int64
  harnessVersion : String
  activeBranch : String
  currentObjective : String
  lastKnownGoodCommit : Option String
  deriving DecidableEq

/-- A row of `session_metadata`. -/
structure MetadataRow where
  sessionId : String
  key : String
  value : String
  deriving DecidableEq

/-- A row of `init_plan_steps`. -/
structure InitPlanStepRow where
  sessionId : String
  stepIndex : Nat
  stepKind : String
  commandProgram : Option String
  commandArgsJson : Option String
  shellName : Option String
  shellScript : Option String
  deriving DecidableEq

/-- A row of `features`, without its id. -/
structure FeatureRow where
  sessionId : String
  position : Nat
  featureId : String
  category : String
  description : String
  stepsJson : String
  passes : Int64
  deriving DecidableEq

/-- A row of `progress_entries`, without its id. -/
structure ProgressRow where
  sessionId : String
  runId : String
  summary : String
  createdAtSecs : Int64
  createdAtNanos : Int64
  deriving DecidableEq

/-- A row of `run_checkpoints`, without its id. -/
structure CheckpointRow where
  sessionId : String
  runId : String
  startedAtSecs : Int64
  startedAtNanos : Int64
  completedAtSecs : Option Int64
  completedAtNanos : Option Int64
  status : String
  note : Option String
  deriving DecidableEq

/-- A row of `transcript_messages`, without its id. -/
structure TranscriptRow where
  sessionId : String
  role : String
  content : String
  deriving DecidableEq

/-- The tables of the database. -/
structure Database where
  sessions : Table SessionRow
  sessionMetadata : Table MetadataRow
  initPlanSteps : Table InitPlanStepRow
  features : Table FeatureRow
  progressEntries : Table ProgressRow
  runCheckpoints : Table CheckpointRow
  transcriptMessages : Table TranscriptRow

/-- The database that `initialize_schema` creates. -/
def Database.empty : Database :=
  ⟨.empty, .empty, .empty, .empty, .empty, .empty, .empty⟩

/-! ## Keys and orders -/

/-- The primary key of `session_metadata`. -/
def MetadataRow.primaryKey (row : MetadataRow) : String × String :=
  (row.sessionId, row.key)

/-- The primary key of `init_plan_steps`. -/
def InitPlanStepRow.primaryKey (row : InitPlanStepRow) : String × Nat :=
  (row.sessionId, row.stepIndex)

/-- `ORDER BY key ASC`. -/
def byKey (a b : Nat × MetadataRow) : Prop :=
  a.2.key ≤ b.2.key

/-- `ORDER BY step_index ASC`. -/
def byStepIndex (a b : Nat × InitPlanStepRow) : Prop :=
  a.2.stepIndex ≤ b.2.stepIndex

/-- `ORDER BY position ASC, id ASC`. -/
def byPosition (a b : Nat × FeatureRow) : Prop :=
  a.2.position < b.2.position ∨ (a.2.position = b.2.position ∧ a.1 ≤ b.1)

instance : DecidableRel byKey := fun a b => inferInstanceAs (Decidable (a.2.key ≤ b.2.key))

instance : DecidableRel byStepIndex :=
  fun a b => inferInstanceAs (Decidable (a.2.stepIndex ≤ b.2.stepIndex))

instance : DecidableRel byPosition := fun a b => inferInstanceAs
  (Decidable (a.2.position < b.2.position ∨ (a.2.position = b.2.position ∧ a.1 ≤ b.1)))

/-! ## Statements -/

/-- The statements that change the database and return nothing. -/
inductive Write where
  | upsertSession (row : SessionRow)
  | deleteMetadata (sessionId : String)
  | insertMetadata (row : MetadataRow)
  | deleteInitPlanSteps (sessionId : String)
  | insertInitPlanStep (row : InitPlanStepRow)
  | deleteFeatures (sessionId : String)
  | insertFeature (row : FeatureRow)
  | updateFeaturePasses (passes : Int64) (rowId : Nat)
  | insertProgress (row : ProgressRow)
  | insertCheckpoint (row : CheckpointRow)
  | insertTranscript (row : TranscriptRow)
  deriving DecidableEq

/-- The effect of a write, or the violated constraint. -/
def Write.apply (db : Database) : Write → Except String Database
  | .upsertSession row => .ok { db with sessions := db.sessions.upsert (·.sessionId) row }
  | .deleteMetadata sessionId =>
      .ok { db with sessionMetadata := db.sessionMetadata.deleteWhere (·.sessionId = sessionId) }
  | .insertMetadata row =>
      match db.sessionMetadata.insertUnique (·.primaryKey) row with
      | some sessionMetadata => .ok { db with sessionMetadata }
      | none => .error ("UNIQUE constraint failed: session_metadata.session_id, " ++
          "session_metadata.key")
  | .deleteInitPlanSteps sessionId =>
      .ok { db with initPlanSteps := db.initPlanSteps.deleteWhere (·.sessionId = sessionId) }
  | .insertInitPlanStep row =>
      match db.initPlanSteps.insertUnique (·.primaryKey) row with
      | some initPlanSteps => .ok { db with initPlanSteps }
      | none => .error ("UNIQUE constraint failed: init_plan_steps.session_id, " ++
          "init_plan_steps.step_index")
  | .deleteFeatures sessionId =>
      .ok { db with features := db.features.deleteWhere (·.sessionId = sessionId) }
  | .insertFeature row => .ok { db with features := db.features.insert row }
  | .updateFeaturePasses passes rowId =>
      .ok { db with features := db.features.updateWhere (·.1 = rowId) ({ · with passes }) }
  | .insertProgress row => .ok { db with progressEntries := db.progressEntries.insert row }
  | .insertCheckpoint row => .ok { db with runCheckpoints := db.runCheckpoints.insert row }
  | .insertTranscript row => .ok { db with transcriptMessages := db.transcriptMessages.insert row }

/-- The statements of the backend. -/
inductive Statement where
  | write (statement : Write)
  | insertOrIgnoreSession (row : SessionRow)
  | sessionExists (sessionId : String)
  | selectSession (sessionId : String)
  | selectMetadata (sessionId : String)
  | selectInitPlanSteps (sessionId : String)
  | selectFeatures (sessionId : String)
  | selectFeatureTarget (sessionId featureId : String)
  | selectProgress (sessionId : String)
  | selectCheckpoints (sessionId : String)
  | selectTranscript (sessionId : String)

/-- The rows of a query as they are fetched one by one. -/
abbrev Fetched (R : Type) := List (Except String R)

namespace Statement

/-- The result of a statement that succeeds. -/
abbrev Result : Statement → Type
  | .write _ => Unit
  | .insertOrIgnoreSession _ => Nat
  | .sessionExists _ => Bool
  | .selectSession _ => Option SessionRow
  | .selectMetadata _ => Fetched MetadataRow
  | .selectInitPlanSteps _ => Fetched InitPlanStepRow
  | .selectFeatures _ => Fetched FeatureRow
  | .selectFeatureTarget _ _ => Option Nat
  | .selectProgress _ => Fetched ProgressRow
  | .selectCheckpoints _ => Fetched CheckpointRow
  | .selectTranscript _ => Fetched TranscriptRow

/-- The effect of a statement. -/
def run (db : Database) : (statement : Statement) → Except String statement.Result × Database
  | .write statement =>
      match statement.apply db with
      | .ok db' => (.ok (), db')
      | .error error => (.error error, db)
  | .insertOrIgnoreSession row =>
      let (inserted, sessions) := db.sessions.insertOrIgnore (·.sessionId) row
      (.ok inserted, { db with sessions })
  | .sessionExists sessionId =>
      (.ok !(db.sessions.values (·.sessionId) sessionId).isEmpty, db)
  | .selectSession sessionId => (.ok (db.sessions.values (·.sessionId) sessionId).head?, db)
  | .selectMetadata sessionId =>
      (.ok ((db.sessionMetadata.select (·.sessionId) sessionId byKey).map (.ok ·.2)), db)
  | .selectInitPlanSteps sessionId =>
      (.ok ((db.initPlanSteps.select (·.sessionId) sessionId byStepIndex).map (.ok ·.2)), db)
  | .selectFeatures sessionId =>
      (.ok ((db.features.select (·.sessionId) sessionId byPosition).map (.ok ·.2)), db)
  | .selectFeatureTarget sessionId featureId =>
      (.ok (((db.features.select (·.sessionId) sessionId byPosition).find?
        (·.2.featureId = featureId)).map Prod.fst), db)
  | .selectProgress sessionId =>
      (.ok ((db.progressEntries.select (·.sessionId) sessionId (·.1 ≤ ·.1)).map (.ok ·.2)), db)
  | .selectCheckpoints sessionId =>
      (.ok ((db.runCheckpoints.select (·.sessionId) sessionId (·.1 ≤ ·.1)).map (.ok ·.2)), db)
  | .selectTranscript sessionId =>
      (.ok ((db.transcriptMessages.select (·.sessionId) sessionId (·.1 ≤ ·.1)).map (.ok ·.2)),
        db)

end Statement

end Fiddlesticks.Memory.Sqlite

import Fiddlesticks.Memory.Sqlite.Backend

/-!
# Sessions in the tables

What the tables hold about one session, as the record that a load assembles from it. The writes of
the backend are changes of such a record, each concerning one session, and its queries read the
record back.
-/

namespace Fiddlesticks.Memory.Sqlite

open Sql Provider

/-! ## The record of a session -/

/-- What the tables hold about one session. -/
structure StoredSession where
  row : Option SessionRow := none
  metadata : List (String × String) := []
  steps : List InitStep := []
  features : List FeatureRecord := []
  progress : List ProgressEntry := []
  checkpoints : List RunCheckpoint := []
  transcript : List Message := []

/-- The map of a list of entries, in which later entries replace earlier ones. -/
def metadataOf (entries : List (String × String)) : MetadataMap :=
  entries.foldl (fun metadata entry => metadata.insert entry.1 entry.2) ∅

/-- The manifest of a stored session. A plan without steps is stored like no plan. -/
def StoredSession.manifest (stored : StoredSession) (sessionId : SessionId) :
    Option SessionManifest :=
  stored.row.map fun row =>
    { manifestOfRow sessionId row with
      metadata := metadataOf stored.metadata
      initPlan := if stored.steps.isEmpty then none else some ⟨stored.steps⟩ }

/-- The manifest of a session with the row of a manifest. -/
theorem StoredSession.manifest_of_row {stored : StoredSession} {sessionId : SessionId}
    {manifest : SessionManifest} (hrow : stored.row = some (sessionRow sessionId manifest)) :
    stored.manifest sessionId = some { manifest with
      sessionId, metadata := metadataOf stored.metadata
      initPlan := if stored.steps.isEmpty then none else some ⟨stored.steps⟩ } := by
  simp only [StoredSession.manifest, hrow, Option.map_some, manifestOfRow, sessionRow,
    decodeSchemaVersion_encode]

/-- The state of the session. -/
def StoredSession.state (stored : StoredSession) (sessionId : SessionId) : SessionState :=
  { manifest := stored.manifest sessionId, featureList := stored.features,
    progress := stored.progress, checkpoints := stored.checkpoints,
    transcript := stored.transcript }

/-- The tables hold this about the session. -/
structure Holds (lib : Libraries) (db : Database) (sessionId : SessionId)
    (stored : StoredSession) : Prop where
  row : db.sessions.values (·.sessionId) sessionId.value = stored.row.toList
  metadata : db.sessionMetadata.values (·.sessionId) sessionId.value =
    stored.metadata.map (metadataRow sessionId)
  keys : (stored.metadata.map Prod.fst).Nodup
  steps : db.initPlanSteps.values (·.sessionId) sessionId.value =
    stored.steps.mapIdx (initPlanStepRow lib.json sessionId)
  features : db.features.values (·.sessionId) sessionId.value =
    stored.features.mapIdx (featureRow lib.json sessionId)
  progress : (db.progressEntries.values (·.sessionId) sessionId.value).map progressOfRow =
    stored.progress.map .ok
  checkpoints : (db.runCheckpoints.values (·.sessionId) sessionId.value).map checkpointOfRow =
    stored.checkpoints.map .ok
  transcript : db.transcriptMessages.values (·.sessionId) sessionId.value =
    stored.transcript.map (transcriptRow sessionId)

/-- A new database holds empty sessions. -/
theorem holds_empty (lib : Libraries) (sessionId : SessionId) :
    Holds lib .empty sessionId {} :=
  ⟨rfl, rfl, List.nodup_nil, rfl, rfl, rfl, rfl, rfl⟩

/-! ## Encodings are read back -/

/-- A written progress entry is read back. -/
theorem progressOfRow_of_progressRow {sessionId : SessionId} {entry : ProgressEntry}
    {row : ProgressRow} (h : progressRow sessionId entry = .ok row) :
    progressOfRow row = .ok entry ∧ row.sessionId = sessionId.value := by
  rw [progressRow] at h
  cases htime : encodeSystemTime entry.createdAt with
  | error error =>
      rw [htime] at h
      cases h
  | ok columns =>
      rw [htime] at h
      cases h
      refine ⟨?_, rfl⟩
      show Except.bind (decodeSystemTime columns.1 columns.2) _ = _
      rw [decodeSystemTime_of_encode htime]
      rfl

/-- A written checkpoint is read back. -/
theorem checkpointOfRow_of_checkpointRow {sessionId : SessionId} {checkpoint : RunCheckpoint}
    {row : CheckpointRow} (h : checkpointRow sessionId checkpoint = .ok row) :
    checkpointOfRow row = .ok checkpoint ∧ row.sessionId = sessionId.value := by
  obtain ⟨runId, startedAt, completedAt, status, note⟩ := checkpoint
  rw [checkpointRow] at h
  cases hstarted : encodeSystemTime startedAt with
  | error error =>
      simp only [hstarted] at h
      cases h
  | ok started =>
      simp only [hstarted] at h
      cases completedAt with
      | none =>
          cases h
          refine ⟨?_, rfl⟩
          show Except.bind (decodeSystemTime started.1 started.2) _ = _
          rw [decodeSystemTime_of_encode hstarted]
          cases status <;> rfl
      | some completedAt =>
          cases hcompleted : encodeSystemTime completedAt with
          | error error =>
              simp only [hcompleted] at h
              cases h
          | ok completed =>
              simp only [hcompleted] at h
              cases h
              refine ⟨?_, rfl⟩
              simp only [checkpointOfRow, decodeSystemTime_of_encode hcompleted]
              show Except.bind (decodeSystemTime started.1 started.2) _ = _
              rw [decodeSystemTime_of_encode hstarted]
              cases status <;> rfl

/-- Reading the row of a plan step inverts writing it. -/
@[simp] theorem initPlanStepOfRow_initPlanStepRow (json : StringListJson) (sessionId : SessionId)
    (index : Nat) (step : InitStep) :
    initPlanStepOfRow json (initPlanStepRow json sessionId index step) = .ok step := by
  cases step with
  | command program args =>
      show Except.bind (Except.mapError _ (json.fromStr (json.toString args))) _ = _
      rw [json.fromStr_toString]
      rfl
  | shell shell script => cases shell <;> rfl

/-- Reading the row of a feature inverts writing it. -/
@[simp] theorem featureOfRow_featureRow (json : StringListJson) (sessionId : SessionId)
    (position : Nat) (feature : FeatureRecord) :
    featureOfRow json (featureRow json sessionId position feature) = .ok feature := by
  show Except.bind (Except.mapError _ (json.fromStr (json.toString feature.steps))) _ = _
  rw [json.fromStr_toString]
  show Except.ok { feature with passes := decodePasses (encodePasses feature.passes) } = _
  rw [decodePasses_encode]

/-- Reading the row of a message inverts writing it. -/
@[simp] theorem messageOfRow_transcriptRow (sessionId : SessionId) (message : Message) :
    messageOfRow (transcriptRow sessionId message) = .ok message := by
  obtain ⟨role, content⟩ := message
  cases role <;> rfl

end Fiddlesticks.Memory.Sqlite

import Fiddlesticks.Memory.Sqlite.Queries

/-!
# The trails of the operations

For each operation of the backend: through which records it takes its session, and with what it
ends. Operations that only read stay at the record they find.
-/

namespace Fiddlesticks.Memory.Sqlite

open Effect Provider

variable {lib : Libraries} {db : Database} {sessionId : SessionId} {stored : StoredSession}

/-! ## Reading operations -/

/-- The last record of two trails. -/
theorem getLastD_append (first rest : List StoredSession) :
    (first ++ rest).getLastD stored = rest.getLastD (first.getLastD stored) := by
  simp only [List.getLastD_eq_getLast?, List.getLast?_append]
  cases rest.getLast? <;> rfl

/-- The last of records that are all the same. -/
theorem getLastD_of_same {records : List StoredSession} (h : ∀ record ∈ records, record = stored) :
    records.getLastD stored = stored := by
  rw [List.getLastD_eq_getLast?]
  cases hlast : records.getLast? with
  | none => rfl
  | some record => exact h record (List.mem_of_getLast? hlast)

/-- `is_initialized` reads the session once. -/
theorem isInitialized_trail (h : Holds lib db sessionId stored) :
    OperationTrail lib sessionId (isInitialized sessionId) db [stored]
      (.ok (stored.state sessionId).manifest.isSome) := by
  have hsome : (stored.state sessionId).manifest.isSome = stored.row.isSome := by
    cases hrow : stored.row <;> simp [StoredSession.state, StoredSession.manifest, hrow]
  rw [hsome]
  exact .connection (.last h.sessionExists h (.refl lib sessionId db))

/-- `load_manifest` only reads and finds the manifest. -/
theorem loadManifest_trail (h : Holds lib db sessionId stored) :
    ∃ records, (∀ record ∈ records, record = stored) ∧
      Trail lib sessionId (loadManifest lib sessionId).run db records
        (.ok (stored.manifest sessionId)) := by
  have hselect := h.selectSession
  cases hrow : stored.row with
  | none =>
      rw [hrow] at hselect
      refine ⟨[stored], by simp, .read h hselect ?_⟩
      rw [StoredSession.manifest, hrow]
      exact .done _ db
  | some row =>
      rw [hrow] at hselect
      obtain ⟨rows, hmetadata, hcollect⟩ := h.selectMetadata
      have hreadMetadata : readRows "failed to read metadata row" .ok (rows.map .ok) = .ok rows :=
        readRows_of_decodes rfl
      have hreadSteps : readRows "failed to read init plan row" (initPlanStepOfRow lib.json)
          ((stored.steps.mapIdx (initPlanStepRow lib.json sessionId)).map .ok) =
            .ok stored.steps :=
        readRows_of_decodes (mapIdx_decodes (by simp) stored.steps)
      refine ⟨[stored, stored, stored], by simp, .read h hselect (.read h hmetadata
        (.check hreadMetadata (.read h h.selectInitPlanSteps (.check hreadSteps ?_))))⟩
      rw [StoredSession.manifest, hrow, ← hcollect]
      exact .done _ db

/-- `load_bootstrap_state` only reads and finds the session. -/
theorem loadBootstrapState_trail (h : Holds lib db sessionId stored) :
    ∃ records, (∀ record ∈ records, record = stored) ∧
      OperationTrail lib sessionId (loadBootstrapState lib sessionId) db records
        (.ok (stored.state sessionId).bootstrap) := by
  obtain ⟨records, hsame, hmanifest⟩ := loadManifest_trail h
  have hstay : ∀ record ∈ records ++ [stored, stored, stored], record = stored := by
    intro record hrecord
    rcases List.mem_append.mp hrecord with hrecord | hrecord
    · exact hsame record hrecord
    · simpa using hrecord
  refine ⟨_, hstay, .connection (.bind hmanifest h fun db' h' => ?_)⟩
  rw [getLastD_of_same hsame] at h'
  obtain ⟨progress, hselectProgress, hprogress⟩ := h'.selectProgress
  obtain ⟨checkpoints, hselectCheckpoints, hcheckpoints⟩ := h'.selectCheckpoints
  have hfeatures := mapIdx_decodes (featureOfRow_featureRow lib.json sessionId) stored.features
  exact .read h' h'.selectFeatures (.check (readRows_of_decodes hfeatures)
    (.read h' hselectProgress (.check (readRows_of_decodes hprogress)
      (.read h' hselectCheckpoints (.check (readRows_of_decodes hcheckpoints) (.done _ _))))))

/-- `load_transcript_messages` reads the transcript once. -/
theorem loadTranscriptMessages_trail (h : Holds lib db sessionId stored) :
    OperationTrail lib sessionId (loadTranscriptMessages sessionId) db [stored]
      (.ok (stored.state sessionId).transcript) := by
  have hread : readRows "failed to read transcript row" messageOfRow
      ((stored.transcript.map (transcriptRow sessionId)).map .ok) = .ok stored.transcript :=
    readRows_of_decodes (by simp)
  have hdone : Trail lib sessionId (liftM (readRows "failed to read transcript row" messageOfRow
      ((stored.transcript.map (transcriptRow sessionId)).map .ok)) : SqliteM (List Message)).run
      db [] (.ok stored.transcript) := by
    rw [hread]
    exact .done _ db
  exact .connection (.read h h.selectTranscript hdone)

/-! ## Writing operations -/

/-- `save_manifest` makes its changes one by one. -/
theorem saveManifest_trail (h : Holds lib db sessionId stored) (manifest : SessionManifest) :
    OperationTrail lib sessionId (saveManifest lib sessionId manifest) db
      (Change.trail stored (saveManifestChanges lib sessionId manifest)) (.ok ()) :=
  .connection ((saveManifestRows_scripted lib sessionId stored manifest).trail h
    (saveManifestChanges_fit lib manifest stored))

/-- `replace_feature_list` makes its changes one by one. -/
theorem replaceFeatureList_trail (h : Holds lib db sessionId stored)
    (features : List FeatureRecord) :
    OperationTrail lib sessionId (replaceFeatureList lib sessionId features) db
      (Change.trail stored (replaceFeaturesChanges features)) (.ok ()) :=
  .connection ((replaceFeatures_scripted lib sessionId stored features).trail h
    (replaceFeaturesChanges_fit features stored))

/-- `append_transcript_messages` makes its changes one by one. -/
theorem appendTranscriptMessages_trail (h : Holds lib db sessionId stored)
    (messages : List Message) :
    OperationTrail lib sessionId (appendTranscriptMessages sessionId messages) db
      (Change.trail stored (appendTranscriptChanges messages)) (.ok ()) :=
  .connection ((appendTranscript_scripted lib sessionId stored messages).trail h
    (appendTranscriptChanges_fit messages stored))

/-- A progress entry is encoded first, and an entry that cannot be encoded is not written. -/
theorem appendProgressEntry_trail (h : Holds lib db sessionId stored) (entry : ProgressEntry) :
    match progressRow sessionId entry with
    | .ok _ => OperationTrail lib sessionId (appendProgressEntry sessionId entry) db
        [{ stored with progress := stored.progress ++ [entry] }] (.ok ())
    | .error error => OperationTrail lib sessionId (appendProgressEntry sessionId entry) db []
        (.error error) := by
  cases hrow : progressRow sessionId entry with
  | ok row =>
      exact .connection (.check hrow (h.execute_trail (.addProgress entry row) hrow _))
  | error error => exact .connection (.check_error hrow)

/-- A checkpoint is encoded first, and one that cannot be encoded is not written. -/
theorem recordRunCheckpoint_trail (h : Holds lib db sessionId stored)
    (checkpoint : RunCheckpoint) :
    match checkpointRow sessionId checkpoint with
    | .ok _ => OperationTrail lib sessionId (recordRunCheckpoint sessionId checkpoint) db
        [{ stored with checkpoints := stored.checkpoints ++ [checkpoint] }] (.ok ())
    | .error error => OperationTrail lib sessionId (recordRunCheckpoint sessionId checkpoint) db []
        (.error error) := by
  cases hrow : checkpointRow sessionId checkpoint with
  | ok row =>
      exact .connection
        (.check hrow (h.execute_trail (.addCheckpoint checkpoint row) hrow _))
  | error error => exact .connection (.check_error hrow)

/-- The update of a pass looks its row up first. -/
theorem updateFeaturePass_trail (h : Holds lib db sessionId stored) (featureId : String)
    (passes : Bool) :
    match setFeaturePass featureId passes stored.features with
    | some features =>
        OperationTrail lib sessionId (updateFeaturePass sessionId featureId passes) db
        [stored, { stored with features }] (.ok ())
    | none =>
        OperationTrail lib sessionId (updateFeaturePass sessionId featureId passes) db [stored]
        (.error (.notFound s!"feature '{featureId}' not found")) := by
  have htarget := h.selectFeatureTarget featureId passes
  cases hset : setFeaturePass featureId passes stored.features with
  | some features =>
      rw [hset] at htarget
      obtain ⟨rowId, db', hselect, hupdate, hholds, hothers⟩ := htarget
      exact .connection (.read h hselect (.last hupdate hholds hothers))
  | none =>
      rw [hset] at htarget
      exact .connection (.read h htarget (.done _ db))

/-! ## Initialization -/

/-- The first statement inserts the row of a session without one. -/
theorem Holds.insertSession (h : Holds lib db sessionId stored) (hrow : stored.row = none)
    (manifest : SessionManifest) :
    ∃ db', (Statement.insertOrIgnoreSession (sessionRow sessionId manifest)).run db = (.ok 1, db') ∧
      Holds lib db' sessionId { stored with row := some (sessionRow sessionId manifest) } ∧
      OthersHeld lib sessionId db db' := by
  have hnew : ¬ db.sessions.conflicts (·.sessionId) (sessionRow sessionId manifest) = true := by
    rw [Sql.Table.conflicts_self_iff, not_not]
    exact h.row.trans (by rw [hrow]; rfl)
  obtain ⟨db', hupsert, hholds, hothers⟩ :=
    h.change (.setRow (sessionRow sessionId manifest)) rfl
  refine ⟨db', ?_, hholds, hothers⟩
  simp only [Change.write, Write.apply, Sql.Table.upsert, if_neg hnew] at hupsert
  simp only [Statement.run, Sql.Table.insertOrIgnore, if_neg hnew, Except.ok.inj hupsert]

/-- Timestamps after the epoch are encoded. -/
theorem progressRow_ok {entry : ProgressEntry} (h : ∀ time ∈ entry.timestamps, time.AfterEpoch)
    (sessionId : SessionId) : ∃ row, progressRow sessionId entry = .ok row := by
  rw [progressRow, encodeSystemTime_eq (h _ (List.mem_singleton_self _))]
  exact ⟨_, rfl⟩

/-- A checkpoint with times after the epoch has a row. -/
theorem checkpointRow_ok {checkpoint : RunCheckpoint}
    (h : ∀ time ∈ checkpoint.timestamps, time.AfterEpoch) (sessionId : SessionId) :
    ∃ row, checkpointRow sessionId checkpoint = .ok row := by
  obtain ⟨runId, startedAt, completedAt, status, note⟩ := checkpoint
  rw [checkpointRow, encodeSystemTime_eq (h _ List.mem_cons_self)]
  cases completedAt with
  | none => exact ⟨_, rfl⟩
  | some completedAt =>
      simp only [encodeSystemTime_eq (h completedAt (by simp [RunCheckpoint.timestamps]))]
      exact ⟨_, rfl⟩

/-- The initial progress entry is written if it can be encoded. -/
theorem writeInitialProgress_trail (lib : Libraries) (sessionId : SessionId)
    (stored : StoredSession) (entry : Option ProgressEntry) :
    ∃ records result, (∀ db, Holds lib db sessionId stored →
        Trail lib sessionId (writeInitialProgress sessionId entry).run db records result) ∧
      ((∀ time ∈ entry.toList.flatMap ProgressEntry.timestamps, time.AfterEpoch) →
        result = .ok () ∧ records.getLastD stored =
          { stored with progress := stored.progress ++ entry.toList }) := by
  cases entry with
  | none => exact ⟨[], .ok (), fun db _ => .done _ db, fun _ => ⟨rfl, by simp⟩⟩
  | some entry =>
      cases hrow : progressRow sessionId entry with
      | ok row =>
          refine ⟨[(Change.addProgress entry row).apply stored], .ok (), fun db h => ?_,
            fun _ => ⟨rfl, rfl⟩⟩
          exact .check hrow (h.execute_trail (.addProgress entry row) hrow _)
      | error error =>
          refine ⟨[], .error error, fun db _ => .check_error hrow, fun htimes => ?_⟩
          obtain ⟨row, hok⟩ := progressRow_ok (by simpa using htimes) sessionId
          rw [hok] at hrow
          cases hrow

/-- The initial checkpoint is written if it can be encoded. -/
theorem writeInitialCheckpoint_trail (lib : Libraries) (sessionId : SessionId)
    (stored : StoredSession) (checkpoint : Option RunCheckpoint) :
    ∃ records result, (∀ db, Holds lib db sessionId stored →
        Trail lib sessionId (writeInitialCheckpoint sessionId checkpoint).run db records result) ∧
      ((∀ time ∈ checkpoint.toList.flatMap RunCheckpoint.timestamps, time.AfterEpoch) →
        result = .ok () ∧ records.getLastD stored =
          { stored with checkpoints := stored.checkpoints ++ checkpoint.toList }) := by
  cases checkpoint with
  | none => exact ⟨[], .ok (), fun db _ => .done _ db, fun _ => ⟨rfl, by simp⟩⟩
  | some checkpoint =>
      cases hrow : checkpointRow sessionId checkpoint with
      | ok row =>
          refine ⟨[(Change.addCheckpoint checkpoint row).apply stored], .ok (), fun db h => ?_,
            fun _ => ⟨rfl, rfl⟩⟩
          exact .check hrow (h.execute_trail (.addCheckpoint checkpoint row) hrow _)
      | error error =>
          refine ⟨[], .error error, fun db _ => .check_error hrow, fun htimes => ?_⟩
          obtain ⟨row, hok⟩ := checkpointRow_ok (by simpa using htimes) sessionId
          rw [hok] at hrow
          cases hrow

/-- The end of an initialization: a progress entry or a checkpoint that cannot be encoded ends it
with an error. -/
theorem initialEntries_trail (lib : Libraries) (sessionId : SessionId) (stored : StoredSession)
    (entry : Option ProgressEntry) (checkpoint : Option RunCheckpoint) :
    ∃ records result, (∀ db, Holds lib db sessionId stored → Trail lib sessionId (do
        writeInitialProgress sessionId entry
        writeInitialCheckpoint sessionId checkpoint
        return true : SqliteM Bool).run db records result) ∧
      ((∀ time ∈ entry.toList.flatMap ProgressEntry.timestamps ++
          checkpoint.toList.flatMap RunCheckpoint.timestamps, time.AfterEpoch) →
        result = .ok true ∧ records.getLastD stored =
          { stored with
            progress := stored.progress ++ entry.toList,
            checkpoints := stored.checkpoints ++ checkpoint.toList }) := by
  obtain ⟨progress, outcome, hprogress, hprogressOk⟩ :=
    writeInitialProgress_trail lib sessionId stored entry
  obtain ⟨checkpoints, outcome', hcheckpoint, hcheckpointOk⟩ :=
    writeInitialCheckpoint_trail lib sessionId (progress.getLastD stored) checkpoint
  cases outcome with
  | error error =>
      refine ⟨progress, .error error, fun db h => (hprogress db h).bind_error, fun htimes => ?_⟩
      exact nomatch (hprogressOk fun time htime => htimes time (List.mem_append_left _ htime)).1
  | ok =>
      cases outcome' with
      | error error =>
          refine ⟨progress ++ checkpoints, .error error, fun db h => (hprogress db h).bind h
            fun db' h' => (hcheckpoint db' h').bind_error, fun htimes => ?_⟩
          exact nomatch
            (hcheckpointOk fun time htime => htimes time (List.mem_append_right _ htime)).1
      | ok =>
          refine ⟨progress ++ (checkpoints ++ []), .ok true, fun db h => (hprogress db h).bind h
            fun db' h' => (hcheckpoint db' h').bind h' fun db'' _ => .done _ db'', ?_⟩
          intro htimes
          refine ⟨rfl, ?_⟩
          obtain ⟨_, hlastProgress⟩ :=
            hprogressOk fun time htime => htimes time (List.mem_append_left _ htime)
          obtain ⟨_, hlastCheckpoint⟩ :=
            hcheckpointOk fun time htime => htimes time (List.mem_append_right _ htime)
          rw [List.append_nil, getLastD_append, hlastCheckpoint, hlastProgress]

/-- A session with a row is left as it is. -/
theorem initialize_trail_present (h : Holds lib db sessionId stored) (hrow : stored.row.isSome)
    (manifest : SessionManifest) (featureList : List FeatureRecord)
    (entry : Option ProgressEntry) (checkpoint : Option RunCheckpoint) :
    OperationTrail lib sessionId (initializeSessionIfMissing lib sessionId manifest featureList
      entry checkpoint) db [stored] (.ok false) := by
  have hold : db.sessions.conflicts (·.sessionId) (sessionRow sessionId manifest) = true := by
    rw [Sql.Table.conflicts_self_iff]
    obtain ⟨row, hsome⟩ := Option.isSome_iff_exists.mp hrow
    intro hnil
    have hrow' := h.row.symm.trans hnil
    rw [hsome] at hrow'
    cases hrow'
  have hrun : (Statement.insertOrIgnoreSession (sessionRow sessionId manifest)).run db =
      (.ok 0, db) := by
    simp only [Statement.run, Sql.Table.insertOrIgnore, if_pos hold]
  exact .connection (.read h hrun (.done _ db))

/-- The record of a session that `initialize_session_if_missing` has written completely. -/
def StoredSession.initialized (lib : Libraries) (sessionId : SessionId) (stored : StoredSession)
    (manifest : SessionManifest) (featureList : List FeatureRecord)
    (entry : Option ProgressEntry) (checkpoint : Option RunCheckpoint) : StoredSession :=
  { stored with
    row := some (sessionRow sessionId manifest), metadata := lib.entries manifest.metadata,
    steps := planSteps manifest, features := featureList,
    progress := stored.progress ++ entry.toList,
    checkpoints := stored.checkpoints ++ checkpoint.toList }

/-- A session without a row first gets the row, and then the rest of its record piece by piece. -/
theorem initialize_trail_missing (h : Holds lib db sessionId stored) (hrow : stored.row = none)
    (manifest : SessionManifest) (featureList : List FeatureRecord)
    (entry : Option ProgressEntry) (checkpoint : Option RunCheckpoint) :
    let first := { stored with row := some (sessionRow sessionId manifest) }
    ∃ rest result, OperationTrail lib sessionId (initializeSessionIfMissing lib sessionId manifest
        featureList entry checkpoint) db
        (first :: first :: rest) result ∧
      ((∀ time ∈ entry.toList.flatMap ProgressEntry.timestamps ++
          checkpoint.toList.flatMap RunCheckpoint.timestamps, time.AfterEpoch) →
        result = .ok true ∧ rest.getLastD first =
          stored.initialized lib sessionId manifest featureList entry checkpoint) := by
  intro first
  let second : StoredSession :=
    { first with metadata := lib.entries manifest.metadata, steps := planSteps manifest }
  let third : StoredSession := { second with features := featureList }
  obtain ⟨db₁, hinsert, h₁, hothers⟩ := h.insertSession hrow manifest
  obtain ⟨records, result, hentries, hok⟩ :=
    initialEntries_trail lib sessionId third entry checkpoint
  have hsecond : Change.applyAll first (saveManifestChanges lib sessionId manifest).tail = second :=
    applyAll_saveManifest lib sessionId manifest first
  have hthird : Change.applyAll second (replaceFeaturesChanges featureList) = third :=
    applyAll_replaceFeatures featureList second
  refine ⟨Change.trail first (saveManifestChanges lib sessionId manifest).tail ++
    (Change.trail second (replaceFeaturesChanges featureList) ++ records), result,
    .connection (.run hinsert h₁ hothers (fun _ => ⟨_, rfl⟩) ?_), fun htimes => ?_⟩
  · refine Trail.bind ((saveManifestRows_scripted lib sessionId first manifest).trail h₁
      (saveManifestChanges_fit lib manifest first)) h₁ fun db₂ h₂ => ?_
    rw [Change.getLastD_trail, applyAll_saveManifest] at h₂
    refine Trail.bind ((replaceFeatures_scripted lib sessionId second featureList).trail h₂
      (replaceFeaturesChanges_fit featureList second)) h₂ fun db₃ h₃ => ?_
    rw [Change.getLastD_trail, hthird] at h₃
    exact hentries db₃ h₃
  · obtain ⟨hresult, hlast⟩ := hok htimes
    rw [getLastD_append, getLastD_append, Change.getLastD_trail, hsecond, Change.getLastD_trail,
      hthird]
    exact ⟨hresult, hlast⟩

end Fiddlesticks.Memory.Sqlite

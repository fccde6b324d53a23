import Fiddlesticks.Memory.Sqlite.Sessions

/-!
# Writes as changes of one session

Every write of the backend but the update of a pass changes the record of one session in one
place. A list of changes is written by a list of writes, and after any number of them the tables
hold the session as changed so far and all other sessions as they were.
-/

namespace Fiddlesticks.Memory.Sqlite

open Sql Provider

/-- A change of the record of a session that one write makes. -/
inductive Change where
  | setRow (row : SessionRow)
  | clearMetadata
  | addMetadata (entry : String × String)
  | clearSteps
  | addStep (step : InitStep)
  | clearFeatures
  | addFeature (feature : FeatureRecord)
  | addProgress (entry : ProgressEntry) (row : ProgressRow)
  | addCheckpoint (checkpoint : RunCheckpoint) (row : CheckpointRow)
  | addMessage (message : Message)

namespace Change

/-- The record after a change. -/
def apply (stored : StoredSession) : Change → StoredSession
  | setRow row => { stored with row := some row }
  | clearMetadata => { stored with metadata := [] }
  | addMetadata entry => { stored with metadata := stored.metadata ++ [entry] }
  | clearSteps => { stored with steps := [] }
  | addStep step => { stored with steps := stored.steps ++ [step] }
  | clearFeatures => { stored with features := [] }
  | addFeature feature => { stored with features := stored.features ++ [feature] }
  | addProgress entry _ => { stored with progress := stored.progress ++ [entry] }
  | addCheckpoint checkpoint _ =>
      { stored with checkpoints := stored.checkpoints ++ [checkpoint] }
  | addMessage message => { stored with transcript := stored.transcript ++ [message] }

/-- The write that makes a change. -/
def write (lib : Libraries) (sessionId : SessionId) (stored : StoredSession) : Change → Write
  | setRow row => .upsertSession row
  | clearMetadata => .deleteMetadata sessionId.value
  | addMetadata entry => .insertMetadata (metadataRow sessionId entry)
  | clearSteps => .deleteInitPlanSteps sessionId.value
  | addStep step =>
      .insertInitPlanStep (initPlanStepRow lib.json sessionId stored.steps.length step)
  | clearFeatures => .deleteFeatures sessionId.value
  | addFeature feature =>
      .insertFeature (featureRow lib.json sessionId stored.features.length feature)
  | addProgress _ row => .insertProgress row
  | addCheckpoint _ row => .insertCheckpoint row
  | addMessage message => .insertTranscript (transcriptRow sessionId message)

/-- The change can be made to this record: its row belongs to the session and encodes what is
added, and a metadata key is new. -/
def Fits (sessionId : SessionId) (stored : StoredSession) : Change → Prop
  | setRow row => row.sessionId = sessionId.value
  | addMetadata entry => entry.1 ∉ stored.metadata.map Prod.fst
  | addProgress entry row => progressRow sessionId entry = .ok row
  | addCheckpoint checkpoint row => checkpointRow sessionId checkpoint = .ok row
  | _ => True

end Change

/-- Sessions other than `sessionId` are held alike by two databases. -/
def OthersHeld (lib : Libraries) (sessionId : SessionId) (db db' : Database) : Prop :=
  ∀ other, other ≠ sessionId → ∀ stored, Holds lib db other stored → Holds lib db' other stored

/-- The other sessions hold what they hold. -/
theorem OthersHeld.refl (lib : Libraries) (sessionId : SessionId) (db : Database) :
    OthersHeld lib sessionId db db :=
  fun _ _ _ h => h

/-- What the other sessions keep twice they keep. -/
theorem OthersHeld.trans {lib : Libraries} {sessionId : SessionId} {first second third : Database}
    (h : OthersHeld lib sessionId first second) (h' : OthersHeld lib sessionId second third) :
    OthersHeld lib sessionId first third :=
  fun other hother stored hstored => h' other hother stored (h other hother stored hstored)

/-- Sessions have different values when they are different. -/
theorem sessionId_value_ne {sessionId other : SessionId} (hother : other ≠ sessionId) :
    other.value ≠ sessionId.value := by
  intro hvalue
  cases other
  cases sessionId
  exact hother (congrArg SessionId.mk hvalue)

section

variable {lib : Libraries} {db : Database} {sessionId : SessionId} {stored : StoredSession}

/-- Inserting a row of the session leaves the parts of others alone. -/
theorem values_insert_other {R : Type} {t : Table R} {key : R → String} {r : R} {rows : List R}
    {other : SessionId} (hkey : key r = sessionId.value) (hother : other ≠ sessionId)
    (h : t.values key other.value = rows) : (t.insert r).values key other.value = rows := by
  have hne := sessionId_value_ne hother
  rw [Table.values_insert, hkey, if_neg (Ne.symm hne), List.append_nil, h]

/-- Inserting a row of the session appends it to its part. -/
theorem values_insert_self {R : Type} {t : Table R} {key : R → String} {r : R} {rows rows' : List R}
    (h : t.values key sessionId.value = rows) (hkey : key r = sessionId.value)
    (hrows : rows ++ [r] = rows') : (t.insert r).values key sessionId.value = rows' := by
  rw [Table.values_insert, hkey, if_pos rfl, h, hrows]

/-- Deleting the part of the session leaves the parts of others alone. -/
theorem values_delete_other {R : Type} {t : Table R} {key : R → String} {rows : List R}
    {other : SessionId} (hother : other ≠ sessionId) (h : t.values key other.value = rows) :
    (t.deleteWhere fun r => key r = sessionId.value).values key other.value = rows := by
  rw [Table.values_deleteWhere, if_neg (sessionId_value_ne hother), h]

/-- Deleting the part of the session empties it. -/
theorem values_delete_self {R : Type} {t : Table R} {key : R → String} :
    (t.deleteWhere fun r => key r = sessionId.value).values key sessionId.value = [] := by
  rw [Table.values_deleteWhere, if_pos rfl]

/-- A write that fits its session makes its change there and keeps the other sessions. -/
theorem Holds.change (h : Holds lib db sessionId stored) (change : Change)
    (hfits : change.Fits sessionId stored) :
    ∃ db', (change.write lib sessionId stored).apply db = .ok db' ∧
      Holds lib db' sessionId (change.apply stored) ∧ OthersHeld lib sessionId db db' := by
  obtain ⟨hrow, hmetadata, hkeys, hsteps, hfeatures, hprogress, hcheckpoints, htranscript⟩ := h
  cases change with
  | setRow row =>
      -- The table is keyed by the session, so the upsert replaces the one row or adds it.
      have hone : (db.sessions.values (·.sessionId) row.sessionId).length ≤ 1 := by
        rw [show row.sessionId = sessionId.value from hfits, hrow]
        cases stored.row <;> simp
      refine ⟨_, rfl, ⟨?_, hmetadata, hkeys, hsteps, hfeatures, hprogress, hcheckpoints,
        htranscript⟩, fun other hother other' h' => { h' with row := ?_ }⟩
      · rw [← show row.sessionId = sessionId.value from hfits]
        simp [Change.apply, Table.values_upsert hone]
      · have hne := sessionId_value_ne hother
        rw [← show row.sessionId = sessionId.value from hfits] at hne
        simp [Table.values_upsert hone, Ne.symm hne, h'.row]
  | clearMetadata =>
      exact ⟨_, rfl, ⟨hrow, values_delete_self, List.nodup_nil, hsteps, hfeatures, hprogress,
        hcheckpoints, htranscript⟩, fun other hother other' h' =>
        { h' with metadata := values_delete_other hother h'.metadata }⟩
  | addMetadata entry =>
      -- The insert can only fail on a key that the session already has, and a change that fits adds
      -- a new one.
      have hinsert : db.sessionMetadata.insertUnique (·.primaryKey) (metadataRow sessionId entry) =
          some (db.sessionMetadata.insert (metadataRow sessionId entry)) := by
        refine Table.insertUnique_eq_some (fun a b hab => (Prod.ext_iff.mp hab).1) ?_
        intro old hold heq
        replace hold : old ∈ db.sessionMetadata.values (·.sessionId) sessionId.value := hold
        rw [hmetadata, List.mem_map] at hold
        obtain ⟨entry', hentry', rfl⟩ := hold
        refine hfits (List.mem_map.mpr ⟨entry', hentry', ?_⟩)
        exact (Prod.ext_iff.mp heq).2
      refine ⟨{ db with
          sessionMetadata := db.sessionMetadata.insert (metadataRow sessionId entry) },
        by simp only [Change.write, Write.apply, hinsert], ⟨hrow, ?_, ?_, hsteps, hfeatures,
        hprogress, hcheckpoints, htranscript⟩, fun other hother other' h' =>
        { h' with metadata := values_insert_other rfl hother h'.metadata }⟩
      · exact values_insert_self hmetadata rfl (by simp [Change.apply])
      · rw [Change.apply, List.map_append, List.nodup_append]
        refine ⟨hkeys, List.nodup_singleton _, ?_⟩
        intro key hkey last hlast heq
        rw [List.map_singleton, List.mem_singleton] at hlast
        exact hfits (hlast ▸ heq ▸ hkey)
  | clearSteps =>
      exact ⟨_, rfl, ⟨hrow, hmetadata, hkeys, values_delete_self, hfeatures, hprogress,
        hcheckpoints, htranscript⟩, fun other hother other' h' =>
        { h' with steps := values_delete_other hother h'.steps }⟩
  | addStep step =>
      have hsession : ∀ index (step : InitStep),
          (initPlanStepRow lib.json sessionId index step).sessionId = sessionId.value ∧
            (initPlanStepRow lib.json sessionId index step).stepIndex = index := by
        intro index step
        cases step <;> exact ⟨rfl, rfl⟩
      let row := initPlanStepRow lib.json sessionId stored.steps.length step
      -- The steps are numbered from zero, so the next number is not taken.
      have hinsert : db.initPlanSteps.insertUnique (·.primaryKey) row =
          some (db.initPlanSteps.insert row) := by
        refine Table.insertUnique_eq_some (fun a b hab => (Prod.ext_iff.mp hab).1) ?_
        intro old hold heq
        replace hold : old ∈ db.initPlanSteps.values (·.sessionId) row.sessionId := hold
        rw [(hsession _ step).1, hsteps, List.mem_mapIdx] at hold
        obtain ⟨index, hindex, rfl⟩ := hold
        have hsame := (Prod.ext_iff.mp heq).2
        simp only [InitPlanStepRow.primaryKey, row, (hsession _ _).2] at hsame
        omega
      refine ⟨{ db with initPlanSteps := db.initPlanSteps.insert row },
        by simp only [Change.write, Write.apply, row, hinsert],
        ⟨hrow, hmetadata, hkeys, ?_, hfeatures,
        hprogress, hcheckpoints, htranscript⟩, fun other hother other' h' =>
        { h' with steps := values_insert_other (hsession _ step).1 hother h'.steps }⟩
      exact values_insert_self hsteps (hsession _ step).1
        (by simp [Change.apply, List.mapIdx_append, row])
  | clearFeatures =>
      exact ⟨_, rfl, ⟨hrow, hmetadata, hkeys, hsteps, values_delete_self, hprogress,
        hcheckpoints, htranscript⟩, fun other hother other' h' =>
        { h' with features := values_delete_other hother h'.features }⟩
  | addFeature feature =>
      refine ⟨_, rfl, ⟨hrow, hmetadata, hkeys, hsteps, ?_, hprogress, hcheckpoints, htranscript⟩,
        fun other hother other' h' =>
          { h' with features := values_insert_other rfl hother h'.features }⟩
      exact values_insert_self hfeatures rfl (by simp [Change.apply, List.mapIdx_append])
  | addProgress entry row =>
      obtain ⟨hdecode, hsession⟩ := progressOfRow_of_progressRow hfits
      refine ⟨_, rfl, ⟨hrow, hmetadata, hkeys, hsteps, hfeatures, ?_, hcheckpoints, htranscript⟩,
        fun other hother other' h' => { h' with progress := ?_ }⟩
      · simp only [values_insert_self rfl hsession rfl, List.map_append, hprogress, Change.apply]
        simp [hdecode]
      · rw [← h'.progress]
        exact congrArg _ (values_insert_other hsession hother rfl)
  | addCheckpoint checkpoint row =>
      obtain ⟨hdecode, hsession⟩ := checkpointOfRow_of_checkpointRow hfits
      refine ⟨_, rfl, ⟨hrow, hmetadata, hkeys, hsteps, hfeatures, hprogress, ?_, htranscript⟩,
        fun other hother other' h' => { h' with checkpoints := ?_ }⟩
      · simp only [values_insert_self rfl hsession rfl, List.map_append, hcheckpoints, Change.apply]
        simp [hdecode]
      · rw [← h'.checkpoints]
        exact congrArg _ (values_insert_other hsession hother rfl)
  | addMessage message =>
      refine ⟨_, rfl, ⟨hrow, hmetadata, hkeys, hsteps, hfeatures, hprogress, hcheckpoints, ?_⟩,
        fun other hother other' h' =>
          { h' with transcript := values_insert_other rfl hother h'.transcript }⟩
      exact values_insert_self htranscript rfl (by simp [Change.apply])

/-! ## Lists of changes -/

/-- The writes that make changes one after the other. -/
def Change.writes (lib : Libraries) (sessionId : SessionId) :
    StoredSession → List Change → List Write
  | _, [] => []
  | stored, change :: changes =>
      change.write lib sessionId stored :: writes lib sessionId (change.apply stored) changes

/-- Every change fits the record that the changes before it leave. -/
def Change.FitAll (sessionId : SessionId) : StoredSession → List Change → Prop
  | _, [] => True
  | stored, change :: changes =>
      change.Fits sessionId stored ∧ FitAll sessionId (change.apply stored) changes

/-- The record after changes. -/
def Change.applyAll (stored : StoredSession) (changes : List Change) : StoredSession :=
  changes.foldl Change.apply stored

/-- The writes of changes are those of each part from where it begins. -/
theorem Change.writes_append (first rest : List Change) (stored : StoredSession) :
    writes lib sessionId stored (first ++ rest) =
      writes lib sessionId stored first ++ writes lib sessionId (applyAll stored first) rest := by
  induction first generalizing stored with
  | nil => rfl
  | cons change first ih => exact congrArg _ (ih (change.apply stored))

/-- Changes fit when each part fits where it begins. -/
theorem Change.fitAll_append (first rest : List Change) (stored : StoredSession) :
    FitAll sessionId stored (first ++ rest) ↔
      FitAll sessionId stored first ∧ FitAll sessionId (applyAll stored first) rest := by
  induction first generalizing stored with
  | nil => exact (true_and _).symm ▸ Iff.rfl
  | cons change first ih =>
      rw [List.cons_append, FitAll, FitAll, ih, and_assoc]
      rfl

/-! ## The changes of the operations -/

/-- The changes of `save_manifest_rows`. -/
def saveManifestChanges (lib : Libraries) (sessionId : SessionId) (manifest : SessionManifest) :
    List Change :=
  [.setRow (sessionRow sessionId manifest), .clearMetadata] ++
    (lib.entries manifest.metadata).map .addMetadata ++ [.clearSteps] ++
    (planSteps manifest).map .addStep

/-- The changes of `replace_features`. -/
def replaceFeaturesChanges (features : List FeatureRecord) : List Change :=
  .clearFeatures :: features.map .addFeature

/-- The changes of `append_transcript_messages`. -/
def appendTranscriptChanges (messages : List Message) : List Change :=
  messages.map .addMessage

/-- Changes that add items one by one add them all. -/
theorem applyAll_map {α : Type} {add : α → Change} {P : StoredSession → List α → StoredSession}
    (hnil : ∀ stored, P stored [] = stored)
    (hcons : ∀ stored item items, P ((add item).apply stored) items = P stored (item :: items))
    (items : List α) (stored : StoredSession) :
    Change.applyAll stored (items.map add) = P stored items := by
  induction items generalizing stored with
  | nil => exact (hnil stored).symm
  | cons item items ih => exact (ih _).trans (hcons stored item items)

/-- Adding metadata entries appends them. -/
@[simp] theorem applyAll_addMetadata (entries : List (String × String)) (stored : StoredSession) :
    Change.applyAll stored (entries.map .addMetadata) =
      { stored with metadata := stored.metadata ++ entries } :=
  applyAll_map (P := fun stored entries => { stored with metadata := stored.metadata ++ entries })
    (by simp) (by simp [Change.apply]) entries stored

/-- Adding plan steps appends them. -/
@[simp] theorem applyAll_addStep (steps : List InitStep) (stored : StoredSession) :
    Change.applyAll stored (steps.map .addStep) = { stored with steps := stored.steps ++ steps } :=
  applyAll_map (P := fun stored steps => { stored with steps := stored.steps ++ steps })
    (by simp) (by simp [Change.apply]) steps stored

/-- Adding features appends them. -/
@[simp] theorem applyAll_addFeature (features : List FeatureRecord) (stored : StoredSession) :
    Change.applyAll stored (features.map .addFeature) =
      { stored with features := stored.features ++ features } :=
  applyAll_map (P := fun stored features => { stored with features := stored.features ++ features })
    (by simp) (by simp [Change.apply]) features stored

/-- Adding messages appends them. -/
@[simp] theorem applyAll_addMessage (messages : List Message) (stored : StoredSession) :
    Change.applyAll stored (messages.map .addMessage) =
      { stored with transcript := stored.transcript ++ messages } :=
  applyAll_map
    (P := fun stored messages => { stored with transcript := stored.transcript ++ messages })
    (by simp) (by simp [Change.apply]) messages stored

/-- Changes apply one by one. -/
theorem Change.applyAll_cons (change : Change) (changes : List Change) (stored : StoredSession) :
    applyAll stored (change :: changes) = applyAll (change.apply stored) changes := rfl

/-- Changes apply part by part. -/
theorem Change.applyAll_append (first rest : List Change) (stored : StoredSession) :
    applyAll stored (first ++ rest) = applyAll (applyAll stored first) rest :=
  List.foldl_append

/-- Saving a manifest replaces its row, its metadata and its plan. -/
@[simp] theorem applyAll_saveManifest (lib : Libraries) (sessionId : SessionId)
    (manifest : SessionManifest) (stored : StoredSession) :
    Change.applyAll stored (saveManifestChanges lib sessionId manifest) =
      { stored with
        row := some (sessionRow sessionId manifest), metadata := lib.entries manifest.metadata,
        steps := planSteps manifest } := by
  simp [saveManifestChanges, Change.applyAll_cons, Change.applyAll_append, Change.apply]

/-- Replacing the features leaves the new ones. -/
@[simp] theorem applyAll_replaceFeatures (features : List FeatureRecord) (stored : StoredSession) :
    Change.applyAll stored (replaceFeaturesChanges features) = { stored with features } := by
  simp [replaceFeaturesChanges, Change.applyAll_cons, Change.apply]

/-- Appending to the transcript adds the messages. -/
@[simp] theorem applyAll_appendTranscript (messages : List Message) (stored : StoredSession) :
    Change.applyAll stored (appendTranscriptChanges messages) =
      { stored with transcript := stored.transcript ++ messages } :=
  applyAll_addMessage messages stored

end

end Fiddlesticks.Memory.Sqlite

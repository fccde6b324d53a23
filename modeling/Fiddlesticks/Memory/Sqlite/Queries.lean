import Fiddlesticks.Memory.Sqlite.Trails

/-!
# What the queries return

From tables that hold a session, every query of the backend returns the rows of the session in the
order of its record, and decoding them gives the record back.
-/

namespace Fiddlesticks.Memory.Sqlite

open Effect Provider Sql

/-! ## Metadata -/

/-- What a map holds after entries with distinct keys are inserted. -/
theorem getElem?_foldl_insert {entries : List (String × String)} {metadata : MetadataMap}
    (hkeys : (entries.map Prod.fst).Nodup) (key value : String) :
    (entries.foldl (fun metadata entry => metadata.insert entry.1 entry.2) metadata)[key]? =
        some value ↔
      (key, value) ∈ entries ∨ key ∉ entries.map Prod.fst ∧ metadata[key]? = some value := by
  induction entries generalizing metadata with
  | nil => simp
  | cons entry entries ih =>
      obtain ⟨hfirst, hrest⟩ := List.nodup_cons.mp hkeys
      rw [List.foldl_cons, ih hrest, Std.ExtTreeMap.getElem?_insert]
      by_cases hkey : entry.1 = key
      · subst hkey
        have hold : (entry.1, value) ∉ entries := fun hmem =>
          hfirst (List.mem_map.mpr ⟨_, hmem, rfl⟩)
        simp [hfirst, hold, Prod.ext_iff, eq_comm]
      · have hne : entry ≠ (key, value) := by
          rintro rfl
          exact hkey rfl
        simp [hkey, Ne.symm hkey, Ne.symm hne]

/-- The metadata has the entries when no key occurs twice. -/
theorem getElem?_metadataOf {entries : List (String × String)}
    (hkeys : (entries.map Prod.fst).Nodup) (key value : String) :
    (metadataOf entries)[key]? = some value ↔ (key, value) ∈ entries := by
  simp [metadataOf, getElem?_foldl_insert hkeys]

/-- The order of entries with distinct keys does not matter. -/
theorem metadataOf_perm {entries entries' : List (String × String)} (h : entries.Perm entries')
    (hkeys : (entries.map Prod.fst).Nodup) : metadataOf entries = metadataOf entries' := by
  refine Std.ExtTreeMap.ext_getElem? fun key => Option.ext fun value => ?_
  rw [getElem?_metadataOf hkeys, getElem?_metadataOf ((h.map _).nodup_iff.mp hkeys), h.mem_iff]

/-- A map is what its entries make. -/
@[simp] theorem metadataOf_entries (lib : Libraries) (metadata : MetadataMap) :
    metadataOf (lib.entries metadata) = metadata := by
  refine Std.ExtTreeMap.ext_getElem? fun key => Option.ext fun value => ?_
  rw [getElem?_metadataOf (entries_nodup lib metadata), (lib.entries_perm metadata).mem_iff,
    Std.ExtTreeMap.mem_toList_iff_getElem?_eq_some]

/-- Rows of metadata are collected entry by entry. -/
theorem collectMetadata_eq (rows : List MetadataRow) :
    collectMetadata rows = metadataOf (rows.map fun row => (row.key, row.value)) := by
  rw [metadataOf, List.foldl_map]
  rfl

/-! ## Reading rows -/

/-- Rows that decode to values are read as these values. -/
theorem readRows_of_decodes {R α : Type} {context : String} {decode : R → Except MemoryError α}
    {rows : List R} {values : List α} (h : rows.map decode = values.map .ok) :
    readRows context decode (rows.map .ok) = .ok values := by
  induction rows generalizing values with
  | nil =>
      cases values with
      | nil => rfl
      | cons => cases h
  | cons row rows ih =>
      cases values with
      | nil => cases h
      | cons value values =>
          obtain ⟨hrow, hrows⟩ := List.cons.inj h
          show Except.bind (decode row) _ = _
          rw [hrow]
          show Except.bind (readRows context decode (rows.map .ok)) _ = _
          rw [ih hrows]
          rfl

/-- Rows made of values with their positions are read back. -/
theorem mapIdx_decodes {R α : Type} {decode : R → Except MemoryError α} {row : Nat → α → R}
    (h : ∀ index value, decode (row index value) = .ok value) (values : List α) :
    (values.mapIdx row).map decode = values.map .ok := by
  refine List.ext_getElem (by simp) fun index _ _ => ?_
  simp [h]

/-- Rows at increasing positions. -/
theorem mapIdx_pairwise {R α : Type} {row : Nat → α → R} {position : R → Nat}
    (hposition : ∀ index item, position (row index item) = index) (items : List α) :
    (items.mapIdx row).Pairwise (position · < position ·) := by
  rw [List.pairwise_iff_getElem]
  intro i j hi hj hij
  simpa [hposition] using hij

section

variable {lib : Libraries} {db : Database} {sessionId : SessionId} {stored : StoredSession}

/-- A session exists when it has a row. -/
theorem Holds.sessionExists (h : Holds lib db sessionId stored) :
    (Statement.sessionExists sessionId.value).run db = (.ok stored.row.isSome, db) := by
  simp only [Statement.run, h.row]
  cases stored.row <;> rfl

/-- The row of the session is selected. -/
theorem Holds.selectSession (h : Holds lib db sessionId stored) :
    (Statement.selectSession sessionId.value).run db = (.ok stored.row, db) := by
  simp only [Statement.run, h.row]
  cases stored.row <;> rfl

/-- The metadata rows come in the order of their keys. They make the map of the record. -/
theorem Holds.selectMetadata (h : Holds lib db sessionId stored) :
    ∃ rows : List MetadataRow,
      (Statement.selectMetadata sessionId.value).run db = (.ok (rows.map .ok), db) ∧
      collectMetadata rows = metadataOf stored.metadata := by
  refine ⟨(db.sessionMetadata.select (·.sessionId) sessionId.value byKey).map Prod.snd, ?_, ?_⟩
  · rw [List.map_map]
    rfl
  · rw [collectMetadata_eq]
    symm
    refine metadataOf_perm ?_ h.keys
    have hrows : (db.sessionMetadata.values (·.sessionId) sessionId.value).map
        (fun row => (row.key, row.value)) = stored.metadata := by
      rw [h.metadata, List.map_map]
      exact List.map_id _
    rw [← hrows]
    exact ((List.perm_insertionSort byKey _).symm.map Prod.snd).map _

/-- The steps of the plan are selected in order. -/
theorem Holds.selectInitPlanSteps (h : Holds lib db sessionId stored) :
    (Statement.selectInitPlanSteps sessionId.value).run db =
      (.ok ((stored.steps.mapIdx (initPlanStepRow lib.json sessionId)).map .ok), db) := by
  have hindex : ∀ index step, (initPlanStepRow lib.json sessionId index step).stepIndex = index :=
    fun _ step => by cases step <;> rfl
  have hsorted := mapIdx_pairwise hindex stored.steps
  rw [← h.steps, Table.values, List.pairwise_map] at hsorted
  have hselect : db.initPlanSteps.select (·.sessionId) sessionId.value byStepIndex =
      db.initPlanSteps.part (·.sessionId) sessionId.value :=
    Table.select_eq_part (hsorted.imp Nat.le_of_lt)
  rw [← h.steps, Table.values, List.map_map]
  show (Except.ok (List.map _ (db.initPlanSteps.select _ _ byStepIndex)), db) = _
  rw [hselect]
  rfl

/-- The rows of the features are in the order of their positions. -/
theorem Holds.features_sorted (h : Holds lib db sessionId stored) :
    db.features.select (·.sessionId) sessionId.value byPosition =
      db.features.part (·.sessionId) sessionId.value := by
  have hposition : ∀ position feature,
      (featureRow lib.json sessionId position feature).position = position := fun _ _ => rfl
  have hsorted := mapIdx_pairwise hposition stored.features
  rw [← h.features, Table.values, List.pairwise_map] at hsorted
  exact Table.select_eq_part (hsorted.imp Or.inl)

/-- The features are selected in order. -/
theorem Holds.selectFeatures (h : Holds lib db sessionId stored) :
    (Statement.selectFeatures sessionId.value).run db =
      (.ok ((stored.features.mapIdx (featureRow lib.json sessionId)).map .ok), db) := by
  rw [← h.features, Table.values, List.map_map]
  show (Except.ok (List.map _ (db.features.select _ _ byPosition)), db) = _
  rw [h.features_sorted]
  rfl

/-- Rows in the order of their ids are fetched as they stand. -/
theorem fetched_by_id {R : Type} (t : Table R) (key : R → String) (k : String) :
    (t.select key k (·.1 ≤ ·.1)).map (fun row => (.ok row.2 : Except String R)) =
      (t.values key k).map .ok := by
  rw [Table.select_by_id, Table.values, List.map_map]
  rfl

/-- The progress entries are selected in order and can be read. -/
theorem Holds.selectProgress (h : Holds lib db sessionId stored) :
    ∃ rows : List ProgressRow,
      (Statement.selectProgress sessionId.value).run db = (.ok (rows.map .ok), db) ∧
      rows.map progressOfRow = stored.progress.map .ok :=
  ⟨_, congrArg (fun rows => (Except.ok rows, db)) (fetched_by_id _ _ _), h.progress⟩

/-- The checkpoints are selected in order and can be read. -/
theorem Holds.selectCheckpoints (h : Holds lib db sessionId stored) :
    ∃ rows : List CheckpointRow,
      (Statement.selectCheckpoints sessionId.value).run db = (.ok (rows.map .ok), db) ∧
      rows.map checkpointOfRow = stored.checkpoints.map .ok :=
  ⟨_, congrArg (fun rows => (Except.ok rows, db)) (fetched_by_id _ _ _), h.checkpoints⟩

/-- The transcript is selected in order. -/
theorem Holds.selectTranscript (h : Holds lib db sessionId stored) :
    (Statement.selectTranscript sessionId.value).run db =
      (.ok ((stored.transcript.map (transcriptRow sessionId)).map .ok), db) := by
  rw [← h.transcript]
  exact congrArg (fun rows => (Except.ok rows, db)) (fetched_by_id _ _ _)

/-! ## The pass of a feature -/

/-- The first row of a feature is that of the feature whose pass is set. Setting the pass of that
row alone makes the rows of the features after it. -/
theorem setFeaturePass_rows {rows : List (Nat × FeatureRow)} {features : List FeatureRecord}
    {row : Nat → FeatureRecord → FeatureRow} (featureId : String) (passes : Bool)
    (hid : ∀ position feature, (row position feature).featureId = feature.id)
    (hpass : ∀ position feature, { row position feature with passes := encodePasses passes } =
      row position { feature with passes })
    (hincreasing : rows.Pairwise (·.1 < ·.1)) (hrows : rows.map Prod.snd = features.mapIdx row) :
    match rows.find? (·.2.featureId = featureId) with
    | none => setFeaturePass featureId passes features = none
    | some found => ∃ features', setFeaturePass featureId passes features = some features' ∧
        (rows.map fun row => if row.1 = found.1 then
          (row.1, { row.2 with passes := encodePasses passes }) else row).map Prod.snd =
          features'.mapIdx row := by
  induction features generalizing rows row with
  | nil =>
      rw [List.mapIdx_nil, List.map_eq_nil_iff] at hrows
      subst hrows
      rfl
  | cons feature features ih =>
      obtain ⟨⟨rowId, first⟩, rows, rfl, hfirst, hrest⟩ :=
        List.map_eq_cons_iff.mp (hrows.trans List.mapIdx_cons)
      change first = row 0 feature at hfirst
      subst hfirst
      obtain ⟨habove, hincreasing⟩ := List.pairwise_cons.mp hincreasing
      by_cases hfeature : feature.id = featureId
      · rw [List.find?_cons_of_pos (by simp [hid, hfeature]), setFeaturePass, if_pos hfeature]
        refine ⟨_, rfl, ?_⟩
        -- The row ids increase, so no later row has the id of the one that was found.
        have hothers : rows.map (fun row => if row.1 = rowId then
            (row.1, { row.2 with passes := encodePasses passes }) else row) = rows := by
          refine (List.map_congr_left fun other hother => ?_).trans (List.map_id _)
          simp [Nat.ne_of_gt (habove other hother)]
        rw [List.map_cons, if_pos rfl, hothers, List.map_cons, hrest, List.mapIdx_cons, hpass]
      · rw [List.find?_cons_of_neg (by simp [hid, hfeature]), setFeaturePass, if_neg hfeature]
        have hnext := ih (fun position => hid (position + 1)) (fun position => hpass (position + 1))
          hincreasing hrest
        cases hfind : rows.find? (·.2.featureId = featureId) with
        | none =>
            rw [hfind] at hnext
            rw [hnext]
            rfl
        | some found =>
            rw [hfind] at hnext
            obtain ⟨features', hset, hupdated⟩ := hnext
            refine ⟨feature :: features', by rw [hset]; rfl, ?_⟩
            have hne : rowId ≠ found.1 :=
              Nat.ne_of_lt (habove found (List.mem_of_find?_eq_some hfind))
            rw [List.map_cons, if_neg hne, List.map_cons, hupdated, List.mapIdx_cons]

/-- The target of an update of a pass, and what the update does. -/
theorem Holds.selectFeatureTarget (h : Holds lib db sessionId stored) (featureId : String)
    (passes : Bool) :
    match setFeaturePass featureId passes stored.features with
    | none => (Statement.selectFeatureTarget sessionId.value featureId).run db = (.ok none, db)
    | some features => ∃ rowId db',
        (Statement.selectFeatureTarget sessionId.value featureId).run db = (.ok (some rowId), db) ∧
        (Statement.write (.updateFeaturePasses (encodePasses passes) rowId)).run db =
          (.ok (), db') ∧
        Holds lib db' sessionId { stored with features } ∧ OthersHeld lib sessionId db db' := by
  have hrows := setFeaturePass_rows featureId passes
    (fun _ _ => rfl) (fun _ _ => rfl) (db.features.part_increasing _ _) h.features
  cases hfind : (db.features.part (·.sessionId) sessionId.value).find?
      (·.2.featureId = featureId) with
  | none =>
      rw [hfind] at hrows
      rw [show setFeaturePass featureId passes stored.features = none from hrows]
      simp only [Statement.run, h.features_sorted, hfind, Option.map_none]
  | some found =>
      rw [hfind] at hrows
      obtain ⟨features, hset, hupdated⟩ := hrows
      have hfound := List.mem_of_find?_eq_some hfind
      rw [hset]
      refine ⟨found.1, _, ?_, rfl, { h with features := ?_ }, fun other hother other' h' =>
        { h' with features := ?_ }⟩
      · simp only [Statement.run, h.features_sorted, hfind, Option.map_some]
      · rw [Table.values, Table.part_updateWhere (fun _ _ => rfl), ← hupdated]
        simp
      · have hsession : found.2.sessionId = sessionId.value := by
          simpa using List.of_mem_filter hfound
        have hothers : (db.features.updateWhere (·.1 = found.1)
            ({ · with passes := encodePasses passes })).part (·.sessionId) other.value =
              db.features.part (·.sessionId) other.value :=
          Table.part_update_other (List.mem_of_mem_filter hfound)
            (hsession ▸ (sessionId_value_ne hother).symm) fun _ => rfl
        rw [← h'.features, Table.values, hothers, Table.values]

end

end Fiddlesticks.Memory.Sqlite

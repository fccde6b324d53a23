import Fiddlesticks.Memory.Sqlite.Changes

/-!
# Programs that are lists of writes

The writing parts of the backend's operations run a list of writes one after the other and stop
at the first that fails. `Scripted` says which list; it is the list that makes the changes of the
operation.
-/

namespace Fiddlesticks.Memory.Sqlite

open Effect Provider

/-- The program runs these writes in order. -/
inductive Scripted : SqliteM Unit → List Write → Prop where
  | done : Scripted (Pure.pure ()) []
  | write (context : String) (first : Write) {rest : SqliteM Unit} {writes : List Write} :
      Scripted rest writes →
      Scripted (execute context (.write first) >>= fun _ => rest) (first :: writes)

namespace Scripted

/-- Scripts compose. -/
theorem bind {p q : SqliteM Unit} {first rest : List Write} (hp : Scripted p first)
    (hq : Scripted q rest) : Scripted (p >>= fun _ => q) (first ++ rest) := by
  induction hp with
  | done =>
      rw [pure_bind]
      exact hq
  | write context write _ ih =>
      rw [bind_assoc]
      exact .write context write ih

/-- One write. -/
theorem execute (context : String) (write : Write) :
    Scripted (Sqlite.execute context (.write write)) [write] := by
  have h := Scripted.write context write .done
  rwa [bind_pure] at h

/-- Executing writes is the script of those writes. -/
theorem executeAll (context : String) (writes : List Write) :
    Scripted (Sqlite.executeAll context writes) writes := by
  induction writes with
  | nil => exact .done
  | cons write writes ih => exact .write context write ih

end Scripted

/-! ## The scripts of the operations -/

section

variable (lib : Libraries) (sessionId : SessionId) (stored : StoredSession)

/-- Metadata entries are inserted one by one. -/
theorem writes_addMetadata (entries : List (String × String)) :
    Change.writes lib sessionId stored (entries.map .addMetadata) =
      entries.map fun entry => .insertMetadata (metadataRow sessionId entry) := by
  induction entries generalizing stored with
  | nil => rfl
  | cons entry entries ih => exact congrArg _ (ih _)

/-- Messages are inserted one by one. -/
theorem writes_addMessage (messages : List Message) :
    Change.writes lib sessionId stored (appendTranscriptChanges messages) =
      messages.map fun message => .insertTranscript (transcriptRow sessionId message) := by
  induction messages generalizing stored with
  | nil => rfl
  | cons message messages ih => exact congrArg _ (ih _)

/-- Steps are written at the positions after those already there. -/
theorem writes_addStep (steps : List InitStep) :
    Change.writes lib sessionId stored (steps.map .addStep) =
      steps.mapIdx fun index step => .insertInitPlanStep
        (initPlanStepRow lib.json sessionId (index + stored.steps.length) step) := by
  induction steps generalizing stored with
  | nil => rfl
  | cons step steps ih =>
      rw [List.map_cons, Change.writes, ih, List.mapIdx_cons]
      simp [Change.write, Change.apply, Nat.add_assoc, Nat.add_comm 1]

/-- Features are written at the positions after those already there. -/
theorem writes_addFeature (features : List FeatureRecord) :
    Change.writes lib sessionId stored (features.map .addFeature) =
      features.mapIdx fun position feature => .insertFeature
        (featureRow lib.json sessionId (position + stored.features.length) feature) := by
  induction features generalizing stored with
  | nil => rfl
  | cons feature features ih =>
      rw [List.map_cons, Change.writes, ih, List.mapIdx_cons]
      simp [Change.write, Change.apply, Nat.add_assoc, Nat.add_comm 1]

/-- `save_manifest_rows` makes its changes. -/
theorem saveManifestRows_scripted (manifest : SessionManifest) :
    Scripted (saveManifestRows lib sessionId manifest)
      (Change.writes lib sessionId stored (saveManifestChanges lib sessionId manifest)) := by
  have hcleared (changes : List Change) :
      (Change.applyAll stored (changes ++ [.clearSteps])).steps = [] := by
    rw [Change.applyAll, List.foldl_append]
    rfl
  rw [saveManifestChanges, Change.writes_append, writes_addStep, hcleared]
  simp only [Change.writes_append, writes_addMetadata, List.append_assoc]
  have hscript := (Scripted.execute "failed to upsert session manifest"
    (.upsertSession (sessionRow sessionId manifest))).bind <|
    (Scripted.execute "failed to clear session metadata" (.deleteMetadata sessionId.value)).bind <|
    (Scripted.executeAll "failed to write session metadata row"
      ((lib.entries manifest.metadata).map fun entry =>
        .insertMetadata (metadataRow sessionId entry))).bind <|
    (Scripted.execute "failed to clear init plan steps"
      (.deleteInitPlanSteps sessionId.value)).bind <|
    Scripted.executeAll "failed to write init plan step"
      ((planSteps manifest).mapIdx fun index step =>
        .insertInitPlanStep (initPlanStepRow lib.json sessionId index step))
  exact hscript

/-- `replace_features` makes its changes. -/
theorem replaceFeatures_scripted (features : List FeatureRecord) :
    Scripted (replaceFeatures lib sessionId features)
      (Change.writes lib sessionId stored (replaceFeaturesChanges features)) := by
  rw [replaceFeaturesChanges, Change.writes, writes_addFeature]
  exact .write "failed to clear feature rows" _ (.executeAll "failed to write feature row" _)

/-- The loop of `append_transcript_messages` makes its changes. -/
theorem appendTranscript_scripted (messages : List Message) :
    Scripted (executeAll "failed to append transcript message"
        (messages.map fun message => .insertTranscript (transcriptRow sessionId message)))
      (Change.writes lib sessionId stored (appendTranscriptChanges messages)) := by
  rw [writes_addMessage]
  exact .executeAll _ _

end

/-! ## The changes fit -/

section

variable {lib : Libraries} {sessionId : SessionId} {stored : StoredSession}

/-- Changes that fit every record fit one after the other. -/
theorem fitAll_of_fits {changes : List Change}
    (h : ∀ change ∈ changes, ∀ stored, change.Fits sessionId stored) (stored : StoredSession) :
    Change.FitAll sessionId stored changes := by
  induction changes generalizing stored with
  | nil => trivial
  | cons change changes ih =>
      exact ⟨h _ List.mem_cons_self _, ih (fun other hother => h other (.tail _ hother)) _⟩

/-- Entries with distinct new keys fit. -/
theorem addMetadata_fit {entries : List (String × String)}
    (h : ((stored.metadata ++ entries).map Prod.fst).Nodup) :
    Change.FitAll sessionId stored (entries.map .addMetadata) := by
  induction entries generalizing stored with
  | nil => trivial
  | cons entry entries ih =>
      rw [List.append_cons] at h
      refine ⟨?_, ih h⟩
      rw [List.map_append, List.map_append, List.nodup_append] at h
      have hfirst := (List.nodup_append.mp h.1).2.2
      exact fun hmem => hfirst _ hmem entry.1 (by simp) rfl

/-- The iteration over a hash map yields each key once. -/
theorem entries_nodup (lib : Libraries) (metadata : MetadataMap) :
    ((lib.entries metadata).map Prod.fst).Nodup := by
  rw [((lib.entries_perm metadata).map Prod.fst).nodup_iff, Std.ExtTreeMap.map_fst_toList_eq_keys]
  exact Std.ExtTreeMap.nodup_keys

/-- A manifest can be saved in every session. -/
theorem saveManifestChanges_fit (lib : Libraries) (manifest : SessionManifest)
    (stored : StoredSession) :
    Change.FitAll sessionId stored (saveManifestChanges lib sessionId manifest) := by
  rw [saveManifestChanges, Change.fitAll_append, Change.fitAll_append, Change.fitAll_append]
  refine ⟨⟨⟨⟨rfl, trivial, trivial⟩, addMetadata_fit ?_⟩, trivial, trivial⟩, fitAll_of_fits ?_ _⟩
  · simpa [Change.applyAll, Change.apply] using entries_nodup lib manifest.metadata
  · simp [Change.Fits]

/-- Features can be replaced in every session. -/
theorem replaceFeaturesChanges_fit (features : List FeatureRecord) (stored : StoredSession) :
    Change.FitAll sessionId stored (replaceFeaturesChanges features) :=
  fitAll_of_fits (by simp [replaceFeaturesChanges, Change.Fits]) stored

/-- Messages can be appended in every session. -/
theorem appendTranscriptChanges_fit (messages : List Message) (stored : StoredSession) :
    Change.FitAll sessionId stored (appendTranscriptChanges messages) :=
  fitAll_of_fits (by simp [appendTranscriptChanges, Change.Fits]) stored

end

end Fiddlesticks.Memory.Sqlite

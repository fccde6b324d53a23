import Fiddlesticks.Memory.Sqlite.Operations

/-!
# Interrupted operations

Every statement is a transaction of its own, so an operation that fails halfway leaves the
statements before the failure in place, and another connection can read between any two of them.
An operation is all or nothing exactly when no statement before its last one is visible.
-/

namespace Fiddlesticks.Memory.Sqlite

open Effect Provider

/-! ## Failures -/

/-- What a statement may do: take effect, or fail and change nothing. -/
inductive Acts : Database → Event SqliteSig → Database → Prop where
  | lock (db poisoned) : Acts db ⟨.lock, poisoned⟩ db
  | run {db statement value db'} :
      statement.run db = (.ok value, db') → Acts db ⟨.run statement, .ok value⟩ db'
  | fail (db statement error) : Acts db ⟨.run statement, .error error⟩ db

/-- Steps of an operation, with failures at any point. -/
abbrev Executes {α : Type} (p : SqliteM α) (db : Database)
    (q : Prog SqliteSig (Except MemoryError α)) (db' : Database) : Prop :=
  Prog.Steps Acts p.run db q db'

/-- The databases that operations leave, completed or not. -/
inductive Reachable (lib : Libraries) : Database → Prop where
  | new : Reachable lib .empty
  | operation {db db' op q} :
      Reachable lib db → Executes (operation lib op) db q db' → Reachable lib db'

/-! ## What a reader sees -/

/-- What the reading operations return of a session. -/
structure Observation where
  isInitialized : Except MemoryError Bool
  bootstrap : Except MemoryError BootstrapState
  transcript : Except MemoryError (List Message)

/-- Read all sessions of a database through a connection of one's own. -/
def observe (lib : Libraries) (db : Database) (sessionId : SessionId) : Observation where
  isInitialized := (SqliteMemoryBackend.perform lib (.isInitialized sessionId) ⟨db, false⟩).1
  bootstrap := (SqliteMemoryBackend.perform lib (.loadBootstrapState sessionId) ⟨db, false⟩).1
  transcript := (SqliteMemoryBackend.perform lib (.loadTranscriptMessages sessionId) ⟨db, false⟩).1

/-- The observed manifest. -/
def Observation.manifest (observed : Observation) : Option SessionManifest :=
  match observed.bootstrap with
  | .ok bootstrap => bootstrap.manifest
  | .error _ => none

/-- The observed features. -/
def Observation.featureList (observed : Observation) : List FeatureRecord :=
  match observed.bootstrap with
  | .ok bootstrap => bootstrap.featureList
  | .error _ => []

/-- An operation that fails leaves what readers see, and a reader at any time sees what there was
before the operation or what there is after it. -/
def AllOrNothing (lib : Libraries) (op : MemoryOp) (db : Database) : Prop :=
  ∀ q db', Executes (operation lib op) db q db' →
    ((∃ error, q = .pure (.error error)) → observe lib db' = observe lib db) ∧
    (observe lib db' = observe lib db ∨ ∃ value final,
      Executes (operation lib op) db (.pure (.ok value)) final ∧
        observe lib db' = observe lib final)

/-- No statement of the operation but the last changes what readers see. -/
def WrittenAtOnce (observed : Observation) : MemoryOp → Prop
  | .initializeSessionIfMissing _ _ _ _ _ => observed.isInitialized = .ok true
  | .saveManifest sessionId manifest =>
      manifest.metadata = ∅ ∧ ∃ plan,
        observed.manifest = some { manifest with sessionId, initPlan := plan } ∧
          (planSteps manifest = [] ∨ plan = none ∧ (planSteps manifest).length = 1)
  | .replaceFeatureList _ features =>
      features = [] ∨ observed.featureList = [] ∧ features.length = 1
  | .appendTranscriptMessages _ messages => messages.length ≤ 1
  | _ => True

variable {lib : Libraries} {db db' : Database} {sessionId : SessionId} {stored : StoredSession}

/-- What is observed of a state. -/
def Observation.of (state : SessionState) : Observation :=
  { isInitialized := .ok state.manifest.isSome, bootstrap := .ok state.bootstrap,
    transcript := .ok state.transcript }

/-- Readers see the whole state. -/
theorem Observation.of_inj {state state' : SessionState} :
    Observation.of state = .of state' ↔ state = state' := by
  constructor
  · intro h
    obtain ⟨manifest, features, progress, checkpoints, transcript⟩ := state
    obtain ⟨manifest', features', progress', checkpoints', transcript'⟩ := state'
    simp only [Observation.of, SessionState.bootstrap, Observation.mk.injEq, Except.ok.injEq,
      BootstrapState.mk.injEq] at h
    obtain ⟨_, ⟨rfl, rfl, rfl, rfl⟩, rfl⟩ := h
    rfl
  · rintro rfl
    rfl

/-- Readers see the state of the record that the tables hold. -/
theorem Holds.observe (h : Holds lib db sessionId stored) :
    observe lib db sessionId = .of (stored.state sessionId) := by
  obtain ⟨_, hinit, _⟩ := (isInitialized_trail h).run_handle h
  obtain ⟨records, _, hload⟩ := loadBootstrapState_trail h
  obtain ⟨_, hload, _⟩ := hload.run_handle h
  obtain ⟨_, htranscript, _⟩ := (loadTranscriptMessages_trail h).run_handle h
  unfold Sqlite.observe SqliteMemoryBackend.perform Observation.of
  rw [Observation.mk.injEq]
  exact ⟨congrArg Prod.fst hinit, congrArg Prod.fst hload, congrArg Prod.fst htranscript⟩

/-! ## Interrupted trails -/

variable {α : Type} {records : List StoredSession} {result : Except MemoryError α}

/-- At any time the session has the record of some statement, and only after the last statement
the program can have ended without a failure. -/
theorem Trail.steps {p q : Prog SqliteSig (Except MemoryError α)}
    (hp : Trail lib sessionId p db records result) (hdb : Holds lib db sessionId stored)
    (hsteps : Prog.Steps Acts p db q db') :
    ∃ record, Holds lib db' sessionId record ∧ OthersHeld lib sessionId db db' ∧
      (record ∈ (stored :: records).dropLast ∨
        record = records.getLastD stored ∧ ∀ outcome, q = .pure outcome → outcome = result) := by
  induction hp generalizing stored with
  | done result db =>
      cases hsteps with
      | refl =>
          refine ⟨stored, hdb, .refl lib sessionId _, .inr ⟨rfl, fun outcome houtcome => ?_⟩⟩
          exact (Prog.pure.inj houtcome).symm
  | @run statement next db value db₁ stored₁ records result hrun hholds hothers hfailed hrest ih =>
      rw [List.dropLast_cons_cons]
      cases hsteps with
      | refl => exact ⟨stored, hdb, .refl lib sessionId _, .inl List.mem_cons_self⟩
      | call hact hsteps =>
          cases hact with
          | run hrun' =>
              rw [hrun] at hrun'
              cases hrun'
              obtain ⟨record, hrecord, hothers', hwhere⟩ := ih hholds hsteps
              refine ⟨record, hrecord, hothers.trans hothers', ?_⟩
              rw [List.getLastD_cons]
              exact hwhere.imp_left (List.mem_cons_of_mem _)
          | fail _ error =>
              obtain ⟨error', herror'⟩ := hfailed error
              rw [herror'] at hsteps
              cases hsteps with
              | refl => exact ⟨stored, hdb, .refl lib sessionId _, .inl List.mem_cons_self⟩

/-- A program can fail after each statement but the last. -/
theorem Trail.fails {p : Prog SqliteSig (Except MemoryError α)}
    (hp : Trail lib sessionId p db records result) (hdb : Holds lib db sessionId stored)
    {record : StoredSession} (hrecord : record ∈ (stored :: records).dropLast) :
    ∃ error db', Prog.Steps Acts p db (.pure (.error error)) db' ∧
      Holds lib db' sessionId record ∧ OthersHeld lib sessionId db db' := by
  induction hp generalizing stored with
  | done => cases hrecord
  | run hrun hholds hothers hfailed _ ih =>
      rw [List.dropLast_cons_cons] at hrecord
      rcases List.mem_cons.mp hrecord with rfl | hrecord
      · obtain ⟨error, herror⟩ := hfailed (.run "disk I/O error")
        refine ⟨error, _, .call (.fail _ _ (.run "disk I/O error")) ?_, hdb, .refl lib sessionId _⟩
        rw [herror]
        exact .refl _ _
      · obtain ⟨error, db', hsteps, hholds', hothers'⟩ := ih hholds hrecord
        exact ⟨error, db', .call (.run hrun) hsteps, hholds', hothers.trans hothers'⟩

/-- A program can go through its whole trail. -/
theorem Trail.completes {p : Prog SqliteSig (Except MemoryError α)}
    (hp : Trail lib sessionId p db records result) (hdb : Holds lib db sessionId stored) :
    ∃ db', Prog.Steps Acts p db (.pure result) db' ∧
      Holds lib db' sessionId (records.getLastD stored) ∧ OthersHeld lib sessionId db db' := by
  induction hp generalizing stored with
  | done result db => exact ⟨db, .refl _ _, hdb, .refl lib sessionId db⟩
  | run hrun hholds hothers _ _ ih =>
      obtain ⟨db', hsteps, hholds', hothers'⟩ := ih hholds
      rw [List.getLastD_cons]
      exact ⟨db', .call (.run hrun) hsteps, hholds', hothers.trans hothers'⟩

/-- The same for an operation. -/
theorem OperationTrail.steps {p : SqliteM α} {q : Prog SqliteSig (Except MemoryError α)}
    (hp : OperationTrail lib sessionId p db records result) (hdb : Holds lib db sessionId stored)
    (hsteps : Executes p db q db') :
    ∃ record, Holds lib db' sessionId record ∧ OthersHeld lib sessionId db db' ∧
      (record = stored ∨ record ∈ records.dropLast ∨
        record = records.getLastD stored ∧ ∀ outcome, q = .pure outcome → outcome = result) := by
  cases hp with
  | connection htrail =>
      change Prog.Steps Acts (.call SqliteOp.lock _) db q db' at hsteps
      cases hsteps with
      | refl => exact ⟨stored, hdb, .refl lib sessionId _, .inl rfl⟩
      | @call _ _ poisoned _ _ _ _ hact hsteps =>
          cases hact with
          | lock =>
              cases poisoned with
              | true =>
                  change Prog.Steps Acts (.pure (.error _)) db q db' at hsteps
                  cases hsteps with
                  | refl => exact ⟨stored, hdb, .refl lib sessionId _, .inl rfl⟩
              | false =>
                  obtain ⟨record, hrecord, hothers, hwhere⟩ := htrail.steps hdb hsteps
                  refine ⟨record, hrecord, hothers, ?_⟩
                  rcases hwhere with hwhere | hwhere
                  · cases records with
                    | nil => cases hwhere
                    | cons => exact (List.mem_cons.mp hwhere).imp_right .inl
                  · exact .inr (.inr hwhere)

/-- An operation can fail after each statement but the last. -/
theorem OperationTrail.fails {p : SqliteM α}
    (hp : OperationTrail lib sessionId p db records result) (hdb : Holds lib db sessionId stored)
    {record : StoredSession} (hrecord : record ∈ records.dropLast) :
    ∃ error db', Executes p db (.pure (.error error)) db' ∧
      Holds lib db' sessionId record ∧ OthersHeld lib sessionId db db' := by
  cases hp with
  | connection htrail =>
      have hmem : record ∈ (stored :: records).dropLast := by
        cases records with
        | nil => cases hrecord
        | cons => exact List.mem_cons_of_mem _ hrecord
      obtain ⟨error, db', hsteps, hholds, hothers⟩ := htrail.fails hdb hmem
      exact ⟨error, db', .call (.lock db false) hsteps, hholds, hothers⟩

/-- An operation can go through its whole trail. -/
theorem OperationTrail.completes {p : SqliteM α}
    (hp : OperationTrail lib sessionId p db records result) (hdb : Holds lib db sessionId stored) :
    ∃ db', Executes p db (.pure result) db' ∧
      Holds lib db' sessionId (records.getLastD stored) ∧ OthersHeld lib sessionId db db' := by
  cases hp with
  | connection htrail =>
      obtain ⟨db', hsteps, hholds, hothers⟩ := htrail.completes hdb
      exact ⟨db', .call (.lock db false) hsteps, hholds, hothers⟩

/-! ## When an operation is all or nothing -/

/-- Databases that differ at one session look the same when its states there do. -/
theorem observe_eq_iff {db₁ db₂ : Database} {record₁ record₂ : StoredSession}
    (hheld : ∀ sessionId, ∃ stored, Holds lib db sessionId stored)
    (h₁ : Holds lib db₁ sessionId record₁) (hothers₁ : OthersHeld lib sessionId db db₁)
    (h₂ : Holds lib db₂ sessionId record₂) (hothers₂ : OthersHeld lib sessionId db db₂) :
    observe lib db₁ = observe lib db₂ ↔ record₁.state sessionId = record₂.state sessionId := by
  constructor
  · intro heq
    rw [← Observation.of_inj, ← h₁.observe, ← h₂.observe, heq]
  · intro hstate
    funext other
    by_cases hother : other = sessionId
    · rw [hother, h₁.observe, h₂.observe, hstate]
    · obtain ⟨stored, hstored⟩ := hheld other
      rw [(hothers₁ other hother stored hstored).observe,
        (hothers₂ other hother stored hstored).observe]

/-- An operation is all or nothing exactly when its statements before the last one leave the state
of the session, and its last one does so too if the operation fails after it. -/
theorem OperationTrail.allOrNothing_iff {op : MemoryOp} {result : op.Answer}
    (hheld : ∀ sessionId, ∃ stored, Holds lib db sessionId stored)
    (hdb : Holds lib db op.sessionId stored)
    (hp : OperationTrail lib op.sessionId (operation lib op) db records result) :
    AllOrNothing lib op db ↔
      (∀ record ∈ records.dropLast, record.state op.sessionId = stored.state op.sessionId) ∧
      (∀ error, result = .error error →
        (records.getLastD stored).state op.sessionId = stored.state op.sessionId) := by
  have hsame {db' record} (hrecord : Holds lib db' op.sessionId record)
      (hothers : OthersHeld lib op.sessionId db db') :
      observe lib db' = observe lib db ↔
        record.state op.sessionId = stored.state op.sessionId :=
    observe_eq_iff hheld hrecord hothers hdb (.refl lib op.sessionId db)
  constructor
  · intro hall
    refine ⟨fun record hrecord => ?_, ?_⟩
    · obtain ⟨error, db', hsteps, hholds, hothers⟩ := hp.fails hdb hrecord
      exact (hsame hholds hothers).mp ((hall _ _ hsteps).1 ⟨error, rfl⟩)
    · rintro error rfl
      obtain ⟨db', hsteps, hholds, hothers⟩ := hp.completes hdb
      exact (hsame hholds hothers).mp ((hall _ _ hsteps).1 ⟨error, rfl⟩)
  · rintro ⟨hbefore, hlast⟩ q db' hsteps
    obtain ⟨record, hrecord, hothers, hwhere⟩ := hp.steps hdb hsteps
    rcases hwhere with rfl | hmem | ⟨rfl, hresult⟩
    · have heq := (hsame hrecord hothers).mpr rfl
      exact ⟨fun _ => heq, .inl heq⟩
    · have heq := (hsame hrecord hothers).mpr (hbefore record hmem)
      exact ⟨fun _ => heq, .inl heq⟩
    · refine ⟨?_, ?_⟩
      · intro h
        obtain ⟨error, rfl⟩ := h
        exact (hsame hrecord hothers).mpr (hlast error (hresult _ rfl).symm)
      · cases result with
        | error error => exact .inl ((hsame hrecord hothers).mpr (hlast error rfl))
        | ok value =>
            obtain ⟨final, hcomplete, hfinal, hothersFinal⟩ := hp.completes hdb
            refine .inr ⟨value, final, hcomplete, ?_⟩
            exact (observe_eq_iff hheld hrecord hothers hfinal hothersFinal).mpr rfl

/-! ## Reachable databases -/

/-- Every operation has a trail from every record. -/
theorem exists_trail (op : MemoryOp) (h : Holds lib db op.sessionId stored) :
    ∃ records result, OperationTrail lib op.sessionId (operation lib op) db records result := by
  cases op with
  | isInitialized => exact ⟨_, _, isInitialized_trail h⟩
  | initializeSessionIfMissing sessionId manifest featureList entry checkpoint =>
      cases hrow : stored.row with
      | some =>
          exact ⟨_, _, initialize_trail_present h (by simp [hrow]) manifest featureList entry
            checkpoint⟩
      | none =>
          obtain ⟨rest, result, htrail, _⟩ :=
            initialize_trail_missing h hrow manifest featureList entry checkpoint
          exact ⟨_, result, htrail⟩
  | loadBootstrapState =>
      obtain ⟨records, _, htrail⟩ := loadBootstrapState_trail h
      exact ⟨records, _, htrail⟩
  | saveManifest _ manifest => exact ⟨_, _, saveManifest_trail h manifest⟩
  | appendProgressEntry sessionId entry =>
      have htrail := appendProgressEntry_trail h entry
      split at htrail <;> exact ⟨_, _, htrail⟩
  | replaceFeatureList _ features => exact ⟨_, _, replaceFeatureList_trail h features⟩
  | updateFeaturePass _ featureId passes =>
      have htrail := updateFeaturePass_trail h featureId passes
      split at htrail <;> exact ⟨_, _, htrail⟩
  | recordRunCheckpoint _ checkpoint =>
      have htrail := recordRunCheckpoint_trail h checkpoint
      split at htrail <;> exact ⟨_, _, htrail⟩
  | loadTranscriptMessages => exact ⟨_, _, loadTranscriptMessages_trail h⟩
  | appendTranscriptMessages _ messages => exact ⟨_, _, appendTranscriptMessages_trail h messages⟩

/-- Every reachable database holds a record of every session. -/
theorem Reachable.holds (h : Reachable lib db) (sessionId : SessionId) :
    ∃ stored, Holds lib db sessionId stored := by
  induction h generalizing sessionId with
  | new => exact ⟨{}, holds_empty lib sessionId⟩
  | @operation db db' op q _ hsteps ih =>
      obtain ⟨stored, hstored⟩ := ih op.sessionId
      obtain ⟨records, result, htrail⟩ := exists_trail op hstored
      obtain ⟨record, hrecord, hothers, _⟩ := htrail.steps hstored hsteps
      by_cases hsession : sessionId = op.sessionId
      · exact ⟨record, hsession ▸ hrecord⟩
      · obtain ⟨other, hother⟩ := ih sessionId
        exact ⟨other, hothers sessionId hsession other hother⟩

/-! ## The statements of each operation -/

/-- All records but the last are those before the last change. -/
def Quiet (sessionId : SessionId) (stored : StoredSession) (changes : List Change) : Prop :=
  ∀ record ∈ (Change.trail stored changes).dropLast,
    record.state sessionId = stored.state sessionId

/-- Appending makes no change before its last when there is at most one message. -/
theorem appendTranscript_quiet_iff (messages : List Message) :
    Quiet sessionId stored (appendTranscriptChanges messages) ↔ messages.length ≤ 1 := by
  match messages with
  | [] => simp [Quiet, appendTranscriptChanges, Change.trail]
  | [_] => simp [Quiet, appendTranscriptChanges, Change.trail]
  | message :: _ :: _ =>
      simp only [List.length_cons, Nat.reduceLeDiff, iff_false]
      intro hquiet
      have hfirst : stored.transcript ++ [message] = stored.transcript :=
        congrArg SessionState.transcript (hquiet _ List.mem_cons_self)
      simp at hfirst

/-- Replacing features makes no change before its last when there are none or one comes where none
was. -/
theorem replaceFeatures_quiet_iff (features : List FeatureRecord) :
    Quiet sessionId stored (replaceFeaturesChanges features) ↔
      features = [] ∨ stored.features = [] ∧ features.length = 1 := by
  match features with
  | [] => simp [Quiet, replaceFeaturesChanges, Change.trail]
  | [feature] =>
      have hquiet : Quiet sessionId stored (replaceFeaturesChanges [feature]) ↔
          ({ stored with features := [] } : StoredSession).state sessionId =
            stored.state sessionId :=
        List.forall_mem_singleton
      rw [hquiet]
      simp [StoredSession.state, StoredSession.manifest, eq_comm (a := [])]
  | feature :: _ :: _ =>
      simp only [reduceCtorEq, List.length_cons, Nat.reduceEqDiff, and_false, or_self, iff_false]
      intro hquiet
      have hcleared : [] = stored.features :=
        congrArg SessionState.featureList (hquiet _ List.mem_cons_self)
      have hfirst : [feature] = stored.features :=
        congrArg SessionState.featureList (hquiet _ (List.mem_cons_of_mem _ List.mem_cons_self))
      rw [← hcleared] at hfirst
      cases hfirst

/-- The records that saving a manifest goes through. -/
theorem trail_saveManifest (lib : Libraries) (sessionId : SessionId) (manifest : SessionManifest)
    (stored : StoredSession) :
    let first := { stored with row := some (sessionRow sessionId manifest) }
    let second := { first with metadata := [] }
    let third := { second with metadata := lib.entries manifest.metadata, steps := [] }
    Change.trail stored (saveManifestChanges lib sessionId manifest) =
      first :: second ::
        (Change.trail second ((lib.entries manifest.metadata).map .addMetadata) ++
          third :: Change.trail third ((planSteps manifest).map .addStep)) := by
  intro first second third
  have hthird : Change.applyAll stored ([.setRow (sessionRow sessionId manifest), .clearMetadata] ++
      (lib.entries manifest.metadata).map .addMetadata) =
        { second with metadata := lib.entries manifest.metadata } := by
    rw [Change.applyAll_append, applyAll_addMetadata]
    rfl
  rw [saveManifestChanges, List.append_assoc, Change.trail_append, hthird, Change.trail_append]
  simp only [Change.trail, Change.apply, Change.applyAll, List.foldl_cons, List.foldl_nil,
    List.cons_append, List.nil_append]
  rfl

/-- Records that differ in what a manifest is stored in have the same state when they have the same
manifest. -/
theorem state_eq_iff_manifest (stored : StoredSession) (row : Option SessionRow)
    (metadata : List (String × String)) (steps : List InitStep) :
    ({ stored with row, metadata, steps } : StoredSession).state sessionId =
        stored.state sessionId ↔
      ({ stored with row, metadata, steps } : StoredSession).manifest sessionId =
        stored.manifest sessionId := by
  simp [StoredSession.state]

/-- Only empty metadata has no entries. -/
theorem entries_eq_nil_iff (lib : Libraries) (metadata : MetadataMap) :
    lib.entries metadata = [] ↔ metadata = ∅ := by
  constructor
  · intro h
    rw [← metadataOf_entries lib metadata, h]
    rfl
  · intro h
    have hperm := lib.entries_perm metadata
    rw [h] at hperm ⊢
    exact hperm.eq_nil

/-- The metadata and the steps that a stored manifest is read from. -/
theorem StoredSession.fields_of_manifest {stored : StoredSession} {manifest : SessionManifest}
    (h : stored.manifest sessionId = some manifest) :
    metadataOf stored.metadata = manifest.metadata ∧
      (if stored.steps.isEmpty then none else some ⟨stored.steps⟩) = manifest.initPlan := by
  cases hrow : stored.row with
  | none => simp [StoredSession.manifest, hrow] at h
  | some row =>
      simp only [StoredSession.manifest, hrow, Option.map_some, Option.some.injEq] at h
      subst h
      exact ⟨rfl, rfl⟩

/-- Saving a manifest makes no change before its last when the manifest has no metadata and is
stored already but for its plan, and the plan has no steps or is the first one and has a single
step. -/
theorem saveManifest_quiet_iff (lib : Libraries) (manifest : SessionManifest) :
    Quiet sessionId stored (saveManifestChanges lib sessionId manifest) ↔
      manifest.metadata = ∅ ∧ ∃ plan,
        stored.manifest sessionId = some { manifest with sessionId, initPlan := plan } ∧
          (planSteps manifest = [] ∨ plan = none ∧ (planSteps manifest).length = 1) := by
  -- The states on the way: the row is written, the metadata is cleared, and its entries are in
  -- with the steps cleared.
  let first := { stored with row := some (sessionRow sessionId manifest) }
  let second := { first with metadata := [] }
  let third := { second with metadata := lib.entries manifest.metadata, steps := [] }
  have hfirst : first.manifest sessionId = some { manifest with
      sessionId, metadata := metadataOf stored.metadata
      initPlan := if stored.steps.isEmpty then none else some ⟨stored.steps⟩ } :=
    StoredSession.manifest_of_row rfl
  have hsecond : second.manifest sessionId = some { manifest with
      sessionId, metadata := ∅
      initPlan := if stored.steps.isEmpty then none else some ⟨stored.steps⟩ } :=
    StoredSession.manifest_of_row rfl
  have hthird : third.manifest sessionId = some { manifest with sessionId, initPlan := none } := by
    rw [show third.manifest sessionId = _ from StoredSession.manifest_of_row rfl]
    simp [third]
  have hdropLast : (Change.trail stored (saveManifestChanges lib sessionId manifest)).dropLast =
      first :: second ::
        (Change.trail second ((lib.entries manifest.metadata).map .addMetadata) ++
          (third :: Change.trail third ((planSteps manifest).map .addStep)).dropLast) := by
    rw [trail_saveManifest, List.dropLast_cons_cons, List.dropLast_cons_of_ne_nil (by simp),
      List.dropLast_append_of_ne_nil (by simp)]
  rw [Quiet, hdropLast]
  simp only [List.forall_mem_cons, List.forall_mem_append]
  constructor
  · intro h
    obtain ⟨-, hsame, hentries, hlater⟩ := h
    have hstored := (congrArg SessionState.manifest hsame).symm.trans hsecond
    -- A first entry would already show in the state in which the metadata is being written.
    have hempty : lib.entries manifest.metadata = [] := by
      cases hentry : lib.entries manifest.metadata with
      | nil => rfl
      | cons entry entries =>
          rw [hentry] at hentries
          have hadded : ({ second with metadata := [entry] } : StoredSession).manifest sessionId =
              stored.manifest sessionId :=
            congrArg SessionState.manifest (hentries _ List.mem_cons_self)
          have hmanifests := (hadded.trans hstored).symm.trans (StoredSession.manifest_of_row rfl)
          have hentryIn := congrArg (·.metadata[entry.1]?) (Option.some.inj hmanifests)
          simp [metadataOf] at hentryIn
    have hmetadata : manifest.metadata = ∅ := (entries_eq_nil_iff lib _).mp hempty
    refine ⟨hmetadata, _, by rw [hmetadata]; exact hstored, ?_⟩
    cases hplan : planSteps manifest with
    | nil => exact .inl rfl
    | cons step steps =>
        rw [hplan] at hlater
        -- With a step to write, the state without steps is seen, so there was no plan before, and a
        -- second step would be seen after the first.
        have hcleared : third.manifest sessionId = stored.manifest sessionId := by
          refine congrArg SessionState.manifest (hlater third ?_)
          simp [Change.trail]
        have hnoPlan := congrArg SessionManifest.initPlan
          (Option.some.inj ((hcleared.trans hstored).symm.trans hthird))
        refine .inr ⟨hnoPlan, ?_⟩
        cases steps with
        | nil => rfl
        | cons =>
            have hadded : ({ third with steps := [step] } : StoredSession).manifest sessionId =
                stored.manifest sessionId := by
              refine congrArg SessionState.manifest (hlater { third with steps := [step] } ?_)
              simp [Change.trail, Change.apply, third]
            have hmanifests := (hadded.trans hstored).symm.trans (StoredSession.manifest_of_row rfl)
            have hplanIn := congrArg SessionManifest.initPlan (Option.some.inj hmanifests)
            rw [show _ = none from hnoPlan] at hplanIn
            cases hplanIn
  · intro h
    obtain ⟨hmetadata, plan, hplan, hsteps⟩ := h
    have hempty : lib.entries manifest.metadata = [] := (entries_eq_nil_iff lib _).mpr hmetadata
    -- What was stored before is what is saved, up to the plan.
    obtain ⟨hmetadataOf, hinitPlan⟩ := StoredSession.fields_of_manifest hplan
    rw [hmetadataOf, hinitPlan] at hfirst
    rw [hinitPlan, ← hmetadata] at hsecond
    have hfirstState : first.state sessionId = stored.state sessionId :=
      (state_eq_iff_manifest stored _ _ _).mpr (hfirst.trans hplan.symm)
    have hsecondState : second.state sessionId = stored.state sessionId :=
      (state_eq_iff_manifest stored first.row [] stored.steps).mpr (hsecond.trans hplan.symm)
    rw [hempty]
    refine ⟨hfirstState, hsecondState, by simp [Change.trail], ?_⟩
    rcases hsteps with hnone | ⟨rfl, hone⟩
    · rw [hnone]
      simp [Change.trail]
    · obtain ⟨step, hstep⟩ := List.length_eq_one_iff.mp hone
      have hthirdState : third.state sessionId = stored.state sessionId :=
        (state_eq_iff_manifest stored first.row (lib.entries manifest.metadata) []).mpr
          (hthird.trans hplan.symm)
      rw [hstep]
      simpa [Change.trail] using hthirdState

/-! ## All operations -/

/-- An operation on a reachable database is all or nothing exactly when it is written at once. -/
theorem all_or_nothing_iff (hdb : Reachable lib db) (op : MemoryOp) :
    AllOrNothing lib op db ↔ WrittenAtOnce (observe lib db op.sessionId) op := by
  obtain ⟨stored, hstored⟩ := hdb.holds op.sessionId
  rw [hstored.observe]
  cases op with
  | initializeSessionIfMissing sessionId manifest featureList entry checkpoint =>
      have hsome : (stored.state sessionId).manifest.isSome = stored.row.isSome := by
        simp [StoredSession.state, StoredSession.manifest]
      cases hrow : stored.row with
      | some row =>
          have htrail := initialize_trail_present hstored (by simp [hrow]) manifest featureList
            entry checkpoint
          rw [htrail.allOrNothing_iff hdb.holds hstored]
          simp [WrittenAtOnce, Observation.of, MemoryOp.sessionId, hsome, hrow]
      | none =>
          obtain ⟨rest, result, htrail, _⟩ :=
            initialize_trail_missing hstored hrow manifest featureList entry checkpoint
          rw [htrail.allOrNothing_iff hdb.holds hstored]
          refine iff_of_false (fun hquiet => ?_) ?_
          · have hfirst := congrArg (·.manifest.isSome) (hquiet.1 _ List.mem_cons_self)
            simp [StoredSession.state, StoredSession.manifest, hrow] at hfirst
          · simp [WrittenAtOnce, Observation.of, MemoryOp.sessionId, hsome, hrow]
  | saveManifest sessionId manifest =>
      rw [(saveManifest_trail hstored manifest).allOrNothing_iff hdb.holds hstored]
      refine (and_iff_left (by simp)).trans ?_
      exact saveManifest_quiet_iff lib manifest
  | replaceFeatureList sessionId features =>
      rw [(replaceFeatureList_trail hstored features).allOrNothing_iff hdb.holds hstored]
      refine (and_iff_left (by simp)).trans ?_
      exact replaceFeatures_quiet_iff features
  | appendTranscriptMessages sessionId messages =>
      rw [(appendTranscriptMessages_trail hstored messages).allOrNothing_iff hdb.holds hstored]
      refine (and_iff_left (by simp)).trans ?_
      exact appendTranscript_quiet_iff messages
  | appendProgressEntry sessionId entry =>
      have htrail := appendProgressEntry_trail hstored entry
      refine iff_of_true ?_ trivial
      split at htrail <;> exact (htrail.allOrNothing_iff hdb.holds hstored).mpr (by simp)
  | recordRunCheckpoint sessionId checkpoint =>
      have htrail := recordRunCheckpoint_trail hstored checkpoint
      refine iff_of_true ?_ trivial
      split at htrail <;> exact (htrail.allOrNothing_iff hdb.holds hstored).mpr (by simp)
  | updateFeaturePass sessionId featureId passes =>
      have htrail := updateFeaturePass_trail hstored featureId passes
      refine iff_of_true ?_ trivial
      split at htrail <;> exact (htrail.allOrNothing_iff hdb.holds hstored).mpr (by simp)
  | isInitialized sessionId =>
      rw [(isInitialized_trail hstored).allOrNothing_iff hdb.holds hstored]
      simp [WrittenAtOnce]
  | loadBootstrapState sessionId =>
      obtain ⟨records, hsame, htrail⟩ := loadBootstrapState_trail hstored
      rw [htrail.allOrNothing_iff hdb.holds hstored]
      refine iff_of_true ⟨fun record hrecord => ?_, by simp⟩ trivial
      rw [hsame record (List.mem_of_mem_dropLast hrecord)]
  | loadTranscriptMessages sessionId =>
      rw [(loadTranscriptMessages_trail hstored).allOrNothing_iff hdb.holds hstored]
      simp [WrittenAtOnce]

/-- The initialization of a session with two features. -/
def twoFeatures : MemoryOp :=
  .initializeSessionIfMissing ⟨"demo"⟩ (.new ⟨"demo"⟩ "main" "ship")
    [⟨"login", "core", "sign in", [], false⟩, ⟨"logout", "core", "sign out", [], false⟩] none none

/-- The manifest of that session with a plan of one step. -/
def plannedManifest : SessionManifest :=
  { SessionManifest.new ⟨"demo"⟩ "main" "ship" with
    initPlan := some ⟨[.command "git" ["status"]]⟩ }

/-- Once the session is there, that plan is written at once. -/
theorem all_or_nothing_iff_first_plan : ∃ db, Reachable .compact db ∧
    (observe .compact db ⟨"demo"⟩).isInitialized = .ok true ∧
    (observe .compact db ⟨"demo"⟩).featureList.map FeatureRecord.id = ["login", "logout"] ∧
    AllOrNothing .compact (.saveManifest ⟨"demo"⟩ plannedManifest) db := by
  have hempty : Holds .compact .empty ⟨"demo"⟩ {} := holds_empty .compact ⟨"demo"⟩
  obtain ⟨rest, result, htrail, hcompletes⟩ := initialize_trail_missing hempty rfl
    (.new ⟨"demo"⟩ "main" "ship")
    [⟨"login", "core", "sign in", [], false⟩, ⟨"logout", "core", "sign out", [], false⟩] none none
  obtain ⟨-, hlast⟩ := hcompletes (by simp)
  obtain ⟨db, hsteps, hholds, -⟩ := htrail.completes hempty
  rw [List.getLastD_cons, List.getLastD_cons, hlast] at hholds
  have hexecutes : Executes (operation .compact twoFeatures) .empty (.pure result) db := hsteps
  have hreachable : Reachable .compact db := .operation .new hexecutes
  refine ⟨db, hreachable, ?_, ?_, (all_or_nothing_iff hreachable _).mpr ?_⟩
  · rw [hholds.observe]
    rfl
  · rw [hholds.observe]
    rfl
  · show WrittenAtOnce (observe .compact db ⟨"demo"⟩) _
    rw [hholds.observe]
    exact ⟨rfl, none, rfl, .inr ⟨rfl, rfl⟩⟩

/-- When its second statement fails, the session is initialized without its features. -/
theorem initialization_interrupted :
    Reachable .compact .empty ∧ ¬ AllOrNothing .compact twoFeatures .empty := by
  refine ⟨.new, fun hall => ?_⟩
  have hempty : Holds .compact .empty ⟨"demo"⟩ {} := holds_empty .compact ⟨"demo"⟩
  obtain ⟨rest, result, htrail, _⟩ := initialize_trail_missing hempty rfl
    (.new ⟨"demo"⟩ "main" "ship")
    [⟨"login", "core", "sign in", [], false⟩, ⟨"logout", "core", "sign out", [], false⟩] none none
  obtain ⟨error, db', hsteps, hholds, _⟩ := htrail.fails hempty List.mem_cons_self
  have hsame := (hall _ _ hsteps).1 ⟨error, rfl⟩
  have hobserved := (congrFun hsame ⟨"demo"⟩).symm.trans hholds.observe
  rw [hempty.observe, Observation.of_inj] at hobserved
  exact absurd (congrArg (·.manifest.isSome) hobserved) (by decide)

end Fiddlesticks.Memory.Sqlite

import Fiddlesticks.Memory.Operations
import Fiddlesticks.Memory.Sqlite.Operations

/-!
# The SQLite backend refines the in-memory backend

Without failures the record of a session in the tables follows the state of the session in memory,
but for one thing: a plan without steps is stored like no plan. So the two backends give the same
answers as long as no such plan is loaded.
-/

namespace Fiddlesticks.Memory

open Provider

/-! ## Plans without steps -/

/-- The manifest without a plan that has no steps. -/
def SessionManifest.normalise (manifest : SessionManifest) : SessionManifest :=
  { manifest with initPlan := manifest.initPlan.filter (!·.steps.isEmpty) }

/-- The state of a session without a plan that has no steps. -/
def SessionState.normalise (state : SessionState) : SessionState :=
  { state with manifest := state.manifest.map SessionManifest.normalise }

/-- The manifest of the session has a plan without steps. -/
def SessionState.HasEmptyPlan (state : SessionState) : Prop :=
  ∃ manifest ∈ state.manifest, manifest.initPlan = some ⟨[]⟩

/-- A manifest is kept as it is unless its plan has no steps. -/
theorem SessionManifest.normalise_eq_iff (manifest : SessionManifest) :
    manifest.normalise = manifest ↔ manifest.initPlan ≠ some ⟨[]⟩ := by
  obtain ⟨sessionId, schemaVersion, harness, branch, objective, commit, plan, metadata⟩ := manifest
  rcases plan with - | ⟨- | ⟨step, steps⟩⟩ <;> simp [normalise, Option.filter]

/-- A session is kept as it is unless its plan has no steps. -/
theorem SessionState.normalise_eq_iff (state : SessionState) :
    state.normalise = state ↔ ¬ state.HasEmptyPlan := by
  obtain ⟨- | manifest, features, progress, checkpoints, transcript⟩ := state
  · simp [normalise, HasEmptyPlan]
  · simp [normalise, HasEmptyPlan, manifest.normalise_eq_iff]

/-- What is loaded of a session shows whether it has a plan without steps. -/
theorem SessionState.normalise_bootstrap_eq_iff (state : SessionState) :
    state.normalise.bootstrap = state.bootstrap ↔ ¬ state.HasEmptyPlan := by
  rw [← normalise_eq_iff]
  obtain ⟨manifest, features, progress, checkpoints, transcript⟩ := state
  simp [normalise, bootstrap]

/-- What is kept of a manifest is kept. -/
@[simp] theorem SessionManifest.normalise_idem (manifest : SessionManifest) :
    manifest.normalise.normalise = manifest.normalise := by
  simp [normalise, Option.filter_filter]

/-- The same, as functions. -/
@[simp] theorem SessionManifest.normalise_comp :
    SessionManifest.normalise ∘ SessionManifest.normalise = SessionManifest.normalise :=
  funext normalise_idem

/-- What is kept of a session is kept. -/
@[simp] theorem SessionState.normalise_idem (state : SessionState) :
    state.normalise.normalise = state.normalise := by
  simp [normalise]

/-- Operations treat a plan without steps like no plan. -/
theorem SessionState.apply_normalise (state : SessionState) (op : MemoryOp) :
    (state.normalise.apply op).2.normalise = (state.apply op).2.normalise := by
  cases op with
  | initializeSessionIfMissing =>
      simp only [apply, normalise, Option.isSome_map]
      split <;> simp
  | updateFeaturePass _ featureId passes =>
      simp only [apply, normalise]
      cases setFeaturePass featureId passes state.featureList <;> simp
  | isInitialized => exact state.normalise_idem
  | loadBootstrapState => exact state.normalise_idem
  | loadTranscriptMessages => exact state.normalise_idem
  | saveManifest => rfl
  | appendProgressEntry | replaceFeatureList | recordRunCheckpoint | appendTranscriptMessages =>
      simp [apply, normalise]

/-- Only loading a state can tell a plan without steps from no plan. -/
theorem SessionState.answer_normalise (state : SessionState) (op : MemoryOp) :
    (state.normalise.apply op).1 = (state.apply op).1 ↔
      ∀ sessionId, op = .loadBootstrapState sessionId → ¬ state.HasEmptyPlan := by
  cases op with
  | loadBootstrapState =>
      simp [apply, normalise_bootstrap_eq_iff]
  | initializeSessionIfMissing =>
      simp only [apply, normalise, Option.isSome_map]
      split <;> simp
  | updateFeaturePass _ featureId passes =>
      simp only [apply, normalise]
      cases setFeaturePass featureId passes state.featureList <;> simp
  | _ => simp [apply, normalise]

namespace Sqlite

open Effect

variable {lib : Libraries} {db : Database} {stored : StoredSession}

/-! ## One operation -/

/-- A stored session never has a plan without steps. -/
@[simp] theorem StoredSession.state_normalise (stored : StoredSession) (sessionId : SessionId) :
    (stored.state sessionId).normalise = stored.state sessionId := by
  rw [SessionState.normalise_eq_iff]
  intro h
  obtain ⟨manifest, hmanifest, hplan⟩ := h
  cases hrow : stored.row with
  | none => simp [state, StoredSession.manifest, hrow] at hmanifest
  | some row =>
      simp only [state, StoredSession.manifest, hrow, Option.map_some, Option.mem_some_iff]
        at hmanifest
      subst hmanifest
      cases hsteps : stored.steps <;> simp [hsteps] at hplan

/-- What is read back of a manifest that was saved. -/
theorem StoredSession.manifest_saved (lib : Libraries) {sessionId : SessionId}
    {manifest : SessionManifest} (hkey : manifest.sessionId = sessionId) (stored : StoredSession)
    (hrow : stored.row = some (sessionRow sessionId manifest))
    (hmetadata : stored.metadata = lib.entries manifest.metadata)
    (hsteps : stored.steps = planSteps manifest) :
    stored.manifest sessionId = some manifest.normalise := by
  subst hkey
  obtain ⟨sessionId, schemaVersion, harness, branch, objective, commit, plan, metadata⟩ := manifest
  rw [StoredSession.manifest_of_row hrow, hmetadata, hsteps, metadataOf_entries]
  rcases plan with - | ⟨- | ⟨step, steps⟩⟩ <;> rfl

/-- An initialization answers as it would on the state in the tables and leaves that state. -/
theorem initialize_follows {sessionId : SessionId} (h : Holds lib db sessionId stored)
    {manifest : SessionManifest} (hkey : manifest.sessionId = sessionId)
    (featureList : List FeatureRecord) {entry : Option ProgressEntry}
    {checkpoint : Option RunCheckpoint}
    (htimes : ∀ time ∈ entry.toList.flatMap ProgressEntry.timestamps ++
      checkpoint.toList.flatMap RunCheckpoint.timestamps, time.AfterEpoch) :
    ∃ records, OperationTrail lib sessionId (initializeSessionIfMissing lib sessionId manifest
        featureList entry checkpoint) db records ((stored.state sessionId).apply
          (.initializeSessionIfMissing sessionId manifest featureList entry checkpoint)).1 ∧
      (records.getLastD stored).state sessionId = ((stored.state sessionId).apply
        (.initializeSessionIfMissing sessionId manifest featureList entry checkpoint)).2.normalise
        := by
  have hsome : (stored.state sessionId).manifest.isSome = stored.row.isSome := by
    simp [StoredSession.state, StoredSession.manifest]
  cases hrow : stored.row with
  | some row =>
      have happly : (stored.state sessionId).apply (.initializeSessionIfMissing sessionId
          manifest featureList entry checkpoint) = (.ok false, stored.state sessionId) :=
        if_pos (by simp [hsome, hrow])
      rw [happly]
      exact ⟨_, initialize_trail_present h (by simp [hrow]) manifest featureList entry checkpoint,
        (stored.state_normalise sessionId).symm⟩
  | none =>
      have happly : (stored.state sessionId).apply (.initializeSessionIfMissing sessionId
          manifest featureList entry checkpoint) = (.ok true, { stored.state sessionId with
            manifest := some manifest
            featureList
            progress := stored.progress ++ entry.toList
            checkpoints := stored.checkpoints ++ checkpoint.toList }) :=
        if_neg (by simp [hsome, hrow])
      obtain ⟨rest, result, htrail, hok⟩ :=
        initialize_trail_missing h hrow manifest featureList entry checkpoint
      obtain ⟨rfl, hlast⟩ := hok htimes
      rw [happly]
      refine ⟨_, htrail, ?_⟩
      rw [List.getLastD_cons, List.getLastD_cons, hlast]
      have hmanifest : (stored.initialized lib sessionId manifest featureList entry
          checkpoint).manifest sessionId = some manifest.normalise :=
        StoredSession.manifest_saved lib hkey _ rfl rfl rfl
      simp only [StoredSession.state, hmanifest]
      rfl

/-- An operation answers as it would on the state that its session has in the tables, and leaves
the tables with the state it would leave. -/
theorem operation_trail {op : MemoryOp} (h : Holds lib db op.sessionId stored)
    (hop : op.Admissible) :
    ∃ records, OperationTrail lib op.sessionId (operation lib op) db records
        ((stored.state op.sessionId).apply op).1 ∧
      (records.getLastD stored).state op.sessionId =
        ((stored.state op.sessionId).apply op).2.normalise := by
  cases op with
  | isInitialized sessionId => exact ⟨_, isInitialized_trail h, by simp [SessionState.apply]⟩
  | initializeSessionIfMissing sessionId manifest featureList entry checkpoint =>
      exact initialize_follows h (hop.keys manifest (List.mem_singleton_self _)) featureList
        hop.times
  | loadBootstrapState sessionId =>
      obtain ⟨records, hsame, htrail⟩ := loadBootstrapState_trail h
      refine ⟨records, htrail, ?_⟩
      rw [getLastD_of_same hsame]
      exact (stored.state_normalise sessionId).symm
  | saveManifest sessionId manifest =>
      refine ⟨_, saveManifest_trail h manifest, ?_⟩
      rw [Change.getLastD_trail, applyAll_saveManifest]
      have hmanifest : StoredSession.manifest { stored with
          row := some (sessionRow sessionId manifest), metadata := lib.entries manifest.metadata,
          steps := planSteps manifest } sessionId = some manifest.normalise :=
        StoredSession.manifest_saved lib (hop.keys manifest (List.mem_singleton_self _)) _
          rfl rfl rfl
      simp only [MemoryOp.sessionId, StoredSession.state, hmanifest]
      rfl
  | appendProgressEntry sessionId entry =>
      obtain ⟨row, hrow⟩ := progressRow_ok hop.times sessionId
      have htrail := appendProgressEntry_trail h entry
      simp only [MemoryOp.sessionId, hrow] at htrail
      exact ⟨_, htrail, (StoredSession.state_normalise _ _).symm⟩
  | replaceFeatureList sessionId features =>
      refine ⟨_, replaceFeatureList_trail h features, ?_⟩
      rw [Change.getLastD_trail, applyAll_replaceFeatures]
      exact (StoredSession.state_normalise _ _).symm
  | updateFeaturePass sessionId featureId passes =>
      have htrail := updateFeaturePass_trail h featureId passes
      simp only [SessionState.apply]
      -- An unknown feature is an error in both, and neither writes anything.
      cases hset : setFeaturePass featureId passes stored.features with
      | none =>
          rw [hset] at htrail
          simp only [StoredSession.state, hset]
          exact ⟨_, htrail, (stored.state_normalise sessionId).symm⟩
      | some features =>
          rw [hset] at htrail
          simp only [StoredSession.state, hset]
          exact ⟨_, htrail, (StoredSession.state_normalise _ _).symm⟩
  | recordRunCheckpoint sessionId checkpoint =>
      obtain ⟨row, hrow⟩ := checkpointRow_ok hop.times sessionId
      have htrail := recordRunCheckpoint_trail h checkpoint
      simp only [MemoryOp.sessionId, hrow] at htrail
      exact ⟨_, htrail, (StoredSession.state_normalise _ _).symm⟩
  | loadTranscriptMessages sessionId =>
      exact ⟨_, loadTranscriptMessages_trail h, (stored.state_normalise sessionId).symm⟩
  | appendTranscriptMessages sessionId messages =>
      refine ⟨_, appendTranscriptMessages_trail h messages, ?_⟩
      rw [Change.getLastD_trail, applyAll_appendTranscript]
      exact (StoredSession.state_normalise _ _).symm

/-! ## All operations -/

/-- The tables hold what is in memory, except for plans without steps. -/
structure Simulates (lib : Libraries) (backend : SqliteMemoryBackend)
    (memory : InMemoryMemoryBackend) : Prop where
  notPoisoned : backend.poisoned = false
  memoryNotPoisoned : memory.poisoned = false
  holds : ∀ sessionId, ∃ stored, Holds lib backend.database sessionId stored ∧
    stored.state sessionId = (memory.session sessionId).normalise

variable {backend : SqliteMemoryBackend} {memory : InMemoryMemoryBackend}

/-- New backends hold nothing. -/
theorem simulates_new (lib : Libraries) : Simulates lib .new .new :=
  ⟨rfl, rfl, fun sessionId => ⟨{}, holds_empty lib sessionId, rfl⟩⟩

/-- An operation keeps the simulation. Its answers agree unless it loads a plan without steps. -/
theorem Simulates.step (h : Simulates lib backend memory) {op : MemoryOp} (hop : op.Admissible) :
    Simulates lib (backend.perform lib op).2 (InMemoryMemoryBackend.handle op memory).2 ∧
      ((backend.perform lib op).1 = (InMemoryMemoryBackend.handle op memory).1 ↔
        ∀ sessionId, op = .loadBootstrapState sessionId →
          ¬ (memory.session sessionId).HasEmptyPlan) := by
  obtain ⟨database, poisoned⟩ := backend
  obtain ⟨hpoisoned, hmemory, hholds⟩ := h
  subst hpoisoned
  obtain ⟨stored, hstored, hstate⟩ := hholds op.sessionId
  obtain ⟨records, htrail, hlast⟩ := operation_trail hstored hop
  obtain ⟨db', hrun, hholds', hothers⟩ := htrail.run_handle hstored
  obtain ⟨hanswer, hpoisoned⟩ := InMemoryMemoryBackend.handle_of_not_poisoned op hmemory
  have hsession := InMemoryMemoryBackend.handle_session op memory
  rw [if_neg (by simp [hmemory])] at hsession
  rw [hstate] at hlast
  change SqliteMemoryBackend.perform lib op ⟨database, false⟩ = _ at hrun
  rw [hrun, hanswer, hstate, SessionState.answer_normalise]
  refine ⟨⟨rfl, hpoisoned, fun sessionId => ?_⟩, ?_⟩
  · by_cases hsame : sessionId = op.sessionId
    · subst hsame
      refine ⟨_, hholds', ?_⟩
      rw [hsession, Function.update_self, hlast, SessionState.apply_normalise]
    · obtain ⟨other, hother, hotherState⟩ := hholds sessionId
      refine ⟨other, hothers sessionId hsame other hother, ?_⟩
      rw [hsession, Function.update_of_ne hsame, hotherState]
  · refine forall_congr' fun sessionId => ?_
    constructor
    · rintro h rfl
      exact h rfl
    · rintro h rfl
      exact h rfl

/-- From related backends the answers agree exactly when no plan without steps is loaded. -/
theorem Simulates.answers_eq_iff (h : Simulates lib backend memory) {ops : List MemoryOp}
    (hops : ∀ op ∈ ops, op.Admissible) :
    answers (SqliteMemoryBackend.perform lib) ops backend =
        answers InMemoryMemoryBackend.handle ops memory ↔
      ∀ before sessionId after, ops = before ++ .loadBootstrapState sessionId :: after →
        ¬ ((stateAfter InMemoryMemoryBackend.handle before memory).session
          sessionId).HasEmptyPlan := by
  induction ops generalizing backend memory with
  | nil => simp [answers]
  | cons op ops ih =>
      obtain ⟨hnext, hanswer⟩ := h.step (hops op List.mem_cons_self)
      have hrest := ih hnext fun other hother => hops other (.tail _ hother)
      rw [answers, answers, List.cons.injEq, hrest]
      simp only [Sigma.mk.injEq, heq_eq_eq, true_and, hanswer]
      constructor
      · rintro ⟨hfirst, hothers⟩ before sessionId after hsplit
        cases before with
        | nil => exact hfirst sessionId (List.cons.inj hsplit).1
        | cons first before =>
            obtain ⟨rfl, htail⟩ := List.cons.inj hsplit
            exact hothers before sessionId after htail
      · intro hall
        refine ⟨fun sessionId hload => ?_, fun before sessionId after hsplit => ?_⟩
        · exact hall [] sessionId ops (by rw [hload]; rfl)
        · exact hall (op :: before) sessionId after (by rw [hsplit]; rfl)

/-- On new stores, the SQLite backend gives the answers of the in-memory backend to a sequence of
operations exactly when `load_bootstrap_state` is never asked for a session whose manifest has a
plan without steps. -/
theorem sqlite_answers_eq_iff (lib : Libraries) (ops : List MemoryOp)
    (hops : ∀ op ∈ ops, op.Admissible) :
    answers (SqliteMemoryBackend.perform lib) ops .new =
        answers InMemoryMemoryBackend.handle ops .new ↔
      ∀ before sessionId after, ops = before ++ .loadBootstrapState sessionId :: after →
        ¬ ((stateAfter InMemoryMemoryBackend.handle before .new).session
          sessionId).HasEmptyPlan :=
  (simulates_new lib).answers_eq_iff hops

/-- A session with a plan and two features of the same id, one of which is passed. -/
def demoOps : List MemoryOp :=
  [.initializeSessionIfMissing ⟨"demo"⟩
      { SessionManifest.new ⟨"demo"⟩ "main" "ship" with
        initPlan := some ⟨[.command "git" ["status"], .shell .bash "make"]⟩ }
      [⟨"login", "core", "sign in", ["open \"/\"", "sign in"], false⟩,
        ⟨"login", "core", "sign out", [], false⟩]
      (some ⟨"run", "started", ⟨0, 0⟩⟩) none,
    .updateFeaturePass ⟨"demo"⟩ "login" true,
    .recordRunCheckpoint ⟨"demo"⟩ ⟨"run", ⟨0, 0⟩, some ⟨5, 1⟩, .succeeded, none⟩,
    .loadBootstrapState ⟨"demo"⟩]

/-- The answers are the same in a run with a plan that has a step. -/
theorem sqlite_answers_eq_iff_demo :
    answers (SqliteMemoryBackend.perform .compact) demoOps .new =
      answers InMemoryMemoryBackend.handle demoOps .new := by
  have hadmissible : ∀ op ∈ demoOps, op.Admissible := by
    simp only [demoOps, List.forall_mem_cons]
    refine ⟨⟨by decide, ?_⟩, ⟨by decide, ?_⟩, ⟨by decide, ?_⟩, ⟨by decide, ?_⟩, by simp⟩ <;>
      simp [MemoryOp.manifests, MemoryOp.sessionId, SessionManifest.new]
  refine (sqlite_answers_eq_iff .compact demoOps hadmissible).mpr ?_
  intro before sessionId after hsplit h
  obtain ⟨manifest, hmanifest, hplan⟩ := h
  rcases before with - | ⟨first, - | ⟨second, - | ⟨third, - | ⟨fourth, before⟩⟩⟩⟩ <;>
    simp only [demoOps, List.cons_append, List.nil_append, List.cons.injEq, reduceCtorEq,
      false_and, and_false, List.nil_eq_append_iff] at hsplit
  obtain ⟨rfl, rfl, rfl, hload, rfl⟩ := hsplit
  cases hload
  cases hmanifest
  cases hplan

/-- A session is initialized with a plan without steps and loaded. -/
def emptyPlanOps : List MemoryOp :=
  [.initializeSessionIfMissing ⟨"demo"⟩
      { SessionManifest.new ⟨"demo"⟩ "main" "ship" with initPlan := some ⟨[]⟩ } [] none none,
    .loadBootstrapState ⟨"demo"⟩]

/-- SQLite loses the plan. -/
theorem sqlite_loses_empty_plan : (∀ op ∈ emptyPlanOps, op.Admissible) ∧
    answers (SqliteMemoryBackend.perform .compact) emptyPlanOps .new ≠
      answers InMemoryMemoryBackend.handle emptyPlanOps .new := by
  have hadmissible : ∀ op ∈ emptyPlanOps, op.Admissible := by
    simp only [emptyPlanOps, List.forall_mem_cons]
    refine ⟨⟨by decide, ?_⟩, ⟨by decide, ?_⟩, by simp⟩ <;>
      simp [MemoryOp.manifests, MemoryOp.sessionId, SessionManifest.new]
  refine ⟨hadmissible, fun heq => ?_⟩
  refine ((simulates_new .compact).answers_eq_iff hadmissible).mp heq
    (emptyPlanOps.take 1) ⟨"demo"⟩ [] rfl ?_
  exact ⟨_, rfl, rfl⟩

end Sqlite

end Fiddlesticks.Memory

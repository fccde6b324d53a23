import Fiddlesticks.Memory.Postgres.Refinement
import Fiddlesticks.Memory.Sqlite.Refinement

/-!
# Backends that imitate each other

A backend imitates another when it can give every answer of the other to the operations that
backends can store. The filesystem backend, the SQLite backend and, where no statement fails, the
Postgres backend imitate the in-memory backend and are imitated by it.
-/

namespace Fiddlesticks.Memory

open Effect Prog

variable {ι σ τ : Type}

/-! ## Imitation -/

/-- A backend whose operations run one at a time. -/
def Performs (perform : (op : MemoryOp) → σ → op.Answer × σ) (_ : ι) (backend : σ)
    (e : Event MemorySig) (backend' : σ) : Prop :=
  perform e.op backend = (e.ans, backend')

/-- The second backend can answer every allowed operation like the first. -/
def Imitates (allowed : MemoryOp → Prop) (R : σ → τ → Prop)
    (serves : ι → σ → Event MemorySig → σ → Prop) (serves' : ι → τ → Event MemorySig → τ → Prop) :
    Prop :=
  ∀ i s t op answer s', R s t → allowed op → serves i s ⟨op, answer⟩ s' →
    ∃ t', serves' i t ⟨op, answer⟩ t' ∧ R s' t'

/-- Each of two backends imitates the other. -/
structure Alike (allowed : MemoryOp → Prop) (R : σ → τ → Prop)
    (serves : ι → σ → Event MemorySig → σ → Prop) (serves' : ι → τ → Event MemorySig → τ → Prop) :
    Prop where
  forth : Imitates allowed R serves serves'
  back : Imitates allowed (fun t s => R s t) serves' serves

section

variable {allowed allowed' : MemoryOp → Prop} {R : σ → τ → Prop}
  {serves : ι → σ → Event MemorySig → σ → Prop} {serves' : ι → τ → Event MemorySig → τ → Prop}

/-- Imitation for more operations is imitation for fewer. -/
theorem Imitates.mono (h : Imitates allowed R serves serves')
    (hallowed : ∀ op, allowed' op → allowed op) : Imitates allowed' R serves serves' :=
  fun i s t op answer s' hR hop hserves => h i s t op answer s' hR (hallowed op hop) hserves

/-- So it is in both directions. -/
theorem Alike.mono (h : Alike allowed R serves serves')
    (hallowed : ∀ op, allowed' op → allowed op) : Alike allowed' R serves serves' :=
  ⟨h.forth.mono hallowed, h.back.mono hallowed⟩

end

/-- An operation that backends can store, with manifests as stated. -/
def MemoryOp.Storable (keeps : SessionManifest → Prop) (op : MemoryOp) : Prop :=
  op.Admissible ∧ ∀ manifest ∈ op.manifests, keeps manifest

/-- The operation is about the transcript of its session. -/
def MemoryOp.IsTranscript : MemoryOp → Prop
  | .loadTranscriptMessages _ => True
  | .appendTranscriptMessages _ _ => True
  | _ => False

/-- Every operation on transcripts can be stored. -/
theorem MemoryOp.IsTranscript.admissible {op : MemoryOp} (hop : op.IsTranscript) :
    op.Admissible := by
  cases op with
  | loadTranscriptMessages sessionId => exact ⟨by simp [timestamps], by simp [manifests]⟩
  | appendTranscriptMessages sessionId messages =>
      exact ⟨by simp [timestamps], by simp [manifests]⟩
  | _ => exact hop.elim


/-- Backends that give the same answers and stay related are alike. -/
theorem alike_of_performs {allowed : MemoryOp → Prop} {R : σ → τ → Prop}
    {perform : (op : MemoryOp) → σ → op.Answer × σ} {perform' : (op : MemoryOp) → τ → op.Answer × τ}
    (h : ∀ {s t op}, R s t → allowed op →
      R (perform op s).2 (perform' op t).2 ∧ (perform op s).1 = (perform' op t).1) :
    Alike allowed R (Performs perform : ι → _) (Performs perform') where
  forth i s t op answer s' hR hop hperform := by
    have hs : perform op s = (answer, s') := hperform
    obtain ⟨hnext, hanswer⟩ := h hR hop
    rw [hs] at hnext hanswer
    exact ⟨_, Prod.ext hanswer.symm rfl, hnext⟩
  back i t s op answer t' hR hop hperform := by
    have ht : perform' op t = (answer, t') := hperform
    obtain ⟨hnext, hanswer⟩ := h hR hop
    rw [ht] at hnext hanswer
    exact ⟨_, Prod.ext hanswer rfl, hnext⟩

/-! ## The filesystem -/

/-- The filesystem and the in-memory backend are alike. -/
theorem filesystem_alike {J : Type} {json : StateJson J} (hwrites : Filesystem.WritesAll json) :
    Alike MemoryOp.Admissible (Filesystem.Simulates json)
      (Performs (Filesystem.FilesystemMemoryBackend.perform json) : ι → _)
      (Performs InMemoryMemoryBackend.handle) :=
  alike_of_performs fun hsimulates hop => hsimulates.step hwrites hop

/-! ## SQLite -/

/-- The manifest does not have a plan without steps. -/
def NoEmptyPlan (manifest : SessionManifest) : Prop :=
  manifest.initPlan ≠ some ⟨[]⟩

/-- The tables hold what is in memory, where no session has a plan without steps. -/
structure SqliteSimulates (lib : Sqlite.Libraries) (backend : Sqlite.SqliteMemoryBackend)
    (memory : InMemoryMemoryBackend) : Prop where
  simulates : Sqlite.Simulates lib backend memory
  plans : ∀ sessionId, ¬ (memory.session sessionId).HasEmptyPlan

/-- Operations that save no plan without steps leave none. -/
theorem not_hasEmptyPlan_apply {state : SessionState} (h : ¬ state.HasEmptyPlan) {op : MemoryOp}
    (hop : ∀ manifest ∈ op.manifests, NoEmptyPlan manifest) :
    ¬ (state.apply op).2.HasEmptyPlan := by
  cases op with
  | initializeSessionIfMissing sessionId manifest featureList entry checkpoint =>
      rw [SessionState.apply]
      split
      · exact h
      · rintro ⟨_, ⟨⟩, hplan⟩
        exact hop manifest (List.mem_singleton_self _) hplan
  | saveManifest sessionId manifest =>
      rintro ⟨_, ⟨⟩, hplan⟩
      exact hop manifest (List.mem_singleton_self _) hplan
  | updateFeaturePass sessionId featureId passes =>
      rw [SessionState.apply]
      split <;> exact h
  | _ => exact h

/-- An operation that saves no plan without steps is answered alike and keeps the tables alike. -/
theorem SqliteSimulates.step {lib : Sqlite.Libraries} {backend : Sqlite.SqliteMemoryBackend}
    {memory : InMemoryMemoryBackend} (h : SqliteSimulates lib backend memory) {op : MemoryOp}
    (hop : op.Storable NoEmptyPlan) :
    SqliteSimulates lib (Sqlite.SqliteMemoryBackend.perform lib op backend).2
        (InMemoryMemoryBackend.handle op memory).2 ∧
      (Sqlite.SqliteMemoryBackend.perform lib op backend).1 =
        (InMemoryMemoryBackend.handle op memory).1 := by
  obtain ⟨hnext, hanswer⟩ := h.simulates.step hop.1
  refine ⟨⟨hnext, fun sessionId => ?_⟩, hanswer.mpr fun sessionId _ => h.plans sessionId⟩
  rw [InMemoryMemoryBackend.handle_session, if_neg (by simp [h.simulates.memoryNotPoisoned])]
  by_cases hsame : sessionId = op.sessionId
  · subst hsame
    rw [Function.update_self]
    exact not_hasEmptyPlan_apply (h.plans _) hop.2
  · rw [Function.update_of_ne hsame]
    exact h.plans sessionId

/-- SQLite and the in-memory backend are alike for manifests whose plans have steps. -/
theorem sqlite_alike (lib : Sqlite.Libraries) :
    Alike (MemoryOp.Storable NoEmptyPlan) (SqliteSimulates lib)
      (Performs (Sqlite.SqliteMemoryBackend.perform lib) : ι → _)
      (Performs InMemoryMemoryBackend.handle) :=
  alike_of_performs fun hsimulates hop => hsimulates.step hop

/-- Plans play no part in transcripts. -/
theorem sqlite_alike_transcript (lib : Sqlite.Libraries) :
    Alike MemoryOp.IsTranscript (Sqlite.Simulates lib)
      (Performs (Sqlite.SqliteMemoryBackend.perform lib) : ι → _)
      (Performs InMemoryMemoryBackend.handle) := by
  refine alike_of_performs fun hsimulates hop => ?_
  obtain ⟨hnext, hanswer⟩ := hsimulates.step hop.admissible
  refine ⟨hnext, hanswer.mpr ?_⟩
  rintro sessionId rfl
  exact hop.elim

/-! ## Postgres -/

/-- The backend runs an operation on the connection of its execution, statement by statement, before
the next one begins. -/
def PerformsOnPostgres [DecidableEq ι] {J : Type} (json : StateJson J) (fails : Prop) (i : ι)
    (db : Postgres.Database ι J) (e : Event MemorySig) (db' : Postgres.Database ι J) : Prop :=
  Steps (Postgres.ActsIf fails i) (Postgres.operation json e.op).run db (.pure e.ans) db'

section

variable [DecidableEq ι] {J : Type} {json : StateJson J} {fails : Prop}
  {db : Postgres.Database ι J} {memory : InMemoryMemoryBackend}

/-- An operation runs to an end, and every end is one of an in-memory backend that may fail. -/
theorem postgres_operation (hwrites : Filesystem.WritesAll json) (i : ι)
    (hsimulates : Postgres.Simulates json db memory) {op : MemoryOp} (hop : op.Admissible) :
    (∃ answer db', PerformsOnPostgres json fails i db ⟨op, answer⟩ db') ∧
    ∀ answer db', PerformsOnPostgres json fails i db ⟨op, answer⟩ db' →
      ∃ memory', Flaky (fun _ => fails) memory ⟨op, answer⟩ memory' ∧
        Postgres.Simulates json db' memory' := by
  have hends : Postgres.Ends fails i (Postgres.Outcome fails json db op
      (memory.session op.sessionId)) (Postgres.operation json op) db :=
    Postgres.operation_ends hsimulates.idle (hsimulates.stored op.sessionId) hop.keys
  refine ⟨hends.to_end fun {db op} hready => ?_, fun answer db' hperforms => ?_⟩
  · obtain ⟨result, db', hserve⟩ := hready
    exact ⟨.ok result, db', .served hserve, by simp⟩
  · obtain ⟨memory', hflaky, hnext⟩ := hsimulates.outcome (hends.returns hperforms)
    refine ⟨memory', ?_, hnext⟩
    cases hflaky with
    | served => exact .served op
    | failed _ error hexcused =>
        refine .failed op error (hexcused.resolve_right ?_)
        rintro (hnot | hunwritten)
        · exact hnot hop
        · exact hunwritten hwrites

/-- Where statements may fail, an in-memory backend whose operations may fail imitates Postgres. -/
theorem postgres_imitated (hwrites : Filesystem.WritesAll json) (fails : Prop) :
    Imitates MemoryOp.Admissible (Postgres.Simulates json) (PerformsOnPostgres json fails : ι → _)
      (fun _ => Flaky fun _ => fails) :=
  fun i _ _ _ answer db' hsimulates hop hperforms =>
    (postgres_operation hwrites i hsimulates hop).2 answer db' hperforms

/-- Where no statement fails, Postgres and the in-memory backend are alike. -/
theorem postgres_alike (hwrites : Filesystem.WritesAll json) :
    Alike MemoryOp.Admissible (Postgres.Simulates json) (PerformsOnPostgres json False : ι → _)
      (Performs InMemoryMemoryBackend.handle) where
  forth i db memory op answer db' hsimulates hop hperforms := by
    obtain ⟨memory', hact, hnext⟩ :=
      postgres_imitated hwrites False i db memory op answer db' hsimulates hop hperforms
    cases hact with
    | served => exact ⟨_, rfl, hnext⟩
    | failed _ error hfailed => exact hfailed.elim
  back i memory db op answer memory' hsimulates hop hperforms := by
    have hhandle : InMemoryMemoryBackend.handle op memory = (answer, memory') := hperforms
    obtain ⟨⟨answer', db', hrun⟩, hruns⟩ := postgres_operation hwrites i hsimulates hop
    obtain ⟨middle, hact, hnext⟩ := hruns answer' db' hrun
    cases hact with
    | served =>
        rw [hhandle] at hrun hnext
        exact ⟨db', hrun, hnext⟩
    | failed _ error hfailed => exact hfailed.elim

end

end Fiddlesticks.Memory

import Fiddlesticks.Effect.Simulation
import Fiddlesticks.Harness.Gate
import Fiddlesticks.Memory.Imitation

/-!
# The harness over other backends

Executions of the harness run over one backend, in any interleaving and with any answers of the
model and the strategies. They save a manifest only under the session that it names and keep records
only with times that they have read from the clock. So as long as the clock does not go before the
epoch they cannot tell the filesystem backend, the SQLite backend or, but for its failures, the
Postgres backend from the in-memory one.
-/

namespace Fiddlesticks.Harness

open Effect Prog Memory

/-! ## What an execution hands to its memory -/

/-- A reading of the clock is not before the epoch. -/
def ClockAfterEpoch : Event HarnessSig → Prop
  | ⟨.now, time⟩ => SystemTime.AfterEpoch time
  | _ => True

/-- A memory operation is one that backends can store, with manifests as stated. -/
def Storable (keeps : SessionManifest → Prop) : HarnessOp → Prop
  | .memory op => op.Storable keeps
  | _ => True

/-- The execution hands only storable operations to its memory and returns values as stated, as long
as the clock is not before the epoch. -/
abbrev Stores {α : Type} (keeps : SessionManifest → Prop) (Q : α → Prop)
    (execution : Execution α) : Prop :=
  Relies ClockAfterEpoch (Storable keeps) (fun result => ∀ value, result = .ok value → Q value)
    execution.run

section

variable {α β : Type} {keeps : SessionManifest → Prop} {Q : α → Prop} {R : β → Prop}

/-- A returned value stores nothing. -/
theorem stores_pure {value : α} (hvalue : Q value) : Stores keeps Q (pure value) := by
  refine (correct_pure _).mpr ?_
  rintro _ ⟨⟩
  exact hvalue

/-- A failure stores nothing. -/
theorem stores_throw (error : HarnessError) : Stores keeps Q (throw error) := by
  refine (correct_pure _).mpr ?_
  rintro _ ⟨⟩

/-- What an execution returns may be forgotten. -/
theorem stores_any {execution : Execution α} (h : Relies ClockAfterEpoch (Storable keeps)
    (fun _ => True) execution.run) : Stores keeps (fun _ => True) execution :=
  Correct.mono h fun _ _ _ _ _ => trivial

/-- Go on after a program of storable operations. -/
theorem uses_stores {p : Execution α} {f : α → Execution β} (hp : Uses (Storable keeps) p.run)
    (hf : ∀ value, Stores keeps R (f value)) : Stores keeps R (p >>= f) :=
  relies_seq (stores_any hp.relies) fun value _ => hf value

/-- Go on after an attempt, whatever its outcome. -/
theorem attempt_stores {p : Execution α} {f : Except HarnessError α → Execution β}
    (hp : Stores keeps Q p) (hf : ∀ result, (∀ value, result = .ok value → Q value) →
      Stores keeps R (f result)) : Stores keeps R (attempt p >>= f) := by
  refine relies_seq (Q := fun result => ∀ value, result = .ok value → Q value) ?_ hf
  refine (correct_map _ _).mpr (Correct.mono hp fun result _ hresult => ?_)
  rintro _ ⟨⟩
  exact hresult

/-- An operation of the execution itself. -/
theorem ask_uses {op : HarnessOp} (hop : Storable keeps op) :
    Uses (Storable keeps) (ExceptT.lift (ask op) : Execution op.Answer).run :=
  uses_map _ (uses_request hop)

/-- A call on the memory hands it its operation only. -/
theorem callMemory_storable {op : MemoryOp} (hop : Storable keeps (.memory op)) :
    Uses (Storable keeps) (callMemory op).run :=
  uses_map _ (uses_request hop)

/-- The operation saves no manifest, and its times are not before the epoch. -/
theorem storable_of_times {op : MemoryOp} (hmanifests : op.manifests = [])
    (htimes : ∀ time ∈ op.timestamps, time.AfterEpoch) : Storable keeps (.memory op) := by
  refine ⟨⟨htimes, ?_⟩, ?_⟩
  · simp [hmanifests]
  · simp [hmanifests]

/-- The operation writes neither times nor manifests. -/
theorem storable_of_nil {op : MemoryOp} (hmanifests : op.manifests = [])
    (htimes : op.timestamps = []) : Storable keeps (.memory op) :=
  storable_of_times hmanifests (by simp [htimes])

/-- What a turn does to its memory is storable. -/
theorem InTurn.storable {op : HarnessOp} (hop : InTurn op) : Storable keeps op := by
  cases op with
  | memory op => cases op <;> first | exact hop.elim | exact storable_of_nil rfl rfl
  | _ => trivial

/-! ## Records -/

/-- The clock is read after the epoch. -/
theorem now_stores : Stores keeps SystemTime.AfterEpoch now := by
  refine (correct_map _ _).mpr (relies_call.mpr ⟨trivial, fun time htime => ?_⟩)
  refine (correct_pure _).mpr ?_
  rintro _ ⟨⟩
  exact htime

/-- A progress entry has a time from the clock. -/
theorem newProgressEntry_stores (runId summary : String) :
    Stores keeps (fun entry => ∀ time ∈ entry.timestamps, time.AfterEpoch)
      (newProgressEntry runId summary) :=
  relies_seq now_stores fun time htime => stores_pure (by simpa [ProgressEntry.timestamps])

/-- A started checkpoint has a time from the clock. -/
theorem startedCheckpoint_stores (runId : String) :
    Stores keeps (fun checkpoint => ∀ time ∈ checkpoint.timestamps, time.AfterEpoch)
      (startedCheckpoint runId) :=
  relies_seq now_stores fun time htime => stores_pure (by simpa [RunCheckpoint.timestamps])

/-- The final handoff has the time of the start and one from the clock. -/
theorem recordFinalHandoff_stores (request : TaskIterationRequest) {startedAt : SystemTime}
    (hstarted : startedAt.AfterEpoch) (status : RunStatus) (note : String) :
    Stores keeps (fun _ => True) (recordFinalHandoff request startedAt status note) := by
  refine relies_seq now_stores fun completedAt hcompleted => ?_
  have hcheckpoint : Storable keeps (.memory (.recordRunCheckpoint request.session.id
      { runId := request.runId, startedAt, completedAt := some completedAt, status,
        note := some note })) := by
    refine storable_of_times rfl ?_
    simp only [MemoryOp.timestamps, RunCheckpoint.timestamps, Option.toList_some, List.mem_cons,
      List.not_mem_nil, or_false]
    rintro time (rfl | rfl)
    · exact hstarted
    · exact hcompleted
  refine uses_stores (callMemory_storable hcheckpoint) fun _ => ?_
  refine relies_seq (newProgressEntry_stores _ _) fun entry hentry => ?_
  have happend : Storable keeps (.memory (.appendProgressEntry request.session.id entry)) :=
    storable_of_times rfl hentry
  exact stores_any (callMemory_storable happend).relies

/-! ## The phases -/

/-- Hooks store nothing. -/
theorem withHooks_stores (phase : HarnessPhase) (sessionId : SessionId) (runId : String)
    {execution : Execution α} (hexecution : Stores keeps (fun _ => True) execution) :
    Stores keeps (fun _ => True) (withHooks phase sessionId runId execution) := by
  refine uses_stores (ask_uses trivial) fun _ => ?_
  refine attempt_stores hexecution fun result _ => ?_
  have hreturn : Stores keeps (fun _ => True) (liftM result : Execution α) :=
    (correct_pure _).mpr fun _ _ => trivial
  cases result with
  | ok value => exact uses_stores (ask_uses trivial) fun _ => hreturn
  | error error => exact uses_stores (ask_uses trivial) fun _ => hreturn

variable (harness : Harness)

/-- An initializer saves the manifest of its request under the session of its request. -/
theorem runInitializer_stores (request : InitializerRequest)
    (hkeeps : keeps (harness.initialManifest request)) :
    Stores keeps (fun _ => True) (harness.runInitializer request) := by
  refine withHooks_stores _ _ _ ?_
  rw [runInitializerInner]
  split
  · exact stores_throw _
  refine uses_stores (uses_pure _) fun _ => ?_
  dsimp only
  refine relies_seq (newProgressEntry_stores _ _) fun entry hentry => ?_
  refine relies_seq (startedCheckpoint_stores _) fun checkpoint hcheckpoint => ?_
  refine uses_stores (callMemory_storable ⟨⟨?_, ?_⟩, ?_⟩) fun created => ?_
  · simpa [MemoryOp.timestamps, or_imp, forall_and] using ⟨hentry, hcheckpoint⟩
  · simp [MemoryOp.manifests, MemoryOp.sessionId, initialManifest, SessionManifest.new]
  · simpa [MemoryOp.manifests] using hkeeps
  refine uses_stores (callMemory_storable (storable_of_nil rfl rfl)) fun bootstrap => ?_
  cases hmanifest : BootstrapState.manifest bootstrap with
  | none => exact stores_throw _
  | some manifest => exact stores_pure trivial

/-- The turns on a feature hand only storable operations to the memory. -/
theorem runTurns_stores (chat : HarnessChat) (request : TaskIterationRequest) (observed : Bool)
    (manifest : SessionManifest) (feature : FeatureRecord) (turnsLeft retriesRemaining : Nat)
    (done : Iteration) :
    Uses (Storable keeps) (harness.runTurns chat request observed manifest feature turnsLeft
      retriesRemaining done).run := by
  induction turnsLeft generalizing retriesRemaining done with
  | zero => exact uses_pure _
  | succ turnsLeft ih =>
      rw [runTurns]
      have hturn : Uses (Storable keeps)
          (attempt (executeTurn chat (turnRequest request manifest feature) observed)).run :=
        uses_map _ ((executeTurn_uses chat _ observed).mono fun _ => InTurn.storable)
      refine uses_except_bind hturn fun turn => ?_
      cases turn with
      | error error =>
          dsimp only
          split
          · exact uses_pure _
          · exact ih _ _
      | ok turnResult =>
          refine uses_except_bind (uses_request (S := HarnessSig) trivial) fun validated => ?_
          split
          · exact uses_except_bind (callMemory_storable (storable_of_nil rfl rfl))
              fun _ => uses_pure _
          · split
            · exact uses_pure _
            · exact ih _ _

/-- So does the loop over the features. -/
theorem runFeatures_stores (chat : HarnessChat) (request : TaskIterationRequest)
    (observed : Bool) (manifest : SessionManifest) (remaining : Nat) (done : Iteration) :
    Uses (Storable keeps)
      (harness.runFeatures chat request observed manifest remaining done).run := by
  have hload : Uses (Storable keeps) (callMemory (.loadBootstrapState request.session.id)).run :=
    callMemory_storable (storable_of_nil rfl rfl)
  induction remaining generalizing done with
  | zero =>
      rw [runFeatures]
      split
      · exact uses_except_bind (ask_uses trivial) fun answer => Empty.elim answer
      · exact uses_except_bind hload fun _ => uses_pure _
  | succ remaining ih =>
      rw [runFeatures]
      refine uses_except_bind hload fun bootstrap => ?_
      split
      · exact uses_pure _
      · refine uses_except_bind (ask_uses trivial) fun selected => ?_
        cases selected with
        | none => exact uses_pure _
        | some feature =>
            refine uses_except_bind
              (harness.runTurns_stores chat request observed manifest feature _ _ _)
              fun ending => ?_
            cases ending with
            | returned result => exact uses_pure _
            | next done => exact ih done

/-- So does what a task iteration runs under its hooks. -/
theorem runTaskIterationInner_stores (fuel : Nat) (chat : HarnessChat)
    (request : TaskIterationRequest) (observed : Bool) :
    Uses (Storable keeps) (harness.runTaskIterationInner fuel chat request observed).run := by
  rw [runTaskIterationInner]
  refine uses_except_bind (callMemory_storable (storable_of_nil rfl rfl)) fun bootstrap => ?_
  cases hmanifest : BootstrapState.manifest bootstrap with
  | none => exact uses_pure _
  | some manifest =>
      refine uses_except_bind (ask_uses trivial) fun healthy => ?_
      have hrest : Uses (Storable keeps)
          (if allRequiredFeaturesPassed (BootstrapState.featureList bootstrap) then
            pure (Iteration.result {} request true true none)
          else harness.runFeatures chat request observed manifest
            (harness.runPolicy.maxFeaturesPerRunLimit.getD fuel) {} :
            Execution TaskIterationResult).run := by
        split
        · exact uses_pure _
        · exact harness.runFeatures_stores chat request observed _ _ _
      cases healthy with
      | error error =>
          dsimp only
          split
          · exact uses_pure _
          · exact hrest
      | ok value => exact hrest

/-- A task iteration hands only storable operations to its memory. -/
theorem runTaskIteration_stores (fuel : Nat) (request : TaskIterationRequest) (observed : Bool) :
    Stores keeps (fun _ => True) (harness.runTaskIteration fuel request observed) := by
  refine withHooks_stores _ _ _ ?_
  rw [runTaskIterationWithObserverInner]
  split
  · exact stores_throw _
  · rename_i chat _
    refine relies_seq now_stores fun startedAt hstarted => ?_
    refine relies_seq (startedCheckpoint_stores _) fun checkpoint hcheckpoint => ?_
    have hrecord : Storable keeps (.memory (.recordRunCheckpoint request.session.id checkpoint)) :=
      storable_of_times rfl hcheckpoint
    refine uses_stores (callMemory_storable hrecord) fun _ => ?_
    refine attempt_stores (stores_any
      (harness.runTaskIterationInner_stores fuel chat request observed).relies) fun result _ => ?_
    refine relies_seq (recordFinalHandoff_stores request hstarted _ _) fun _ _ => ?_
    exact (correct_pure _).mpr fun _ _ => trivial

/-! ## Calls -/

/-- The initializer request that a call may make. -/
def HarnessCall.initializer : HarnessCall → Option InitializerRequest
  | .runInitializer request => some request
  | .runTaskIteration _ _ _ => none
  | .run _ request _ => some (initializerRequest request)

/-- Every call hands only storable operations to its memory. -/
theorem HarnessCall.program_stores (call : HarnessCall)
    (hkeeps : ∀ request ∈ call.initializer, keeps (harness.initialManifest request)) :
    Stores keeps (fun _ => True) (call.program harness) := by
  cases call with
  | runInitializer request =>
      exact relies_seq (harness.runInitializer_stores request (hkeeps request rfl))
        fun _ _ => stores_pure trivial
  | runTaskIteration fuel request observed =>
      exact relies_seq (harness.runTaskIteration_stores fuel request observed)
        fun _ _ => stores_pure trivial
  | run fuel request observed =>
      rw [program, runWithObserver]
      have hselect : Uses (Storable keeps) (selectPhase request.session.id).run :=
        uses_except_bind (callMemory_storable (storable_of_nil rfl rfl)) fun _ => uses_pure _
      refine uses_stores hselect fun phase => ?_
      cases phase with
      | initializer =>
          exact relies_seq (harness.runInitializer_stores _ (hkeeps _ rfl))
            fun _ _ => stores_pure trivial
      | taskIteration =>
          exact relies_seq (harness.runTaskIteration_stores fuel _ observed)
            fun _ _ => stores_pure trivial

end

/-! ## Executions over a backend -/

variable {ι σ τ : Type}

/-- The backend answers the memory operations; all other answers are arbitrary and leave it
alone. -/
def ActOn (serves : ι → σ → Event MemorySig → σ → Prop) (i : ι) (backend : σ) :
    Event HarnessSig → σ → Prop
  | ⟨.memory op, answer⟩, backend' => serves i backend ⟨op, answer⟩ backend'
  | _, backend' => backend' = backend

/-- The programs of a family of calls. -/
def programs (harnesses : ι → Harness) (calls : ι → HarnessCall) :
    ι → Prog HarnessSig (Except HarnessError RuntimeRunOutcome) :=
  fun i => ((calls i).program (harnesses i)).run

/-- What executions can do over a backend: the events that they can run through, and what is left of
each of them then. -/
def Possible [DecidableEq ι] (serves : ι → σ → Event MemorySig → σ → Prop) (backend : σ)
    (harnesses : ι → Harness) (calls : ι → HarnessCall) (trace : Trace HarnessSig ι)
    (procs' : ι → Prog HarnessSig (Except HarnessError RuntimeRunOutcome)) : Prop :=
  ∃ backend', Pool.Run (ActOn serves) ⟨backend, programs harnesses calls⟩ trace ⟨backend', procs'⟩

section

variable {R : σ → τ → Prop} [DecidableEq ι] {serves : ι → σ → Event MemorySig → σ → Prop}
  {serves' : ι → τ → Event MemorySig → τ → Prop} {harnesses : ι → Harness}
  {calls : ι → HarnessCall} {trace : Trace HarnessSig ι}
  {procs' : ι → Prog HarnessSig (Except HarnessError RuntimeRunOutcome)}

/-- What executions can do over a backend they can do over one that imitates it. -/
theorem Possible.imitate {keeps : SessionManifest → Prop}
    (himitates : Imitates (MemoryOp.Storable keeps) R serves serves')
    (hkeeps : ∀ i, ∀ request ∈ (calls i).initializer,
      keeps ((harnesses i).initialManifest request))
    (hclock : ∀ entry ∈ trace, ClockAfterEpoch entry.2) {s : σ} {t : τ} (hR : R s t)
    (h : Possible serves s harnesses calls trace procs') :
    Possible serves' t harnesses calls trace procs' := by
  obtain ⟨s', hrun⟩ := h
  have hstep : ∀ {i s t} {e : Event HarnessSig} {s'}, R s t → Storable keeps e.op →
      ClockAfterEpoch e → ActOn serves i s e s' → ∃ t', ActOn serves' i t e t' ∧ R s' t' := by
    intro i s t e s' hR hop _ hact
    obtain ⟨op, answer⟩ := e
    cases op with
    | memory op => exact himitates i s t op answer s' hR hop hact
    | _ =>
        obtain rfl := hact
        exact ⟨t, rfl, hR⟩
  obtain ⟨t', hrun', -⟩ :=
    hrun.simulate hstep (fun i => (calls i).program_stores (harnesses i) (hkeeps i)) hclock hR
  exact ⟨t', hrun'⟩

/-- Executions can do the same over backends that are alike. -/
theorem possible_iff {keeps : SessionManifest → Prop}
    (halike : Alike (MemoryOp.Storable keeps) R serves serves')
    (hkeeps : ∀ i, ∀ request ∈ (calls i).initializer,
      keeps ((harnesses i).initialManifest request))
    (hclock : ∀ entry ∈ trace, ClockAfterEpoch entry.2) {s : σ} {t : τ} (hR : R s t) :
    Possible serves s harnesses calls trace procs' ↔
      Possible serves' t harnesses calls trace procs' :=
  ⟨.imitate halike.forth hkeeps hclock hR, .imitate halike.back hkeeps hclock hR⟩

/-- Executions hand nothing but admissible operations to their memory. -/
theorem possible_iff_of_admissible (halike : Alike MemoryOp.Admissible R serves serves')
    (hclock : ∀ entry ∈ trace, ClockAfterEpoch entry.2) {s : σ} {t : τ} (hR : R s t) :
    Possible serves s harnesses calls trace procs' ↔
      Possible serves' t harnesses calls trace procs' :=
  have hstorable : Alike (MemoryOp.Storable fun _ => True) R serves serves' :=
    halike.mono fun _ hop => hop.1
  possible_iff hstorable (fun _ _ _ => trivial) hclock hR

end

/-! ## The filesystem -/

/-- As long as the clock is not before the epoch, executions of the harness over the filesystem
backend can do, in any interleaving, exactly what they can over the in-memory backend. -/
theorem filesystem_possible_iff [DecidableEq ι] {J : Type} (json : StateJson J)
    (hwrites : Filesystem.WritesAll json) (backend : Filesystem.FilesystemMemoryBackend J)
    (memory : InMemoryMemoryBackend) (hsimulates : Filesystem.Simulates json backend memory)
    (harnesses : ι → Harness) (calls : ι → HarnessCall) (trace : Trace HarnessSig ι)
    (hclock : ∀ entry ∈ trace, ClockAfterEpoch entry.2)
    (procs' : ι → Prog HarnessSig (Except HarnessError RuntimeRunOutcome)) :
    Possible (Performs (Filesystem.FilesystemMemoryBackend.perform json)) backend harnesses calls
        trace procs' ↔
      Possible (Performs InMemoryMemoryBackend.handle) memory harnesses calls trace procs' :=
  possible_iff_of_admissible (filesystem_alike hwrites) hclock hsimulates

/-- The clock of the demo stands at the epoch. -/
theorem demoEnvironment_clock {memory memory' : InMemoryMemoryBackend} {time : SystemTime}
    (h : demoEnvironment .now memory = some (time, memory')) : time.AfterEpoch := by
  cases h
  decide

/-- A run that reports a creation returns it. -/
theorem created_of_createdIn {outcome : Except HarnessError RuntimeRunOutcome}
    (h : createdIn outcome = true) :
    ∃ result, outcome = .ok (.initializer result) ∧ result.created = true := by
  rcases outcome with error | (result | result)
  · cases h
  · exact ⟨result, rfl, h⟩
  · cases h

/-- One execution can run to its end alone when an environment that the backend allows, with a clock
after the epoch, executes it to that end. -/
theorem possible_of_execute [DecidableEq ι] {serves : ι → σ → Event MemorySig → σ → Prop}
    {harnesses : ι → Harness} {calls : ι → HarnessCall} {i : ι}
    {environment : (op : HarnessOp) → σ → Option (op.Answer × σ)}
    (hact : ∀ {op s answer s'}, environment op s = some (answer, s') →
      ActOn serves i s ⟨op, answer⟩ s')
    (hclock : ∀ {s time s'}, environment .now s = some (time, s') → SystemTime.AfterEpoch time)
    {s t : σ} {events : History HarnessSig} {value : Except HarnessError RuntimeRunOutcome}
    (hexecute : (programs harnesses calls i).execute environment s = some (events, value, t)) :
    ∃ trace procs', (∀ entry ∈ trace, ClockAfterEpoch entry.2) ∧ procs' i = .pure value ∧
      Possible serves s harnesses calls trace procs' := by
  have hevents : ∀ e ∈ events, ClockAfterEpoch e := by
    intro e he
    obtain ⟨s, s', hanswer⟩ := execute_events hexecute e he
    obtain ⟨op, answer⟩ := e
    cases op with
    | now => exact hclock hanswer
    | _ => trivial
  refine ⟨_, _, ?_, Function.update_self _ _ _, t, Pool.Run.alone hact hexecute _ rfl⟩
  rintro _ hentry
  obtain ⟨e, he, rfl⟩ := List.mem_map.mp hentry
  exact hevents e he

/-- The initializer of the demo runs to its end in memory. -/
theorem demo_possible : ∃ trace procs', (∀ entry ∈ trace, ClockAfterEpoch entry.2) ∧
    (∃ result, procs' true = .pure (.ok (.initializer result)) ∧ result.created = true) ∧
    Possible (Performs InMemoryMemoryBackend.handle) .new (fun _ : Bool => demoHarness) demoCalls
      trace procs' := by
  have hact : ∀ {op : HarnessOp} {s : InMemoryMemoryBackend} {answer : op.Answer} {s'},
      demoEnvironment op s = some (answer, s') →
        ActOn (Performs InMemoryMemoryBackend.handle) true s ⟨op, answer⟩ s' := by
    intro op s answer s' h
    cases op with
    | memory op => exact Option.some.inj h
    | chat op =>
        cases op <;> cases h <;> rfl
    | _ =>
        cases h <;> rfl
  have houtcome : ((programs (fun _ : Bool => demoHarness) demoCalls true).execute demoEnvironment
      .new).map (fun outcome => createdIn outcome.2.1) = some true := by
    decide +kernel
  obtain ⟨⟨events, value, memory⟩, hexecute, hcreated⟩ := Option.map_eq_some_iff.mp houtcome
  obtain ⟨trace, procs', hclock, hends, hpossible⟩ :=
    possible_of_execute hact demoEnvironment_clock hexecute
  obtain ⟨result, rfl, hresult⟩ := created_of_createdIn hcreated
  exact ⟨trace, procs', hclock, ⟨result, hends, hresult⟩, hpossible⟩

/-- The initializer of the demo can create its session over the filesystem. -/
theorem filesystem_possible_demo : ∃ trace procs',
    (∃ result, procs' true = .pure (.ok (.initializer result)) ∧ result.created = true) ∧
    Possible (Performs (Filesystem.FilesystemMemoryBackend.perform .plain)) (.new ["data"])
      (fun _ : Bool => demoHarness) demoCalls trace procs' := by
  obtain ⟨trace, procs', hclock, hcreated, hpossible⟩ := demo_possible
  exact ⟨trace, procs', hcreated, (filesystem_possible_iff .plain (fun document => ⟨document, rfl⟩)
    (.new ["data"]) .new (Filesystem.simulates_new .plain ["data"]) _ _ trace hclock
    procs').mpr hpossible⟩

/-! ## SQLite -/

/-- As long as the clock is not before the epoch and no initializer asks for a plan without steps,
executions of the harness over the SQLite backend can do, in any interleaving, exactly what they can
over the in-memory backend. -/
theorem sqlite_possible_iff [DecidableEq ι] (lib : Sqlite.Libraries)
    (backend : Sqlite.SqliteMemoryBackend) (memory : InMemoryMemoryBackend)
    (hsimulates : SqliteSimulates lib backend memory) (harnesses : ι → Harness)
    (calls : ι → HarnessCall)
    (hplans : ∀ i, ∀ request ∈ (calls i).initializer, request.initPlan ≠ some ⟨[]⟩)
    (trace : Trace HarnessSig ι) (hclock : ∀ entry ∈ trace, ClockAfterEpoch entry.2)
    (procs' : ι → Prog HarnessSig (Except HarnessError RuntimeRunOutcome)) :
    Possible (Performs (Sqlite.SqliteMemoryBackend.perform lib)) backend harnesses calls trace
        procs' ↔
      Possible (Performs InMemoryMemoryBackend.handle) memory harnesses calls trace procs' := by
  have hkeeps : ∀ i, ∀ request ∈ (calls i).initializer,
      NoEmptyPlan ((harnesses i).initialManifest request) := by
    intro i request hrequest hplan
    have hasked := hplans i request hrequest
    rw [initialManifest] at hplan
    cases hgiven : request.initPlan with
    | none => simp [hgiven, defaultInitPlan] at hplan
    | some plan =>
        simp only [hgiven, Option.getD_some] at hplan
        exact hasked (hgiven.trans hplan)
  exact possible_iff (sqlite_alike lib) hkeeps hclock hsimulates

/-- The initializer of the demo can create its session over SQLite. -/
theorem sqlite_possible_demo : ∃ trace procs',
    (∃ result, procs' true = .pure (.ok (.initializer result)) ∧ result.created = true) ∧
    Possible (Performs (Sqlite.SqliteMemoryBackend.perform .compact)) .new
      (fun _ : Bool => demoHarness) demoCalls trace procs' := by
  obtain ⟨trace, procs', hclock, hcreated, hpossible⟩ := demo_possible
  refine ⟨trace, procs', hcreated, (sqlite_possible_iff .compact .new .new
    ⟨Sqlite.simulates_new .compact, fun _ => ?_⟩ _ _ ?_ trace hclock procs').mpr hpossible⟩
  · rintro ⟨_, ⟨⟩, -⟩
  · rintro (_ | _) _ ⟨⟩
    exact nofun

/-! ## Postgres -/

/-- As long as the clock is not before the epoch, executions of the harness over the Postgres
backend, whose operations do not overlap, can do nothing that they cannot over an in-memory backend
whose operations may fail without an effect. Where no statement fails they can do exactly what they
can over the in-memory backend. -/
theorem postgres_possible [DecidableEq ι] {J : Type} (json : StateJson J)
    (hwrites : Filesystem.WritesAll json) (fails : Prop) (db : Postgres.Database ι J)
    (memory : InMemoryMemoryBackend) (hsimulates : Postgres.Simulates json db memory)
    (harnesses : ι → Harness) (calls : ι → HarnessCall) (trace : Trace HarnessSig ι)
    (hclock : ∀ entry ∈ trace, ClockAfterEpoch entry.2)
    (procs' : ι → Prog HarnessSig (Except HarnessError RuntimeRunOutcome)) :
    (Possible (PerformsOnPostgres json fails) db harnesses calls trace procs' →
      Possible (fun _ => Flaky fun _ => fails) memory harnesses calls trace procs') ∧
    (Possible (PerformsOnPostgres json False) db harnesses calls trace procs' ↔
      Possible (Performs InMemoryMemoryBackend.handle) memory harnesses calls trace procs') := by
  have himitates : Imitates (MemoryOp.Storable fun _ => True) (Postgres.Simulates json)
      (PerformsOnPostgres json fails : ι → _) (fun _ => Flaky fun _ => fails) :=
    (postgres_imitated hwrites fails).mono fun _ hop => hop.1
  exact ⟨.imitate himitates (fun _ _ _ => trivial) hclock hsimulates,
    possible_iff_of_admissible (postgres_alike hwrites) hclock hsimulates⟩

/-- The environment of the demo over a Postgres server that cannot be reached when the session is
loaded. -/
def outageEnvironment : (op : HarnessOp) → Postgres.Database Bool PersistedState →
    Option (op.Answer × Postgres.Database Bool PersistedState)
  | .memory (.loadBootstrapState _), db =>
      some (.error (.storage "failed to connect to postgres: refused"), db)
  | .memory op, db =>
      ((Postgres.operation .plain op).run.execute (Postgres.respond true) db).map (·.2)
  | op, db => (demoEnvironment op .new).map fun answered => (answered.1, db)

/-- The answers of the environment are what the backend may do. -/
theorem actOn_of_outage {op : HarnessOp} {db db' : Postgres.Database Bool PersistedState}
    {answer : op.Answer} (h : outageEnvironment op db = some (answer, db')) :
    ActOn (PerformsOnPostgres .plain True) true db ⟨op, answer⟩ db' := by
  have hserved : ∀ {op : MemoryOp} {answer : op.Answer}, ((Postgres.operation .plain op).run.execute
      (Postgres.respond true) db).map (·.2) = some (answer, db') →
        PerformsOnPostgres .plain True true db ⟨op, answer⟩ db' := by
    intro op answer hmap
    obtain ⟨⟨events, value, final⟩, hexecute, heq⟩ := Option.map_eq_some_iff.mp hmap
    cases heq
    exact execute_steps (fun hrespond => ⟨Postgres.acts_of_respond hrespond, fun _ _ => trivial⟩)
      hexecute
  cases op with
  | memory op =>
      cases op with
      | loadBootstrapState sessionId =>
          cases h
          exact .call ⟨.failed db .connect "refused", fun _ _ => trivial⟩ (.refl _ _)
      | _ => exact hserved h
  | _ =>
      simp only [outageEnvironment, Option.map_eq_some_iff, Prod.mk.injEq] at h
      obtain ⟨answered, -, -, hsame⟩ := h
      exact hsame.symm

/-- The clock of the outage stands at the epoch. -/
theorem outageEnvironment_clock {db db' : Postgres.Database Bool PersistedState} {time : SystemTime}
    (h : outageEnvironment .now db = some (time, db')) : time.AfterEpoch := by
  simp only [outageEnvironment, Option.map_eq_some_iff, Prod.mk.injEq] at h
  obtain ⟨⟨_, memory⟩, hanswer, rfl, -⟩ := h
  exact demoEnvironment_clock hanswer

/-- The run ends with a failure of its memory. -/
def memoryFailedIn : Except HarnessError RuntimeRunOutcome → Bool
  | .error error => error.kind = .memory
  | _ => false

/-- A run that reports a failure of its memory ends with that error. -/
theorem error_of_memoryFailedIn {outcome : Except HarnessError RuntimeRunOutcome}
    (h : memoryFailedIn outcome = true) :
    ∃ error, outcome = .error error ∧ error.kind = .memory := by
  cases outcome with
  | error error => exact ⟨error, rfl, of_decide_eq_true h⟩
  | ok outcome => cases h

/-- The initializer of the demo fails when the server cannot be reached to load the session. -/
theorem outage_possible : ∃ trace procs', (∀ entry ∈ trace, ClockAfterEpoch entry.2) ∧
    (∃ error, procs' true = .pure (.error error) ∧ error.kind = .memory) ∧
    Possible (PerformsOnPostgres .plain True) (fun _ => {}) (fun _ : Bool => demoHarness) demoCalls
      trace procs' := by
  have houtcome : ((programs (fun _ : Bool => demoHarness) demoCalls true).execute outageEnvironment
      (fun _ => {})).map (fun outcome => memoryFailedIn outcome.2.1) = some true := by
    decide +kernel
  obtain ⟨⟨events, value, db⟩, hexecute, hfailed⟩ := Option.map_eq_some_iff.mp houtcome
  obtain ⟨trace, procs', hclock, hends, hpossible⟩ :=
    possible_of_execute actOn_of_outage outageEnvironment_clock hexecute
  obtain ⟨error, rfl, hkind⟩ := error_of_memoryFailedIn hfailed
  exact ⟨trace, procs', hclock, ⟨error, hends, hkind⟩, hpossible⟩

/-- A run that fails with the server can be had over a memory that fails, and one that creates its
session over a server that does not fail. -/
theorem postgres_possible_demo :
    (∃ trace procs', (∃ error, procs' true = .pure (.error error) ∧ error.kind = .memory) ∧
      Possible (PerformsOnPostgres .plain True) (fun _ => {}) (fun _ : Bool => demoHarness)
        demoCalls trace procs' ∧
      Possible (fun _ => Flaky fun _ => True) .new (fun _ : Bool => demoHarness) demoCalls trace
        procs') ∧
    ∃ trace procs',
      (∃ result, procs' true = .pure (.ok (.initializer result)) ∧ result.created = true) ∧
      Possible (PerformsOnPostgres .plain False) (fun _ => {}) (fun _ : Bool => demoHarness)
        demoCalls trace procs' := by
  refine ⟨?_, ?_⟩
  · obtain ⟨trace, procs', hclock, hfailed, hpossible⟩ := outage_possible
    exact ⟨trace, procs', hfailed, hpossible, (postgres_possible .plain
      (fun document => ⟨document, rfl⟩) True (fun _ => {}) .new (Postgres.simulates_empty .plain)
      _ _ trace hclock procs').1 hpossible⟩
  · obtain ⟨trace, procs', hclock, hcreated, hpossible⟩ := demo_possible
    exact ⟨trace, procs', hcreated, ((postgres_possible .plain (fun document => ⟨document, rfl⟩)
      False (fun _ => {}) .new (Postgres.simulates_empty .plain) _ _ trace hclock procs').2).mpr
      hpossible⟩

end Fiddlesticks.Harness

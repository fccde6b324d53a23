import Fiddlesticks.Effect.Pool
import Fiddlesticks.Harness.Conduct

/-!
# The completion gate

Any number of executions of the harness run over one in-memory backend, in any interleaving and
with any answers of the model, the strategies and the clock. A session is created at most once,
only advances, and is complete from the moment an execution reports that it is.
-/

namespace Fiddlesticks.Harness

open Effect Prog Memory

variable {ι : Type}

/-! ## Executions over one memory -/

/-- The memory answers its own operations; all other answers are arbitrary and leave it alone. -/
def Act (_ : ι) (memory : InMemoryMemoryBackend) : Event HarnessSig → InMemoryMemoryBackend → Prop
  | ⟨.memory op, answer⟩, memory' => memory.handle op = (answer, memory')
  | _, memory' => memory' = memory

/-- Executions that share an in-memory backend. -/
abbrev HarnessPool (ι : Type) :=
  Pool HarnessSig ι InMemoryMemoryBackend (Except HarnessError RuntimeRunOutcome)

/-- The pool that runs a family of calls over one memory. -/
def harnessPool (harnesses : ι → Harness) (calls : ι → HarnessCall)
    (memory : InMemoryMemoryBackend) : HarnessPool ι :=
  ⟨memory, fun i => ((calls i).program (harnesses i)).run⟩

/-- Call `i` has reported that it has created the session. -/
def HasCreated (calls : ι → HarnessCall) (sessionId : SessionId) (pool : HarnessPool ι)
    (i : ι) : Prop :=
  (calls i).sessionId = sessionId ∧
    ∃ result, pool.procs i = .pure (.ok (.initializer result)) ∧ result.created = true

/-- Call `i` has reported that no feature of the session is pending. -/
def HasCompleted (calls : ι → HarnessCall) (sessionId : SessionId) (pool : HarnessPool ι)
    (i : ι) : Prop :=
  (calls i).sessionId = sessionId ∧
    ∃ result, pool.procs i = .pure (.ok (.taskIteration result)) ∧ result.noPendingFeatures = true

/-- What holds of a session between any two moments of a run. -/
structure CompletionGate [DecidableEq ι] (sessionId : SessionId) (calls : ι → HarnessCall)
    (trace rest : Trace HarnessSig ι) (middle final : HarnessPool ι) : Prop where
  /-- At most one call reports that it has created the session. -/
  creator : ∀ i j, HasCreated calls sessionId final i → HasCreated calls sessionId final j → i = j
  /-- From then on the manifest and all of the features but their passes are fixed. -/
  fixed : ∀ i, HasCreated calls sessionId middle i → ∃ manifest,
    (middle.shared.session sessionId).manifest = some manifest ∧
      (final.shared.session sessionId).manifest = some manifest ∧
      (final.shared.session sessionId).featureList.map FeatureRecord.content =
        (middle.shared.session sessionId).featureList.map FeatureRecord.content
  /-- A feature that passes goes on passing. -/
  kept : ∀ (k : Nat) (feature : FeatureRecord),
    (middle.shared.session sessionId).featureList[k]? = some feature →
    feature.passes → ∃ feature' : FeatureRecord,
      (final.shared.session sessionId).featureList[k]? = some feature' ∧
        feature'.content = feature.content ∧ feature'.passes
  /-- A feature comes to pass by a call whose validator has accepted it. -/
  validated : ∀ (k : Nat) (feature : FeatureRecord),
    (final.shared.session sessionId).featureList[k]? = some feature → feature.passes →
    (∃ feature' : FeatureRecord, (middle.shared.session sessionId).featureList[k]? =
      some feature' ∧ feature'.passes) ∨
    ∃ before i after, rest = before ++
        (i, ⟨.memory (.updateFeaturePass sessionId feature.id true), .ok ()⟩) :: after ∧
      Validated (localHistory i (trace ++ before)) feature.id
  progress : (middle.shared.session sessionId).progress <+:
    (final.shared.session sessionId).progress
  checkpoints : (middle.shared.session sessionId).checkpoints <+:
    (final.shared.session sessionId).checkpoints
  /-- Once a call reports that no feature is pending, there are features and all pass. -/
  complete : ∀ i, HasCompleted calls sessionId middle i →
    (final.shared.session sessionId).featureList ≠ [] ∧
      ∀ feature ∈ (final.shared.session sessionId).featureList, feature.passes

/-! ## One event -/

/-- An event leaves a session alone or is an operation on it. -/
theorem act_session {i : ι} {memory memory' : InMemoryMemoryBackend} {e : Event HarnessSig}
    (hact : Act i memory e memory') (sessionId : SessionId) :
    memory'.session sessionId = memory.session sessionId ∨
      ∃ op, e = ⟨.memory op, ((memory.session sessionId).apply op).1⟩ ∧
        op.sessionId = sessionId ∧
        memory'.session sessionId = ((memory.session sessionId).apply op).2 := by
  obtain ⟨op, answer⟩ := e
  cases op with
  | memory op =>
      have hsession := memory.handle_session op
      change memory.handle op = _ at hact
      rw [hact] at hsession
      cases hpoisoned : memory.poisoned with
      | true =>
          rw [hpoisoned, if_pos rfl] at hsession
          exact .inl (congrFun hsession sessionId)
      | false =>
          rw [hpoisoned, if_neg Bool.false_ne_true] at hsession
          rw [InMemoryMemoryBackend.handle, hpoisoned, if_neg Bool.false_ne_true] at hact
          by_cases hop : op.sessionId = sessionId
          · subst hop
            obtain rfl := congrArg Prod.fst hact
            exact .inr ⟨op, rfl, rfl, by rw [hsession, Function.update_self]⟩
          · exact .inl (by rw [hsession, Function.update_of_ne (Ne.symm hop)])
  | _ =>
      obtain rfl := hact
      exact .inl rfl

/-- A memory operation that succeeds is answered by its session. -/
theorem act_ok {i : ι} {memory memory' : InMemoryMemoryBackend} {op : MemoryOp} {value : op.Value}
    (hact : Act i memory ⟨.memory op, .ok value⟩ memory') {sessionId : SessionId}
    (hop : op.sessionId = sessionId) :
    ((memory.session sessionId).apply op).1 = .ok value ∧
      memory'.session sessionId = ((memory.session sessionId).apply op).2 := by
  subst hop
  have hsession := memory.handle_session op
  change memory.handle op = _ at hact
  rw [hact] at hsession
  cases hpoisoned : memory.poisoned with
  | true => simp [InMemoryMemoryBackend.handle, hpoisoned] at hact
  | false =>
      rw [hpoisoned, if_neg Bool.false_ne_true] at hsession
      rw [InMemoryMemoryBackend.handle, hpoisoned, if_neg Bool.false_ne_true] at hact
      exact ⟨congrArg Prod.fst hact, by rw [hsession, Function.update_self]⟩

/-- What is permitted loses nothing of the session. -/
theorem Permitted.monotone {h : History HarnessSig} {op : MemoryOp} (hop : Permitted h op) :
    op.Monotone := by
  cases op with
  | updateFeaturePass sessionId featureId passes => exact hop.1
  | saveManifest sessionId manifest => exact hop
  | replaceFeatureList sessionId features => exact hop
  | _ => trivial

section

variable {i : ι} {h : History HarnessSig} {memory memory' : InMemoryMemoryBackend}
  {e : Event HarnessSig} {sessionId : SessionId}

/-- A conducted event advances every session. -/
theorem act_advances (hact : Act i memory e memory') (he : Conducted h e) (sessionId : SessionId) :
    (memory.session sessionId).Advances (memory'.session sessionId) := by
  rcases act_session hact sessionId with hsame | ⟨op, rfl, rfl, hsession⟩
  · rw [hsame]
    exact .refl _
  · rw [hsession]
    exact SessionState.apply_advances (Permitted.monotone he) _

/-- The event that creates a session finds no manifest and leaves one. -/
theorem act_creates (hact : Act i memory e memory') (he : Creates sessionId e) :
    (memory.session sessionId).manifest = none ∧
      ∃ manifest, (memory'.session sessionId).manifest = some manifest := by
  unfold Creates at he
  split at he
  · obtain ⟨hanswer, hsession⟩ := act_ok hact he
    rw [hsession]
    cases hmanifest : (memory.session sessionId).manifest with
    | none => exact ⟨rfl, by simp [SessionState.apply, hmanifest]⟩
    | some manifest => simp [SessionState.apply, hmanifest] at hanswer
  · exact he.elim

/-- The event that finds a session complete leaves it so. -/
theorem act_finds_complete (hact : Act i memory e memory') (he : FindsComplete sessionId e) :
    (memory'.session sessionId).featureList ≠ [] ∧
      ∀ feature ∈ (memory'.session sessionId).featureList, feature.passes := by
  unfold FindsComplete at he
  split at he
  · obtain ⟨hid, hall⟩ := he
    obtain ⟨hanswer, hsession⟩ := act_ok hact hid
    cases hanswer
    rw [hsession]
    simpa [allRequiredFeaturesPassed, SessionState.bootstrap, SessionState.apply,
      MemoryOp.sessionId] using hall
  · exact he.elim

end

/-! ## Whole runs -/

/-- How a session agrees with the events so far. -/
structure Consistent (sessionId : SessionId) (state : SessionState) (trace : Trace HarnessSig ι) :
    Prop where
  /-- There are no features before there is a manifest. -/
  uninitialized : state.manifest = none → state.featureList = []
  /-- A created session has a manifest. -/
  created : ∀ i e, (i, e) ∈ trace → Creates sessionId e →
    ∃ manifest, state.manifest = some manifest
  /-- All events that create the session are of one call. -/
  creator : ∀ i e j e', (i, e) ∈ trace → (j, e') ∈ trace → Creates sessionId e →
    Creates sessionId e' → i = j
  /-- A session that was found complete is complete. -/
  complete : ∀ i e, (i, e) ∈ trace → FindsComplete sessionId e →
    state.featureList ≠ [] ∧ ∀ feature ∈ state.featureList, feature.passes

/-- A conducted event keeps a session consistent. -/
theorem Consistent.step {sessionId : SessionId} {memory memory' : InMemoryMemoryBackend}
    {trace : Trace HarnessSig ι} {i : ι} {h : History HarnessSig} {e : Event HarnessSig}
    (hstate : Consistent sessionId (memory.session sessionId) trace)
    (hact : Act i memory e memory') (he : Conducted h e) :
    Consistent sessionId (memory'.session sessionId) (trace ++ [(i, e)]) := by
  have hadvances := act_advances hact he sessionId
  have hmem : ∀ {j e'}, (j, e') ∈ trace ++ [(i, e)] → (j, e') ∈ trace ∨ (j = i ∧ e' = e) := by
    intro j e' hmem
    simpa using hmem
  refine ⟨?_, ?_, ?_, ?_⟩
  · rcases act_session hact sessionId with hsame | ⟨op, rfl, rfl, hsession⟩
    · rw [hsame]
      exact hstate.uninitialized
    · rw [hsession]
      exact SessionState.apply_uninitialized (Permitted.monotone he) hstate.uninitialized
  · intro j e' hj hcreates
    rcases hmem hj with hj | ⟨rfl, rfl⟩
    · obtain ⟨manifest, hmanifest⟩ := hstate.created j e' hj hcreates
      exact ⟨manifest, hadvances.manifest hmanifest⟩
    · exact (act_creates hact hcreates).2
  -- Once created, a session has a manifest, and nothing is created over a manifest.
  · have hfirst : ∀ {j e'}, (j, e') ∈ trace → Creates sessionId e' → Creates sessionId e →
        False := by
      intro j e' hj hcreates hcreates'
      obtain ⟨manifest, hmanifest⟩ := hstate.created j e' hj hcreates
      rw [(act_creates hact hcreates').1] at hmanifest
      cases hmanifest
    intro j e' k e'' hj hk hcreates hcreates'
    rcases hmem hj with hjold | ⟨hji, rfl⟩
    · rcases hmem hk with hkold | ⟨_, rfl⟩
      · exact hstate.creator _ _ _ _ hjold hkold hcreates hcreates'
      · exact (hfirst hjold hcreates hcreates').elim
    · rcases hmem hk with hkold | ⟨hki, rfl⟩
      · exact (hfirst hkold hcreates' hcreates).elim
      · exact hji.trans hki.symm
  · intro j e' hj hfinds
    rcases hmem hj with hj | ⟨rfl, rfl⟩
    · obtain ⟨hne, hall⟩ := hstate.complete j e' hj hfinds
      cases hmanifest : (memory.session sessionId).manifest with
      | none => exact (hne (hstate.uninitialized hmanifest)).elim
      | some manifest => exact features_advance_all (hadvances.features hmanifest) hne hall
    · exact act_finds_complete hact hfinds

/-- How a session at the end of a run relates to the session at its start. -/
structure Since [DecidableEq ι] (sessionId : SessionId) (start : SessionState)
    (past : Trace HarnessSig ι) (state : SessionState) (rest : Trace HarnessSig ι) : Prop where
  advances : start.Advances state
  /-- A feature that has come to pass was set by a call whose validator had accepted it. -/
  validated : ∀ (k : Nat) (feature : FeatureRecord), state.featureList[k]? = some feature →
    feature.passes →
    (∃ feature' : FeatureRecord, start.featureList[k]? = some feature' ∧ feature'.passes) ∨
    ∃ before i after, rest = before ++
        (i, ⟨.memory (.updateFeaturePass sessionId feature.id true), .ok ()⟩) :: after ∧
      Validated (localHistory i (past ++ before)) feature.id

/-- A conducted event keeps that relation. -/
theorem Since.step [DecidableEq ι] {sessionId : SessionId} {start : SessionState}
    {past rest : Trace HarnessSig ι} {memory memory' : InMemoryMemoryBackend} {i : ι}
    {e : Event HarnessSig} (hstate : Since sessionId start past (memory.session sessionId) rest)
    (hact : Act i memory e memory') (he : Conducted (localHistory i (past ++ rest)) e) :
    Since sessionId start past (memory'.session sessionId) (rest ++ [(i, e)]) := by
  refine ⟨hstate.advances.trans (act_advances hact he sessionId), ?_⟩
  intro k feature hk hpasses
  have hbefore : (memory.session sessionId).featureList[k]? = some feature →
      (∃ feature' : FeatureRecord, start.featureList[k]? = some feature' ∧ feature'.passes) ∨
      ∃ before j after, rest ++ [(i, e)] = before ++
          (j, ⟨.memory (.updateFeaturePass sessionId feature.id true), .ok ()⟩) :: after ∧
        Validated (localHistory j (past ++ before)) feature.id := by
    intro hold
    refine (hstate.validated k feature hold hpasses).imp_right ?_
    rintro ⟨before, j, after, rfl, hvalidated⟩
    exact ⟨before, j, after ++ [(i, e)], by simp, hvalidated⟩
  rcases act_session hact sessionId with hsame | ⟨op, rfl, hop, hsession⟩
  · exact hbefore (hsame ▸ hk)
  · rw [hsession] at hk
    rcases SessionState.apply_feature_at _ op hk with hold | ⟨hon, value, hvalue⟩
    · exact hbefore hold
    · cases op with
      | updateFeaturePass id featureId passes =>
          obtain ⟨rfl, hvalidated⟩ := he
          obtain rfl : id = sessionId := hop
          obtain rfl : feature.id = featureId := hon
          exact .inr ⟨rest, i, [], by rw [hvalue], hvalidated⟩
      | initializeSessionIfMissing id manifest featureList entry checkpoint =>
          rw [he feature hon] at hpasses
          cases hpasses
      | replaceFeatureList id features => exact he.elim
      | _ => exact hon.elim

/-- The completion gate holds between any two moments of every run of harness calls over a memory
in which the session starts empty. -/
theorem completion_gate [DecidableEq ι] (harnesses : ι → Harness) (calls : ι → HarnessCall)
    (memory : InMemoryMemoryBackend) (sessionId : SessionId)
    (hempty : memory.session sessionId = {}) {trace rest : Trace HarnessSig ι}
    {middle final : HarnessPool ι}
    (hrun : Pool.Run Act (harnessPool harnesses calls memory) trace middle)
    (hrest : Pool.Run Act middle rest final) :
    CompletionGate sessionId calls trace rest middle final := by
  have hobeys : ∀ i, Obeys Conducted (fun h result => ∀ value, result = .ok value →
      Reports (calls i).sessionId h value) [] ((harnessPool harnesses calls memory).procs i) :=
    fun i => (calls i).program_ensures (harnesses i) []
  have hconsistent : ∀ {trace pool}, Pool.Run Act (harnessPool harnesses calls memory) trace pool →
      Consistent sessionId (pool.shared.session sessionId) trace := by
    intro trace pool hrun
    refine hrun.invariant hobeys (fun memory trace => Consistent sessionId
      (memory.session sessionId) trace) ?_ fun _ _ _ _ _ hstate he hact => hstate.step hact he
    rw [harnessPool, hempty]
    exact ⟨fun _ => rfl, by simp, by simp, by simp⟩
  -- What a call reports is witnessed by an event of the run.
  have hcreates : ∀ {trace pool i}, Pool.Run Act (harnessPool harnesses calls memory) trace pool →
      HasCreated calls sessionId pool i → ∃ e, (i, e) ∈ trace ∧ Creates sessionId e := by
    rintro trace pool i hrun ⟨rfl, result, hdone, hcreated⟩
    obtain ⟨e, he, hcreates⟩ := hrun.returns hobeys hdone _ rfl hcreated
    exact ⟨e, mem_local_history.mp he, hcreates⟩
  -- The second part of the run goes on from the trace of the first.
  have hsince : Since sessionId (middle.shared.session sessionId) trace
      (final.shared.session sessionId) rest := by
    have hsplit := hrest.invariant_from trace (hrun.obeys hobeys) (fun memory whole => ∃ rest,
      whole = trace ++ rest ∧ Since sessionId (middle.shared.session sessionId) trace
        (memory.session sessionId) rest)
      ⟨[], by simp, .refl _, fun k feature hk hpasses => .inl ⟨feature, hk, hpasses⟩⟩
      (by
        rintro memory _ i e memory' ⟨rest, rfl, hstate⟩ he hact
        exact ⟨rest ++ [(i, e)], by simp, hstate.step hact he⟩)
    obtain ⟨rest', heq, hstate⟩ := hsplit
    rwa [List.append_cancel_left heq]
  have hwhole := hrun.trans hrest
  refine ⟨?_, ?_, ?_, hsince.validated, hsince.advances.progress, hsince.advances.checkpoints, ?_⟩
  · intro i j hi hj
    obtain ⟨e, he, hcreates_e⟩ := hcreates hwhole hi
    obtain ⟨e', he', hcreates_e'⟩ := hcreates hwhole hj
    exact (hconsistent hwhole).creator _ _ _ _ he he' hcreates_e hcreates_e'
  · intro i hi
    obtain ⟨e, he, hcreates_e⟩ := hcreates hrun hi
    obtain ⟨manifest, hmanifest⟩ := (hconsistent hrun).created i e he hcreates_e
    exact ⟨manifest, hmanifest, hsince.advances.manifest hmanifest,
      features_advance_content (hsince.advances.features hmanifest)⟩
  · intro k feature hk hpasses
    cases hmanifest : (middle.shared.session sessionId).manifest with
    | none =>
        rw [(hconsistent hrun).uninitialized hmanifest] at hk
        cases hk
    | some manifest =>
        obtain ⟨feature', hk', hadvances⟩ :=
          features_advance_at (hsince.advances.features hmanifest) hk
        exact ⟨feature', hk', hadvances.1, hadvances.2 hpasses⟩
  · rintro i ⟨hcall, result, hdone, hcomplete⟩
    obtain ⟨e, he, hfinds⟩ := hrun.returns hobeys hdone _ rfl hcomplete
    rw [hcall] at hfinds
    exact (hconsistent hwhole).complete i e
      (List.mem_append_left _ (mem_local_history.mp he)) hfinds

/-! ## A run that completes -/

/-- A session of the harness with its only feature. -/
def demoFeature : FeatureRecord :=
  feature "demo" "functional" "The demo runs" ["Run the demo"]

/-- An initializer that installs the feature, and a task iteration that works on it. -/
def demoCalls (first : Bool) : HarnessCall :=
  if first then
    .runInitializer { InitializerRequest.new ⟨"session"⟩ "run-1" "Ship the demo" with
      featureList := [demoFeature] }
  else .runTaskIteration 0 { session := ⟨⟨"session"⟩, .openAi, "model", none⟩, runId := "run-2" }
    false

/-- A harness with a chat service that stores its transcripts in the memory. -/
def demoHarness : Harness :=
  { Harness.new with chat := some ⟨⟨.default, false⟩, true⟩ }

/-- An environment whose model always says done, whose validator accepts everything and whose
selector takes the first pending feature. -/
def demoEnvironment : (op : HarnessOp) → InMemoryMemoryBackend →
    Option (op.Answer × InMemoryMemoryBackend)
  | .memory op, memory => some (memory.handle op)
  | .chat (.complete request), memory =>
      some (.ok ⟨.openAi, request.model, [.message ⟨.assistant, "done"⟩], .endTurn, {}⟩, memory)
  | .chat (.hook _), memory => some ((), memory)
  | .chat _, _ => none
  | .healthCheck _ _, memory => some (.ok (), memory)
  | .select featureList, memory => some (featureList.find? (!·.passes), memory)
  | .validate _ _, memory => some (.ok true, memory)
  | .observe _, memory => some ((), memory)
  | .now, memory => some (⟨0, 0⟩, memory)
  | .hook _, memory => some ((), memory)
  | .exhausted, _ => none

/-- The run reports that it has created its session. -/
def createdIn : Except HarnessError RuntimeRunOutcome → Bool
  | .ok (.initializer result) => result.created
  | _ => false

/-- The run reports that no feature is pending. -/
def completedIn : Except HarnessError RuntimeRunOutcome → Bool
  | .ok (.taskIteration result) => result.noPendingFeatures
  | _ => false

/-- The gate holds in a run that creates a session and completes it. -/
theorem completion_gate_demo : ∃ trace rest middle final,
    HasCreated demoCalls ⟨"session"⟩ middle true ∧
      HasCompleted demoCalls ⟨"session"⟩ final false ∧
      CompletionGate ⟨"session"⟩ demoCalls trace rest middle final := by
  have hact : ∀ (i : Bool) {op : HarnessSig.Op} {s answer s'},
      demoEnvironment op s = some (answer, s') → Act i s ⟨op, answer⟩ s' := by
    intro i op s answer s' h
    cases op with
    | memory op => exact Option.some.inj h
    | chat op =>
        cases op <;> cases h <;> rfl
    | _ =>
        cases h <;> rfl
  let pool := harnessPool (fun _ : Bool => demoHarness) demoCalls .new
  have houtcome : ((pool.procs true).execute demoEnvironment .new >>= fun first =>
      (pool.procs false).execute demoEnvironment first.2.2 >>= fun second =>
        some (createdIn first.2.1 && completedIn second.2.1)) = some true := by
    decide +kernel
  simp only [Option.bind_eq_bind, Option.bind_eq_some_iff] at houtcome
  obtain ⟨⟨events, value, s⟩, hfirst, ⟨events', value', s'⟩, hsecond, hreports⟩ := houtcome
  obtain ⟨hcreated, hcompleted⟩ := Bool.and_eq_true_iff.mp (Option.some.inj hreports)
  have hrun := Pool.Run.alone (hact true) hfirst pool.procs rfl
  have hrest := Pool.Run.alone (hact false) hsecond
    (Function.update pool.procs true (.pure value)) rfl
  refine ⟨_, _, _, _, ⟨rfl, ?_⟩, ⟨rfl, ?_⟩,
    completion_gate (fun _ => demoHarness) demoCalls .new ⟨"session"⟩ rfl hrun hrest⟩
  · unfold createdIn at hcreated
    split at hcreated
    · rename_i result hvalue
      obtain rfl : value = .ok _ := hvalue
      exact ⟨result, rfl, hcreated⟩
    · cases hcreated
  · unfold completedIn at hcompleted
    split at hcompleted
    · rename_i result hvalue
      obtain rfl : value' = .ok _ := hvalue
      exact ⟨result, rfl, hcompleted⟩
    · cases hcompleted

end Fiddlesticks.Harness

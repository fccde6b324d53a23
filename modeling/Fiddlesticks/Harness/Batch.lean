import Fiddlesticks.Harness.Handoff

/-!
# The outcome of a batch

A task iteration over a memory that does not fail and with the selector that takes the first pending
feature. It works on the pending features in their order, and what it reports and what it leaves in
the memory follow from how many it has got to.
-/

namespace Fiddlesticks.Harness

open Effect Prog Chat Memory

/-! ## Feature lists -/

/-- `FirstPendingFeatureSelector::select`. -/
def firstPendingFeature (featureList : List FeatureRecord) : Option FeatureRecord :=
  featureList.find? (!·.passes)

/-- The features that are still to pass. -/
def pendingFeatures (features : List FeatureRecord) : List FeatureRecord :=
  features.filter (!·.passes)

/-- The feature passes if its id is among the given ones. -/
def markFeature (ids : List String) (feature : FeatureRecord) : FeatureRecord :=
  if feature.id ∈ ids then { feature with passes := true } else feature

/-- Marking a feature leaves its id. -/
@[simp] theorem markFeature_id (ids : List String) (feature : FeatureRecord) :
    (markFeature ids feature).id = feature.id := by
  unfold markFeature
  split <;> rfl

/-- A feature that is not among the ids stays as it is. -/
theorem markFeature_of_not_mem {ids : List String} {feature : FeatureRecord}
    (h : feature.id ∉ ids) : markFeature ids feature = feature := if_neg h

/-- A feature passes once it has passed or is among the ids. -/
theorem markFeature_passes (ids : List String) (feature : FeatureRecord) :
    (markFeature ids feature).passes = (feature.passes || decide (feature.id ∈ ids)) := by
  unfold markFeature
  by_cases h : feature.id ∈ ids <;> simp [h]

/-- The features, with those of the given ids passing. -/
def markPassed (ids : List String) (features : List FeatureRecord) : List FeatureRecord :=
  features.map (markFeature ids)

/-- Marking nothing changes nothing. -/
@[simp] theorem markPassed_nil (features : List FeatureRecord) :
    markPassed [] features = features :=
  List.map_id'' (fun _ => markFeature_of_not_mem List.not_mem_nil) features

/-- Features are marked one by one. -/
@[simp] theorem markPassed_cons (ids : List String) (feature : FeatureRecord)
    (features : List FeatureRecord) :
    markPassed ids (feature :: features) = markFeature ids feature :: markPassed ids features := rfl

/-- Past the first pending features comes the next one. -/
theorem firstPendingFeature_markPassed {features before after : List FeatureRecord}
    {feature : FeatureRecord} (hids : (features.map (·.id)).Nodup)
    (hpending : pendingFeatures features = before ++ feature :: after) :
    firstPendingFeature (markPassed (before.map (·.id)) features) = some feature := by
  have hnodup : ((before ++ feature :: after).map (·.id)).Nodup := by
    rw [← hpending]
    exact hids.sublist (List.filter_sublist.map _)
  have hnew : feature.id ∉ before.map (·.id) := by
    rw [List.map_append, List.map_cons, List.nodup_append] at hnodup
    exact fun hmem => hnodup.2.2 _ hmem _ List.mem_cons_self rfl
  have hbefore : before.find? (fun other => decide (other.id ∉ before.map (·.id))) = none := by
    refine List.find?_eq_none.mpr fun other hother => ?_
    simpa using ⟨other, hother, rfl⟩
  have hfind : (pendingFeatures features).find?
      (fun other => decide (other.id ∉ before.map (·.id))) = some feature := by
    rw [hpending, List.find?_append, hbefore, Option.none_or,
      List.find?_cons_of_pos (by simpa using hnew)]
  have hsame : ∀ other, ((!·.passes) ∘ markFeature (before.map (·.id))) other =
      decide ((!other.passes) = true ∧ decide (other.id ∉ before.map (·.id)) = true) := by
    intro other
    rw [Function.comp_apply, markFeature_passes, Bool.not_or, Bool.decide_and]
    simp only [Bool.decide_eq_true, decide_not]
  rw [pendingFeatures, List.find?_filter] at hfind
  rw [firstPendingFeature, markPassed, List.find?_map, funext hsame, hfind, Option.map_some,
    markFeature_of_not_mem hnew]

/-- With all pending features marked the list passes. -/
theorem all_markPassed {features : List FeatureRecord} :
    ∀ feature ∈ markPassed ((pendingFeatures features).map (·.id)) features, feature.passes := by
  intro feature hfeature
  obtain ⟨original, horiginal, rfl⟩ := List.mem_map.mp hfeature
  rw [markFeature_passes]
  cases hpasses : original.passes with
  | true => rfl
  | false =>
      have hmem : original.id ∈ (pendingFeatures features).map (·.id) :=
        List.mem_map_of_mem (List.mem_filter.mpr ⟨horiginal, by simp [hpasses]⟩)
      simp only [hmem, decide_true, Bool.or_true]

/-- Setting the pass of a feature marks it. -/
theorem setFeaturePass_markPassed {features : List FeatureRecord} {feature : FeatureRecord}
    (hids : (features.map (·.id)).Nodup) (hfeature : feature ∈ features) (ids : List String) :
    setFeaturePass feature.id true (markPassed ids features) =
      some (markPassed (ids ++ [feature.id]) features) := by
  induction features with
  | nil => cases hfeature
  | cons first features ih =>
      rw [List.map_cons, List.nodup_cons] at hids
      rw [markPassed_cons, setFeaturePass]
      by_cases hfirst : first.id = feature.id
      · have hrest : markPassed (ids ++ [feature.id]) features = markPassed ids features := by
          refine List.map_congr_left fun other hother => ?_
          have hne : other.id ≠ feature.id := by
            intro heq
            exact hids.1 (List.mem_map.mpr ⟨other, hother, heq.trans hfirst.symm⟩)
          simp [markFeature, hne]
        have hmarked : { markFeature ids first with passes := true } =
            markFeature (ids ++ [feature.id]) first := by
          unfold markFeature
          rw [if_pos (List.mem_append_right ids (List.mem_singleton.mpr hfirst))]
          split <;> rfl
        rw [if_pos (by rw [markFeature_id]; exact hfirst), markPassed_cons, hrest, hmarked]
      · have hmem : feature ∈ features := by
          rcases List.mem_cons.mp hfeature with rfl | hmem
          · exact absurd rfl hfirst
          · exact hmem
        have hmarked : markFeature (ids ++ [feature.id]) first = markFeature ids first := by
          simp [markFeature, hfirst]
        rw [if_neg (by rw [markFeature_id]; exact hfirst), ih hids.2 hmem, markPassed_cons, hmarked]
        rfl

/-- A list that had pending features passes as soon as none of them is left. -/
theorem allRequiredFeaturesPassed_markPassed {features before rest : List FeatureRecord}
    (hids : (features.map (·.id)).Nodup) (hpending : pendingFeatures features = before ++ rest)
    (hsome : before ++ rest ≠ []) :
    allRequiredFeaturesPassed (markPassed (before.map (·.id)) features) = true ↔ rest = [] := by
  have hfeatures : features ≠ [] := by
    rintro rfl
    exact hsome hpending.symm
  have hempty : (markPassed (before.map (·.id)) features).isEmpty = false := by
    rw [markPassed, List.isEmpty_map]
    exact List.isEmpty_eq_false_iff.mpr hfeatures
  rw [allRequiredFeaturesPassed, hempty, Bool.not_false, Bool.true_and, List.all_eq_true]
  cases rest with
  | nil =>
      have hall : before = pendingFeatures features := by simpa using hpending.symm
      subst hall
      exact iff_of_true all_markPassed rfl
  | cons feature after =>
      have hfind := firstPendingFeature_markPassed hids hpending
      refine iff_of_false (fun hall => ?_) (List.cons_ne_nil _ _)
      have hfails := List.find?_some hfind
      rw [hall feature (List.mem_of_find?_eq_some hfind)] at hfails
      cases hfails

/-! ## Runs -/

/-- The memory of a run, the ids of the features it has worked on and of those that the validator
has accepted. -/
structure BatchState where
  sessions : Sessions
  worked : List String := []
  accepted : List String := []

/-- The state with one session replaced. -/
def BatchState.write (state : BatchState) (sessionId : SessionId) (session : SessionState) :
    BatchState :=
  { state with sessions := Function.update state.sessions sessionId session }

/-- A write changes its session only. -/
@[simp] theorem BatchState.write_sessions (state : BatchState) (sessionId : SessionId)
    (session : SessionState) :
    (state.write sessionId session).sessions =
      Function.update state.sessions sessionId session := rfl

/-- Writing what is there changes nothing. -/
@[simp] theorem BatchState.write_eq_self (state : BatchState) (sessionId : SessionId) :
    state.write sessionId (state.sessions sessionId) = state := by
  rw [write, Function.update_eq_self]

/-- A memory that does not fail and that nobody else writes to, and the selector that takes the
first pending feature. The health check, the chat and the validator answer as they like. -/
def BatchAct (state : BatchState) : Event HarnessSig → BatchState → Prop
  | ⟨.memory op, answer⟩, state' =>
      answer = ((state.sessions op.sessionId).apply op).1 ∧
        state' = state.write op.sessionId ((state.sessions op.sessionId).apply op).2
  | ⟨.select featureList, answer⟩, state' =>
      answer = firstPendingFeature featureList ∧
        state' = { state with worked := state.worked ++ answer.toList.map (·.id) }
  | ⟨.validate feature _, .ok true⟩, state' =>
      state' = { state with accepted := state.accepted ++ [feature.id] }
  | _, state' => state' = state

/-- A task iteration on a session with pending features, whose ids are distinct. -/
structure Batch where
  harness : Harness
  fuel : Nat
  request : TaskIterationRequest
  sessions : Sessions
  distinct : ((sessions request.session.id).featureList.map (·.id)).Nodup
  pending : pendingFeatures (sessions request.session.id).featureList ≠ []

namespace Batch

/-- The features of the session at the start. -/
def features (batch : Batch) : List FeatureRecord :=
  (batch.sessions batch.request.session.id).featureList

/-- The ids of the features that are pending at the start. -/
def ids (batch : Batch) : List String :=
  (pendingFeatures batch.features).map (·.id)

/-- The feature limit of the policy. -/
def limit (batch : Batch) : Option Nat :=
  batch.harness.runPolicy.maxFeaturesPerRunLimit

/-- The result is that of a run which has got to the pending feature number `k`. -/
structure Report (batch : Batch) (result : TaskIterationResult) (state : BatchState) (k : Nat) :
    Prop where
  worked : state.worked = result.processedFeatureIds
  accepted : state.accepted = result.validatedFeatureIds
  atLeastOne : 1 ≤ k
  atMostPending : k ≤ batch.ids.length
  atMostLimit : ∀ limit ∈ batch.limit, k ≤ limit
  processed : result.processedFeatureIds = batch.ids.take k
  count : result.processedFeatureCount = k
  validatedIds : result.validatedFeatureIds = batch.ids.take (if result.validated then k else k - 1)
  noPending : result.noPendingFeatures = true ↔ result.validated = true ∧ k = batch.ids.length
  stopped : result.validated = true → k < batch.ids.length → batch.limit = some k

/-- The session has the given features accepted, and the run has worked on the given ones. -/
structure Reached (batch : Batch) (worked accepted : List String) (state : BatchState) :
    Prop where
  worked_eq : state.worked = worked
  accepted_eq : state.accepted = accepted
  order : worked <+: batch.ids
  stored : (state.sessions batch.request.session.id).featureList =
    markPassed accepted batch.features

/-- The features in the memory are those of the start with the accepted ones passing. -/
abbrev Settled (batch : Batch) (state : BatchState) : Prop :=
  batch.Reached state.worked state.accepted state

/-- The features are worked on in their order, the validator sees only the one that is worked on,
and fuel runs out only in an unlimited batch that had too little of it. -/
def InOrder (batch : Batch) (state : BatchState) (op : HarnessOp) : Prop :=
  state.worked <+: batch.ids ∧ match op with
    | .validate feature _ => state.worked.getLast? = some feature.id
    | .exhausted => batch.limit = none ∧ batch.fuel ≤ batch.ids.length
    | _ => True

/-- The execution works on the features in their order, keeps the memory and returns only values
that satisfy the postcondition. -/
abbrev Runs {α : Type} (batch : Batch) (R : α → BatchState → Prop) (execution : Execution α)
    (state : BatchState) : Prop :=
  Correct BatchAct batch.InOrder (fun result state' => batch.Settled state' ∧
    ∀ value, result = .ok value → R value state') execution.run state

end Batch

/-! ## What lies between the features -/

/-- The operation leaves the features, what is worked on and what is accepted alone. -/
def Aside : HarnessOp → Prop
  | .memory (.loadBootstrapState _) => True
  | .memory (.appendProgressEntry _ _) => True
  | .memory (.recordRunCheckpoint _ _) => True
  | .memory (.loadTranscriptMessages _) => True
  | .memory (.appendTranscriptMessages _ _) => True
  | .chat _ => True
  | .healthCheck _ _ => True
  | .observe _ => True
  | .now => True
  | .hook _ => True
  | _ => False

/-- What a turn does leaves the batch alone. -/
theorem InTurn.aside {op : HarnessOp} (hop : InTurn op) : Aside op := by
  cases op with
  | memory op => cases op <;> first | exact hop.elim | trivial
  | _ => first | exact hop.elim | trivial

/-- What the harness records leaves the batch alone. -/
theorem Recording.aside {op : HarnessOp} (hop : Recording op) : Aside op := by
  cases op with
  | memory op => cases op <;> first | exact hop.elim | trivial
  | _ => first | exact hop.elim | trivial

/-- A part that only records leaves the batch alone. -/
theorem uses_aside {α : Type} {p : Execution α} (hp : Uses Recording p.run) : Uses Aside p.run :=
  hp.mono fun _ => Recording.aside

/-- A memory operation between the features leaves them alone. -/
theorem Aside.apply_featureList {op : MemoryOp} (hop : Aside (.memory op)) (state : SessionState) :
    (state.apply op).2.featureList = state.featureList := by
  cases op <;> first | exact hop.elim | rfl

namespace Batch

variable {batch : Batch} {worked accepted : List String} {state state' : BatchState}

/-- At every point that a batch reaches its state is settled. -/
theorem Reached.settled (h : batch.Reached worked accepted state) : batch.Settled state := by
  obtain ⟨rfl, rfl, -, -⟩ := id h
  exact h

/-- An operation that leaves the batch alone leaves it where it is. -/
theorem Reached.aside {e : Event HarnessSig} (he : Aside e.op) (hact : BatchAct state e state')
    (h : batch.Reached worked accepted state) : batch.Reached worked accepted state' := by
  obtain ⟨op, answer⟩ := e
  cases op with
  | memory op =>
      obtain ⟨-, rfl⟩ := hact
      refine ⟨h.worked_eq, h.accepted_eq, h.order, ?_⟩
      rw [BatchState.write_sessions]
      by_cases hsession : batch.request.session.id = op.sessionId
      · rw [hsession, Function.update_self, he.apply_featureList, ← hsession]
        exact h.stored
      · rw [Function.update_of_ne hsession]
        exact h.stored
  | select featureList => exact he.elim
  | validate feature result => exact he.elim
  | exhausted => exact he.elim
  | _ =>
      obtain rfl := hact
      exact h

section

variable {α β : Type} {Q : α → BatchState → Prop} {R : β → BatchState → Prop}

/-- A part that ends here has what it needs. -/
theorem runs_pure {value : α} (h : batch.Reached worked accepted state) (hvalue : Q value state) :
    batch.Runs Q (pure value) state := by
  refine (correct_pure _).mpr ⟨h.settled, ?_⟩
  rintro _ ⟨⟩
  exact hvalue

/-- A failure ends the batch where it is. -/
theorem runs_throw (h : batch.Reached worked accepted state) (error : HarnessError) :
    batch.Runs Q (throw error) state := by
  refine (correct_pure _).mpr ⟨h.settled, ?_⟩
  rintro _ ⟨⟩

/-- The sequencing rule. -/
theorem runs_seq {p : Execution α} {f : α → Execution β} (hp : batch.Runs Q p state)
    (hf : ∀ value state', Q value state' → batch.Runs R (f value) state') :
    batch.Runs R (p >>= f) state := by
  refine correct_except_seq hp (fun value state' h => hf value state' (h.2 value rfl))
    (fun error state' h => ⟨h.1, ?_⟩)
  rintro _ ⟨⟩

/-- Go on after a program that leaves the features alone. -/
theorem runs_aside_seq {p : Execution α} {f : α → Execution β} (hp : Uses Aside p.run)
    (h : batch.Reached worked accepted state)
    (hf : ∀ value state', batch.Reached worked accepted state' → batch.Runs R (f value) state') :
    batch.Runs R (p >>= f) state := by
  have hruns : batch.Runs (fun _ state' => batch.Reached worked accepted state') p state := by
    refine (hp.correct (I := batch.Reached worked accepted) ?_
      (fun _ _ _ he hact h => h.aside he hact) h).mono fun _ _ h => ⟨h.settled, fun _ _ => h⟩
    intro state op hop h
    refine ⟨h.worked_eq ▸ h.order, ?_⟩
    cases op <;> first | exact hop.elim | trivial
  exact runs_seq hruns hf

/-- Go on after loading the features. -/
theorem runs_load_seq {f : BootstrapState → Execution β} (h : batch.Reached worked accepted state)
    (hf : ∀ bootstrap : BootstrapState,
      bootstrap.featureList = markPassed accepted batch.features →
        batch.Runs R (f bootstrap) state) :
    batch.Runs R (callMemory (.loadBootstrapState batch.request.session.id) >>= f) state := by
  have hload : batch.Runs (fun (bootstrap : BootstrapState) state' => state' = state ∧
      bootstrap.featureList = markPassed accepted batch.features)
      (callMemory (.loadBootstrapState batch.request.session.id)) state := by
    refine (correct_map _ _).mpr ((correct_call _ _).mpr ⟨⟨h.worked_eq ▸ h.order, trivial⟩, ?_⟩)
    rintro answer state' ⟨rfl, rfl⟩
    refine (correct_pure _).mpr ?_
    rw [show (MemoryOp.loadBootstrapState batch.request.session.id).sessionId =
      batch.request.session.id from rfl, SessionState.apply, BatchState.write_eq_self]
    refine ⟨h.settled, ?_⟩
    rintro bootstrap ⟨⟩
    exact ⟨rfl, h.stored⟩
  refine runs_seq hload ?_
  rintro bootstrap _ ⟨rfl, hfeatures⟩
  exact hf bootstrap hfeatures

/-- Go on after the validation of the feature that is worked on. -/
theorem runs_validate_seq {feature : FeatureRecord} {result : ChatTurnResult}
    {f : Bool → Execution β} (h : batch.Reached (worked ++ [feature.id]) accepted state)
    (haccepted : batch.Runs R (f true) { state with accepted := accepted ++ [feature.id] })
    (hrejected : batch.Runs R (f false) state) :
    batch.Runs R (ExceptT.mk (ask (.validate feature result)) >>= f) state := by
  refine (correct_bind (S := HarnessSig) _ _).mpr ((correct_call _ _).mpr ⟨⟨?_, ?_⟩, ?_⟩)
  · exact h.worked_eq ▸ h.order
  · dsimp only
    rw [h.worked_eq, List.getLast?_concat]
  · intro answer state' hact
    refine (correct_pure _).mpr ?_
    rcases (answer : Except HarnessError Bool) with error | validated
    · obtain rfl := hact
      exact runs_throw h error
    · cases validated with
      | true =>
          obtain rfl := hact
          rw [h.accepted_eq]
          exact haccepted
      | false =>
          obtain rfl := hact
          exact hrejected

/-- Go on after storing the pass of an accepted feature. -/
theorem runs_update_seq {feature : FeatureRecord} (hfeature : feature ∈ batch.features)
    {f : Unit → Execution β} (h : batch.Reached worked accepted state)
    (hf : ∀ state', batch.Reached worked (accepted ++ [feature.id]) state' →
      batch.Runs R (f ()) state') :
    batch.Runs R (callMemory (.updateFeaturePass batch.request.session.id feature.id true) >>= f)
      { state with accepted := accepted ++ [feature.id] } := by
  have hupdate : batch.Runs (fun _ state' => batch.Reached worked (accepted ++ [feature.id]) state')
      (callMemory (.updateFeaturePass batch.request.session.id feature.id true))
      { state with accepted := accepted ++ [feature.id] } := by
    refine (correct_map _ _).mpr ((correct_call _ _).mpr ⟨⟨h.worked_eq ▸ h.order, trivial⟩, ?_⟩)
    rintro answer state' ⟨rfl, rfl⟩
    have happly : (state.sessions batch.request.session.id).apply
        (.updateFeaturePass batch.request.session.id feature.id true) =
          (.ok (), { state.sessions batch.request.session.id with
            featureList := markPassed (accepted ++ [feature.id]) batch.features }) := by
      have hpass : setFeaturePass feature.id true (markPassed accepted batch.features) =
          some (markPassed (accepted ++ [feature.id]) batch.features) :=
        setFeaturePass_markPassed batch.distinct hfeature accepted
      rw [SessionState.apply, h.stored, hpass]
    have hreached : batch.Reached worked (accepted ++ [feature.id])
        (BatchState.write { state with accepted := accepted ++ [feature.id] }
          batch.request.session.id { state.sessions batch.request.session.id with
            featureList := markPassed (accepted ++ [feature.id]) batch.features }) := by
      refine ⟨h.worked_eq, rfl, h.order, ?_⟩
      rw [BatchState.write_sessions, Function.update_self]
    refine (correct_pure _).mpr ?_
    rw [show (MemoryOp.updateFeaturePass batch.request.session.id feature.id true).sessionId =
      batch.request.session.id from rfl, happly]
    exact ⟨hreached.settled, fun _ _ => hreached⟩
  exact runs_seq hupdate fun _ => hf

end

/-! ## The turns for a feature -/

/-- How the turns for a feature end: with the feature accepted or with a failed validation. -/
def TurnsEnd (batch : Batch) (before : List String) (featureId : String) (ending : FeatureEnd)
    (state : BatchState) : Prop :=
  (∃ done : Iteration, ending = .next done ∧
    done.processedFeatureIds = before ++ [featureId] ∧
    done.validatedFeatureIds = before ++ [featureId] ∧
    batch.Reached (before ++ [featureId]) (before ++ [featureId]) state) ∨
  ∃ (done : Iteration) (message : Option String),
    ending = .returned (done.result batch.request false false message) ∧
    done.processedFeatureIds = before ++ [featureId] ∧ done.validatedFeatureIds = before ∧
    batch.Reached (before ++ [featureId]) before state

/-- The turns for a feature end with it accepted, with a failed validation or with an error. -/
theorem runTurns_runs (chat : HarnessChat) (observed : Bool) (manifest : SessionManifest)
    {feature : FeatureRecord} (hfeature : feature ∈ batch.features) {before : List String}
    (turnsLeft retriesRemaining : Nat) (done : Iteration) (hturns : turnsLeft ≠ 0)
    (hprocessed : done.processedFeatureIds = before ++ [feature.id])
    (hvalidated : done.validatedFeatureIds = before)
    (h : batch.Reached (before ++ [feature.id]) before state) :
    batch.Runs (batch.TurnsEnd before feature.id)
      (batch.harness.runTurns chat batch.request observed manifest feature turnsLeft
        retriesRemaining done) state := by
  induction turnsLeft generalizing state retriesRemaining done with
  | zero => exact absurd rfl hturns
  | succ turnsLeft ih =>
      rw [runTurns]
      have hturn : Uses Aside
          (attempt (executeTurn chat (turnRequest batch.request manifest feature) observed)).run :=
        uses_map _ ((executeTurn_uses chat _ observed).mono fun _ => InTurn.aside)
      refine runs_aside_seq hturn h fun turn state' h => ?_
      cases turn with
      | error error =>
          dsimp only
          split
          · exact runs_throw h error
          · exact ih _ _ (by simp_all) hprocessed hvalidated h
      | ok turnResult =>
          refine runs_validate_seq h ?_ ?_
          · refine runs_update_seq hfeature h fun state' h => runs_pure h ?_
            exact .inl ⟨_, rfl, hprocessed, by rw [hvalidated], h⟩
          · simp only [Bool.false_eq_true, if_false]
            split
            · exact runs_pure h (.inr ⟨done, _, rfl, hprocessed, hvalidated, h⟩)
            · exact ih _ _ (by simp_all) hprocessed hvalidated h

/-! ## The loop over the features -/

/-- The ids of a batch are those worked on and those left. -/
theorem ids_eq {before rest : List FeatureRecord}
    (hpending : pendingFeatures batch.features = before ++ rest) :
    batch.ids = before.map (·.id) ++ rest.map (·.id) := by
  rw [ids, hpending, List.map_append]

/-- The features of a batch are those worked on and those left. -/
theorem length_ids {before rest : List FeatureRecord}
    (hpending : pendingFeatures batch.features = before ++ rest) :
    batch.ids.length = before.length + rest.length := by
  rw [ids_eq hpending, List.length_append, List.length_map, List.length_map]

/-- The report of an iteration that ends with all its features validated. -/
theorem report_validated {before rest : List FeatureRecord}
    (hpending : pendingFeatures batch.features = before ++ rest) (hbefore : 1 ≤ before.length)
    (hlimit : ∀ limit ∈ batch.limit, before.length ≤ limit)
    (hstopped : rest ≠ [] → batch.limit = some before.length) {done : Iteration}
    (hprocessed : done.processedFeatureIds = before.map (·.id))
    (hvalidated : done.validatedFeatureIds = before.map (·.id))
    (h : batch.Reached (before.map (·.id)) (before.map (·.id)) state) {noPending : Bool}
    (hnoPending : noPending = true ↔ rest = []) (message : Option String) :
    batch.Report (done.result batch.request true noPending message) state before.length where
  worked := h.worked_eq.trans hprocessed.symm
  accepted := h.accepted_eq.trans hvalidated.symm
  atLeastOne := hbefore
  atMostPending := by
    rw [length_ids hpending]
    omega
  atMostLimit := hlimit
  processed := by
    rw [ids_eq hpending, List.take_left' (List.length_map _)]
    exact hprocessed
  count := (congrArg List.length hprocessed).trans (List.length_map _)
  validatedIds := by
    rw [ids_eq hpending]
    exact hvalidated.trans (List.take_left' (List.length_map _)).symm
  noPending := by
    rw [length_ids hpending, Nat.left_eq_add, List.length_eq_zero_iff]
    exact ⟨fun h => ⟨rfl, hnoPending.mp h⟩, fun h => hnoPending.mpr h.2⟩
  stopped := by
    rw [length_ids hpending]
    refine fun _ hless => hstopped ?_
    rintro rfl
    simp at hless

/-- The report of an iteration that ends with a feature that fails its validation. -/
theorem report_failed {before after : List FeatureRecord} {feature : FeatureRecord}
    (hpending : pendingFeatures batch.features = before ++ feature :: after)
    (hlimit : ∀ limit ∈ batch.limit, before.length + 1 ≤ limit) {done : Iteration}
    (hprocessed : done.processedFeatureIds = before.map (·.id) ++ [feature.id])
    (hvalidated : done.validatedFeatureIds = before.map (·.id))
    (h : batch.Reached (before.map (·.id) ++ [feature.id]) (before.map (·.id)) state)
    (message : Option String) :
    batch.Report (done.result batch.request false false message) state (before.length + 1) where
  worked := h.worked_eq.trans hprocessed.symm
  accepted := h.accepted_eq.trans hvalidated.symm
  atLeastOne := Nat.le_add_left 1 _
  atMostPending := by
    rw [length_ids hpending, List.length_cons]
    omega
  atMostLimit := hlimit
  processed := by
    rw [ids_eq hpending, List.map_cons, List.append_cons, List.take_left' (by simp)]
    exact hprocessed
  count := (congrArg List.length hprocessed).trans (by simp)
  validatedIds := by
    rw [ids_eq hpending]
    exact hvalidated.trans (List.take_left' (List.length_map _)).symm
  noPending := by simp [Iteration.result]
  stopped := by simp [Iteration.result]

/-- Go on after the selection of the next feature. -/
theorem runs_select_seq {α : Type} {R : α → BatchState → Prop} {before after : List FeatureRecord}
    {feature : FeatureRecord} {f : Option FeatureRecord → Execution α}
    (hpending : pendingFeatures batch.features = before ++ feature :: after)
    (h : batch.Reached (before.map (·.id)) (before.map (·.id)) state)
    (hf : ∀ state', batch.Reached (before.map (·.id) ++ [feature.id]) (before.map (·.id)) state' →
      batch.Runs R (f (some feature)) state') :
    batch.Runs R (ExceptT.lift
      (ask (.select (markPassed (before.map (·.id)) batch.features))) >>= f) state := by
  refine (correct_call (S := HarnessSig) _ _).mpr ⟨⟨h.worked_eq ▸ h.order, trivial⟩, ?_⟩
  rintro answer state' ⟨rfl, rfl⟩
  have hselect : firstPendingFeature (markPassed (before.map (·.id)) batch.features) =
      some feature := firstPendingFeature_markPassed batch.distinct hpending
  rw [hselect]
  refine hf _ ⟨?_, h.accepted_eq, ?_, h.stored⟩
  · rw [h.worked_eq]
    rfl
  · rw [ids_eq hpending, List.map_cons, List.append_cons _ feature.id (after.map (·.id))]
    exact List.prefix_append _ _

/-- The loop over the features from where the given ones are done. -/
theorem runFeatures_runs (chat : HarnessChat) (observed : Bool) (manifest : SessionManifest)
    (remaining : Nat) {before rest : List FeatureRecord} (done : Iteration)
    (hpending : pendingFeatures batch.features = before ++ rest)
    (hremaining : before.length + remaining = batch.limit.getD batch.fuel)
    (hprocessed : done.processedFeatureIds = before.map (·.id))
    (hvalidated : done.validatedFeatureIds = before.map (·.id))
    (h : batch.Reached (before.map (·.id)) (before.map (·.id)) state) :
    batch.Runs (fun result state' => ∃ k, batch.Report result state' k)
      (batch.harness.runFeatures chat batch.request observed manifest remaining done) state := by
  obtain ⟨hturns, hlimitPos⟩ := RunPolicy.validate_ok batch.harness.runPolicyValid
  have hsome : before ++ rest ≠ [] := hpending ▸ batch.pending
  -- The features before `rest` are marked as passed, so all are passed exactly when none is left.
  have hall : allRequiredFeaturesPassed (markPassed (before.map (·.id)) batch.features) = true ↔
      rest = [] := allRequiredFeaturesPassed_markPassed batch.distinct hpending hsome
  induction remaining generalizing state before rest done with
  -- The loop has run as often as it may: with no limit its fuel is used up, and with a limit the
  -- limit is reached.
  | zero =>
      rw [runFeatures]
      cases hlimit : batch.limit with
      | none =>
          rw [show batch.harness.runPolicy.maxFeaturesPerRunLimit = none from hlimit]
          refine (correct_call (S := HarnessSig) _ _).mpr ⟨⟨h.worked_eq ▸ h.order, hlimit, ?_⟩,
            fun answer => Empty.elim answer⟩
          rw [hlimit, Option.getD_none] at hremaining
          rw [length_ids hpending]
          omega
      | some limit =>
          rw [show batch.harness.runPolicy.maxFeaturesPerRunLimit = some limit from hlimit]
          rw [hlimit, Option.getD_some, Nat.add_zero] at hremaining
          refine runs_load_seq h fun bootstrap hfeatures => runs_pure h ⟨before.length, ?_⟩
          rw [hfeatures]
          refine report_validated hpending ?_ ?_ ?_ hprocessed hvalidated h hall _
          · exact hremaining ▸ hlimitPos limit hlimit
          · rintro _ hmem
            rw [hlimit] at hmem
            cases hmem
            exact hremaining.le
          · intro _
            rw [hlimit, hremaining]
  | succ remaining ih =>
      have hlimit : ∀ limit ∈ batch.limit, before.length + 1 ≤ limit := by
        intro limit hmem
        rw [show batch.limit = some limit from hmem, Option.getD_some] at hremaining
        omega
      rw [runFeatures]
      refine runs_load_seq h fun bootstrap hfeatures => ?_
      rw [hfeatures]
      cases rest with
      | nil =>
          rw [if_pos (hall.mpr rfl)]
          have hbefore : 1 ≤ before.length := by
            rw [List.append_nil] at hsome
            exact List.length_pos_of_ne_nil hsome
          exact runs_pure h ⟨before.length, report_validated hpending hbefore
            (fun limit hmem => Nat.le_of_succ_le (hlimit limit hmem)) (fun hne => absurd rfl hne)
            hprocessed hvalidated h (iff_of_true rfl rfl) _⟩
      | cons feature after =>
          rw [if_neg (fun hpass => absurd (hall.mp hpass) (List.cons_ne_nil _ _))]
          refine runs_select_seq hpending h fun state' h => ?_
          have hfeature : feature ∈ batch.features :=
            (List.mem_filter.mp (hpending ▸ List.mem_append_right before List.mem_cons_self)).1
          refine runs_seq (runTurns_runs chat observed manifest hfeature _ _ _ hturns
            (by rw [hprocessed]) hvalidated h) fun ending state'' hending => ?_
          rcases hending with ⟨done', rfl, hprocessed', hvalidated', h'⟩ |
            ⟨done', message, rfl, hprocessed', hvalidated', h'⟩
          · have hpending' : pendingFeatures batch.features = (before ++ [feature]) ++ after := by
              rw [hpending, List.append_cons]
            have hids : (before ++ [feature]).map (·.id) = before.map (·.id) ++ [feature.id] := by
              rw [List.map_append, List.map_singleton]
            have hsome' : (before ++ [feature]) ++ after ≠ [] := hpending' ▸ batch.pending
            -- The feature moves over to those that are done.
            refine ih done' hpending' ?_ (hids ▸ hprocessed') (hids ▸ hvalidated') (hids ▸ h')
              hsome'
              (allRequiredFeaturesPassed_markPassed batch.distinct hpending' hsome')
            rw [List.length_append, List.length_singleton]
            omega
          · exact runs_pure h' ⟨before.length + 1,
              report_failed hpending hlimit hprocessed' hvalidated' h' message⟩

/-! ## Whole runs -/

/-- The iteration itself, from the start. -/
theorem runTaskIterationInner_runs (chat : HarnessChat) (observed : Bool)
    (h : batch.Reached [] [] state) :
    batch.Runs (fun result state' => ∃ k, batch.Report result state' k)
      (batch.harness.runTaskIterationInner batch.fuel chat batch.request observed) state := by
  rw [runTaskIterationInner]
  refine runs_load_seq h fun bootstrap hfeatures => ?_
  cases hmanifest : bootstrap.manifest with
  | none => exact runs_throw h _
  | some manifest =>
      have hpending : pendingFeatures batch.features = [] ++ pendingFeatures batch.features :=
        (List.nil_append _).symm
      have hsome : [] ++ pendingFeatures batch.features ≠ [] := batch.pending
      have hpass : ¬ allRequiredFeaturesPassed (markPassed [] batch.features) = true :=
        fun hpass =>
          hsome ((allRequiredFeaturesPassed_markPassed batch.distinct hpending hsome).mp hpass)
      refine runs_aside_seq (uses_map _ (uses_request trivial)) h fun healthy state' h => ?_
      have hrest : batch.Runs (fun result state' => ∃ k, batch.Report result state' k)
          (if allRequiredFeaturesPassed bootstrap.featureList then
            pure (Iteration.result {} batch.request true true none)
          else batch.harness.runFeatures chat batch.request observed manifest
            (batch.harness.runPolicy.maxFeaturesPerRunLimit.getD batch.fuel) {}) state' := by
        rw [hfeatures, if_neg hpass]
        exact runFeatures_runs chat observed manifest _ {} hpending (Nat.zero_add _) rfl rfl h
      rcases healthy with error | _
      · dsimp only
        split
        · exact runs_throw h error
        · exact hrest
      · exact hrest

/-- An outcome in a state: the memory is settled, and a result reports on it. -/
def Ended (batch : Batch) (outcome : Except HarnessError TaskIterationResult)
    (state : BatchState) : Prop :=
  batch.Settled state ∧ ∀ result, outcome = .ok result → ∃ k, batch.Report result state k

variable {outcome : Except HarnessError TaskIterationResult}

/-- An operation that leaves the batch alone leaves its end. -/
theorem Ended.aside {e : Event HarnessSig} (he : Aside e.op) (hact : BatchAct state e state')
    (h : batch.Ended outcome state) : batch.Ended outcome state' := by
  have hreached := h.1.aside he hact
  refine ⟨hreached.settled, fun result houtcome => ?_⟩
  obtain ⟨k, hreport⟩ := h.2 result houtcome
  exact ⟨k, { hreport with
    worked := hreached.worked_eq.trans hreport.worked
    accepted := hreached.accepted_eq.trans hreport.accepted }⟩

/-- Return an outcome after a program that leaves the features alone. -/
theorem runs_return {α : Type} {p : Execution α} (hp : Uses Aside p.run)
    (h : batch.Ended outcome state) :
    batch.Runs (fun result state' => ∃ k, batch.Report result state' k)
      (p >>= fun _ => liftM outcome) state := by
  have hended : Correct BatchAct batch.InOrder (fun _ state' => batch.Ended outcome state')
      p.run state := by
    refine hp.correct ?_ (fun _ _ _ he hact h => h.aside he hact) h
    intro state op hop h
    refine ⟨h.1.order, ?_⟩
    cases op <;> first | exact hop.elim | trivial
  refine correct_except_seq hended (fun _ state' h => (correct_pure _).mpr h)
    (fun error state' h => ⟨h.1, ?_⟩)
  rintro _ ⟨⟩

/-- Go on after an attempt, whatever its outcome. -/
theorem runs_attempt_seq {α : Type} {R : α → BatchState → Prop}
    {execution : Execution TaskIterationResult}
    {f : Except HarnessError TaskIterationResult → Execution α}
    (hexecution : batch.Runs (fun result state' => ∃ k, batch.Report result state' k) execution
      state)
    (hf : ∀ outcome state', batch.Ended outcome state' → batch.Runs R (f outcome) state') :
    batch.Runs R (attempt execution >>= f) state :=
  correct_lift_seq hexecution hf

/-- A task iteration, from the start. -/
theorem runTaskIteration_runs (observed : Bool) (h : batch.Reached [] [] state) :
    batch.Runs (fun result state' => ∃ k, batch.Report result state' k)
      (batch.harness.runTaskIteration batch.fuel batch.request observed) state := by
  have hhook : ∀ event, Uses Aside (ExceptT.lift (ask (.hook event)) : Execution Unit).run :=
    fun event => uses_map _ (uses_request trivial)
  refine runs_aside_seq (hhook _) h fun _ state' h => ?_
  refine runs_attempt_seq ?_ fun outcome state' h => ?_
  · rw [runTaskIterationWithObserverInner]
    split
    · exact runs_throw h _
    · rename_i chat _
      refine runs_aside_seq (uses_aside now_uses) h fun startedAt state' h => ?_
      refine runs_aside_seq (uses_aside (startedCheckpoint_uses _)) h fun checkpoint state' h => ?_
      refine runs_aside_seq (uses_map _ (uses_request trivial)) h fun _ state' h => ?_
      refine runs_attempt_seq (runTaskIterationInner_runs chat observed h)
        fun outcome state' h => ?_
      exact runs_return (uses_aside (recordFinalHandoff_uses _ _ _ _)) h
  · cases outcome with
    | ok result => exact runs_return (hhook _) h
    | error error => exact runs_return (hhook _) h

/-- What is true of a batch in every state it gets to, when `rest` is left of its program. -/
structure Outcome (batch : Batch) (rest : Prog HarnessSig (Except HarnessError TaskIterationResult))
    (state : BatchState) : Prop where
  /-- The pending features are worked on in their order, -/
  order : state.worked <+: batch.ids
  /-- each at most once, -/
  once : state.worked.Nodup
  /-- and the validator sees the one that is worked on. -/
  validates : ∀ feature result next, rest = .call (.validate feature result) next →
    state.worked.getLast? = some feature.id
  /-- At the end the features of the session are those of the start with the accepted ones
  passing, -/
  stored : ∀ outcome, rest = .pure outcome →
    (state.sessions batch.request.session.id).featureList =
      markPassed state.accepted batch.features
  /-- and a result reports on how far the run has got. -/
  reported : ∀ result, rest = .pure (.ok result) → ∃ k, batch.Report result state k
  /-- Fuel runs out only in an unlimited batch that had too little of it. -/
  fueled : ∀ next, rest = .call .exhausted next →
    batch.limit = none ∧ batch.fuel ≤ batch.ids.length

end Batch

/-- The outcome of every batch, whatever the health check, the chat and the validator answer. -/
theorem batch_outcome (batch : Batch) (observed : Bool)
    {rest : Prog HarnessSig (Except HarnessError TaskIterationResult)} {state : BatchState}
    (hrun : Steps BatchAct
      (batch.harness.runTaskIteration batch.fuel batch.request observed).run
      { sessions := batch.sessions } rest state) : batch.Outcome rest state := by
  have hstart : batch.Reached [] [] { sessions := batch.sessions } :=
    ⟨rfl, rfl, List.nil_prefix, (markPassed_nil _).symm⟩
  have hcorrect := (batch.runTaskIteration_runs observed hstart).steps hrun
  have hids : batch.ids.Nodup := batch.distinct.sublist (List.filter_sublist.map _)
  cases rest with
  | pure outcome =>
      obtain ⟨hsettled, hreport⟩ := (correct_pure _).mp hcorrect
      refine ⟨hsettled.order, hids.sublist hsettled.order.sublist, ?_, ?_, ?_, ?_⟩
      · rintro _ _ _ ⟨⟩
      · exact fun _ _ => hsettled.stored
      · rintro result ⟨⟩
        exact hreport result rfl
      · rintro _ ⟨⟩
  | call op next =>
      obtain ⟨⟨horder, hop⟩, -⟩ := (correct_call _ _).mp hcorrect
      refine ⟨horder, hids.sublist horder.sublist, ?_, ?_, ?_, ?_⟩
      · rintro feature result next ⟨⟩
        exact hop
      · rintro _ ⟨⟩
      · rintro _ ⟨⟩
      · rintro _ ⟨⟩
        exact hop

/-! ## A batch of two features -/

/-- An environment whose model says hello and whose validator accepts one feature. -/
def acceptingEnvironment (featureId : String) :
    (op : HarnessOp) → BatchState → Option (op.Answer × BatchState)
  | .memory op, state =>
      some (((state.sessions op.sessionId).apply op).1,
        state.write op.sessionId ((state.sessions op.sessionId).apply op).2)
  | .chat (.complete _), state =>
      some (.ok ⟨.openAi, "model", [.message ⟨.assistant, "hello"⟩], .endTurn, {}⟩, state)
  | .chat (.hook _), state => some ((), state)
  | .healthCheck _ _, state => some (.ok (), state)
  | .select featureList, state =>
      some (firstPendingFeature featureList,
        { state with
          worked := state.worked ++ (firstPendingFeature featureList).toList.map (·.id) })
  | .validate feature _, state =>
      if feature.id = featureId then
        some (.ok true, { state with accepted := state.accepted ++ [feature.id] })
      else some (.ok false, state)
  | .now, state => some (⟨0, 0⟩, state)
  | .hook _, state => some ((), state)
  | _, _ => none

/-- The environment of the batch answers as the batch allows. -/
theorem acceptingEnvironment_act {featureId : String} {op : HarnessSig.Op} {state : BatchState}
    {answer : HarnessSig.Ans op} {state' : BatchState}
    (h : acceptingEnvironment featureId op state = some (answer, state')) :
    BatchAct state ⟨op, answer⟩ state' := by
  cases op with
  | memory op =>
      cases h
      exact ⟨rfl, rfl⟩
  | chat op =>
      cases op <;> first | cases h; rfl | cases h
  | select featureList =>
      cases h
      exact ⟨rfl, rfl⟩
  | validate feature result =>
      rw [acceptingEnvironment] at h
      split at h
      · cases h
        rfl
      · cases h
        rfl
  | observe event => cases h
  | exhausted => cases h
  | _ =>
      cases h
      rfl

/-- An unlimited batch on a session with two pending features. -/
def twoFeatures : Batch where
  harness := { Harness.new with
    chat := some ⟨⟨.default, false⟩, true⟩
    runPolicy := .unlimitedBatch
    runPolicyValid := RunPolicy.unlimitedBatch_valid }
  fuel := 3
  request := { session := ⟨⟨"session"⟩, .openAi, "model", none⟩, runId := "run-1" }
  sessions := fun _ =>
    { manifest := some (.new ⟨"session"⟩ "main" "objective")
      featureList := [feature "a" "functional" "first" ["step"],
        { feature "b" "functional" "second" ["step"] with passes := true },
        feature "c" "functional" "third" ["step"]] }
  distinct := by decide
  pending := by decide

/-- The batch works on both, and the second one fails its validation. -/
theorem batch_outcome_twoFeatures : ∃ (result : TaskIterationResult) (state : BatchState),
    twoFeatures.Outcome (.pure (.ok result)) state ∧
      result.processedFeatureIds = ["a", "c"] ∧ result.validatedFeatureIds = ["a"] := by
  have hresult : ((twoFeatures.harness.runTaskIteration twoFeatures.fuel twoFeatures.request
      false).run.execute (acceptingEnvironment "a") { sessions := twoFeatures.sessions }).map
        (fun outcome => (outcome.2.1.toOption.map (·.processedFeatureIds),
          outcome.2.1.toOption.map (·.validatedFeatureIds))) =
            some (some ["a", "c"], some ["a"]) := by
    decide +kernel
  obtain ⟨⟨events, outcome, state⟩, hrun, hids⟩ := Option.map_eq_some_iff.mp hresult
  cases outcome with
  | error error => cases hids
  | ok result =>
      refine ⟨result, state, ?_, ?_⟩
      · exact batch_outcome twoFeatures false (Steps.of_execute acceptingEnvironment_act hrun)
      · simpa [Except.toOption] using hids

end Fiddlesticks.Harness

import Fiddlesticks.Harness.Batch
import Fiddlesticks.Harness.TurnByTurn
import Fiddlesticks.Memory.Operations

/-!
# Unlimited batches

When an unlimited batch with the first pending selector ends. The selector goes by the position of
a feature and the memory by its id, so the batch ends exactly when no pending feature hides behind
another one of the same id.
-/

namespace Fiddlesticks.Harness

open Effect Prog Chat Memory

/-! ## Feature lists -/

/-- No pending feature has the id of a feature before it. -/
def Addressable (features : List FeatureRecord) : Prop :=
  features.Pairwise fun before feature => before.id = feature.id → feature.passes = true

instance (features : List FeatureRecord) : Decidable (Addressable features) :=
  inferInstanceAs (Decidable (List.Pairwise _ _))

section

variable {features features' : List FeatureRecord} {feature : FeatureRecord}

/-- Setting a pass cannot reach a feature behind another one of the same id. -/
theorem addressable_setFeaturePass {featureId : String}
    (h : setFeaturePass featureId true features = some features') :
    Addressable features' ↔ Addressable features := by
  unfold Addressable
  induction features generalizing features' with
  | nil => cases h
  | cons first features ih =>
      rw [setFeaturePass] at h
      split at h
      · cases h
        rw [List.pairwise_cons, List.pairwise_cons]
      · rename_i hfirst
        obtain ⟨rest, hrest, rfl⟩ := Option.map_eq_some_iff.mp h
        rw [List.pairwise_cons, List.pairwise_cons, ih hrest]
        refine and_congr_left fun hpairs => ?_
        have hpointwise := setFeaturePass_forall₂ hrest
        clear h hrest ih hpairs
        induction hpointwise with
        | nil => rfl
        | cons hhead _ ih =>
            rw [List.forall_mem_cons, List.forall_mem_cons]
            refine and_congr ?_ ih
            rcases hhead with rfl | ⟨hid, rfl⟩
            · rfl
            · exact iff_of_true (fun hsame => absurd (hsame.trans hid) hfirst)
                fun hsame => absurd (hsame.trans hid) hfirst

/-- A feature of the list can have its pass set. -/
theorem exists_setFeaturePass (h : feature ∈ features) :
    ∃ features', setFeaturePass feature.id true features = some features' := by
  induction features with
  | nil => cases h
  | cons first features ih =>
      rw [setFeaturePass]
      split
      · exact ⟨_, rfl⟩
      · rename_i hfirst
        rcases List.mem_cons.mp h with rfl | hmem
        · exact absurd rfl hfirst
        · obtain ⟨features', hfeatures'⟩ := ih hmem
          exact ⟨first :: features', by rw [hfeatures']; rfl⟩

/-- Setting the pass of the first pending feature leaves one pending feature fewer. -/
theorem length_pendingFeatures_setFeaturePass (haddressable : Addressable features)
    (hfirst : firstPendingFeature features = some feature)
    (h : setFeaturePass feature.id true features = some features') :
    (pendingFeatures features').length + 1 = (pendingFeatures features).length := by
  induction features generalizing features' with
  | nil => cases h
  | cons first features ih =>
      obtain ⟨hbefore, hrest⟩ := List.pairwise_cons.mp haddressable
      rw [firstPendingFeature, List.find?_cons] at hfirst
      rw [setFeaturePass] at h
      cases hpasses : first.passes with
      | false =>
          simp only [hpasses, Bool.not_false, Option.some.injEq] at hfirst
          subst hfirst
          rw [if_pos rfl] at h
          cases h
          simp [pendingFeatures, hpasses]
      | true =>
          simp only [hpasses, Bool.not_true] at hfirst
          have hmem : feature ∈ features := List.mem_of_find?_eq_some hfirst
          have hpending : feature.passes = false := by
            simpa using List.find?_some hfirst
          have hne : first.id ≠ feature.id := by
            intro hsame
            have hpassed := hbefore feature hmem hsame
            rw [hpending] at hpassed
            cases hpassed
          rw [if_neg hne] at h
          obtain ⟨rest, hset, rfl⟩ := Option.map_eq_some_iff.mp h
          simpa [pendingFeatures, hpasses] using ih hrest hfirst hset

/-- A list without pending features is addressable. -/
theorem addressable_of_firstPendingFeature (h : firstPendingFeature features = none) :
    Addressable features := by
  refine List.pairwise_of_forall_mem_list fun before _ feature hfeature _ => ?_
  simpa using List.find?_eq_none.mp h feature hfeature

/-- A list whose features all pass has no first pending one. -/
theorem firstPendingFeature_of_passed (h : allRequiredFeaturesPassed features = true) :
    firstPendingFeature features = none := by
  unfold allRequiredFeaturesPassed at h
  rw [Bool.and_eq_true, List.all_eq_true] at h
  refine List.find?_eq_none.mpr fun feature hfeature => ?_
  simp [h.2 feature hfeature]

/-! ## Runs -/

/-- The memory of a run and the number of chat turns that it has taken. -/
structure UnlimitedState where
  sessions : Sessions
  turns : Nat := 0

/-- The state with one session replaced. -/
def UnlimitedState.write (state : UnlimitedState) (sessionId : SessionId)
    (session : SessionState) : UnlimitedState :=
  { state with sessions := Function.update state.sessions sessionId session }

/-- A write changes its session only. -/
@[simp] theorem UnlimitedState.write_sessions (state : UnlimitedState) (sessionId : SessionId)
    (session : SessionState) : (state.write sessionId session).sessions =
      Function.update state.sessions sessionId session := rfl

/-- Writing what is there changes nothing. -/
@[simp] theorem UnlimitedState.write_eq_self (state : UnlimitedState) (sessionId : SessionId) :
    state.write sessionId (state.sessions sessionId) = state := by
  rw [write, Function.update_eq_self]

/-- A memory that does not fail and that nobody else writes to, and the selector that takes the
first pending feature. A chat turn ends as it likes and adds to transcripts only, and the health
check and the validator answer as they like. -/
def UnlimitedAct (state : UnlimitedState) : Event TurnSig → UnlimitedState → Prop
  | ⟨.turn _ _ _, _⟩, state' => state'.turns = state.turns + 1 ∧ ∀ sessionId, ∃ transcript,
      state'.sessions sessionId = { state.sessions sessionId with transcript }
  | ⟨.other (.memory op), answer⟩, state' =>
      answer = ((state.sessions op.sessionId).apply op).1 ∧
        state' = state.write op.sessionId ((state.sessions op.sessionId).apply op).2
  | ⟨.other (.select featureList), answer⟩, state' =>
      answer = firstPendingFeature featureList ∧ state' = state
  | _, state' => state' = state

/-- The session stores the manifest and the features of the given one, and the run has taken that
many turns. -/
structure Stored (sessionId : SessionId) (session : SessionState) (turns : Nat)
    (state : UnlimitedState) : Prop where
  features_eq : (state.sessions sessionId).featureList = session.featureList
  manifest_eq : (state.sessions sessionId).manifest = session.manifest
  turns_eq : state.turns = turns

/-- What is stored is stored. -/
theorem Stored.refl (sessionId : SessionId) (state : UnlimitedState) :
    Stored sessionId (state.sessions sessionId) state.turns state :=
  ⟨rfl, rfl, rfl⟩

/-- A memory operation between the features leaves the manifest alone. -/
theorem Aside.apply_manifest {op : MemoryOp} (hop : Aside (.memory op)) (state : SessionState) :
    (state.apply op).2.manifest = state.manifest := by
  cases op <;> first | exact hop.elim | rfl

variable {session : SessionState} {sessionId : SessionId} {turns total : Nat}
  {state state' : UnlimitedState}

/-- An operation that leaves the batch alone leaves what is stored. -/
theorem Stored.aside {op : HarnessOp} {answer : op.Answer} (hop : Aside op)
    (hact : UnlimitedAct state ⟨.other op, answer⟩ state')
    (h : Stored sessionId session turns state) : Stored sessionId session turns state' := by
  cases op with
  | memory op =>
      obtain ⟨-, rfl⟩ := hact
      by_cases hsession : sessionId = op.sessionId
      · subst hsession
        refine ⟨?_, ?_, h.turns_eq⟩
        · rw [UnlimitedState.write_sessions, Function.update_self, hop.apply_featureList]
          exact h.features_eq
        · rw [UnlimitedState.write_sessions, Function.update_self, hop.apply_manifest]
          exact h.manifest_eq
      · refine ⟨?_, ?_, h.turns_eq⟩
        · rw [UnlimitedState.write_sessions, Function.update_of_ne hsession]
          exact h.features_eq
        · rw [UnlimitedState.write_sessions, Function.update_of_ne hsession]
          exact h.manifest_eq
  | select featureList => exact hop.elim
  | validate feature result => exact hop.elim
  | exhausted => exact hop.elim
  | _ =>
      obtain rfl := hact
      exact h

/-- The program takes at most `total` turns and does not run out of fuel. -/
abbrev Bounds {α : Type} (total : Nat) (Q : Except HarnessError α → UnlimitedState → Prop)
    (execution : TurnExecution α) (state : UnlimitedState) : Prop :=
  Correct UnlimitedAct (fun state op => state.turns ≤ total ∧ op ≠ .other .exhausted) Q
    execution.run state

section

variable {α β : Type} {R : Except HarnessError β → UnlimitedState → Prop}

/-- Go on after a program that leaves the features alone. -/
theorem bounds_aside_seq {p : Execution α} {f : α → TurnExecution β} (hp : Uses Aside p.run)
    (h : Stored sessionId session turns state) (hturns : turns ≤ total)
    (hf : ∀ value state', Stored sessionId session turns state' → Bounds total R (f value) state')
    (herror : ∀ error state', Stored sessionId session turns state' → R (.error error) state') :
    Bounds total R (plain p >>= f) state := by
  have hkeeps : Bounds total (fun _ => Stored sessionId session turns) (plain p) state := by
    refine (plain_uses hp).correct ?_ ?_ h
    · rintro state _ ⟨other, rfl, hother⟩ h
      refine ⟨h.turns_eq.trans_le hturns, ?_⟩
      rintro ⟨⟩
      exact hother
    · rintro state ⟨op, answer⟩ state' ⟨other, heq, hother⟩ hact h
      obtain rfl : op = .other other := heq
      exact h.aside hother hact
  exact correct_except_seq hkeeps (fun value state' h => hf value state' h)
    fun error state' h => herror error state' h

/-- Go on after loading the features. -/
theorem bounds_load_seq {f : BootstrapState → TurnExecution β}
    (h : Stored sessionId session turns state) (hturns : turns ≤ total)
    (hf : ∀ bootstrap : BootstrapState, bootstrap.featureList = session.featureList →
      bootstrap.manifest = session.manifest → Bounds total R (f bootstrap) state) :
    Bounds total R (plain (callMemory (.loadBootstrapState sessionId)) >>= f) state := by
  refine (correct_call (S := TurnSig) (.other (.memory (.loadBootstrapState sessionId))) _).mpr
    ⟨⟨h.turns_eq.trans_le hturns, by simp⟩, ?_⟩
  rintro _ state' ⟨rfl, rfl⟩
  show Bounds total R (f (state.sessions sessionId).bootstrap)
    (state.write sessionId (state.sessions sessionId))
  rw [UnlimitedState.write_eq_self]
  exact hf _ h.features_eq h.manifest_eq

end

/-! ## The bound -/

/-- The features that are left to pass fit in the turns that are left. -/
structure Fits (sessionId : SessionId) (maxTurns total pending : Nat) (state : UnlimitedState) :
    Prop where
  addressable : Addressable (state.sessions sessionId).featureList
  pending_eq : (pendingFeatures (state.sessions sessionId).featureList).length = pending
  turns_le : state.turns + pending * maxTurns ≤ total

variable {harness : Harness}

/-- The turns on one feature keep within their budget, and a feature that is accepted is no longer
pending. -/
theorem runTurns_bounds (chat : HarnessChat) (request : TaskIterationRequest) (observed : Bool)
    (manifest : SessionManifest) {pending turnsLeft : Nat} (retriesRemaining : Nat)
    (done : Iteration) (haddressable : Addressable session.featureList)
    (hpending : (pendingFeatures session.featureList).length = pending + 1)
    (hfirst : firstPendingFeature session.featureList = some feature)
    (h : Stored request.session.id session turns state) (hturnsLeft : turnsLeft ≠ 0)
    (hturns : turns + turnsLeft + pending * harness.runPolicy.maxTurnsPerRun ≤ total) :
    Bounds total (fun result state' => state'.turns ≤ total ∧ ∀ done', result = .ok (.next done') →
        Fits request.session.id harness.runPolicy.maxTurnsPerRun total pending state')
      (TurnByTurn.runTurns harness chat request observed manifest feature turnsLeft
        retriesRemaining done) state := by
  induction turnsLeft generalizing state turns retriesRemaining done with
  | zero => exact absurd rfl hturnsLeft
  | succ turnsLeft ih =>
      have hwithin : turns + 1 ≤ total := by omega
      -- A turn that did not pass the feature has left the features as they were, so the next turn
      -- starts as this one did, with one turn less.
      have hagain : ∀ (condition : Bool) (done' : Iteration) (state' : UnlimitedState),
          ¬ (condition || retriesRemaining == 0 || turnsLeft == 0) = true →
          Stored request.session.id session (turns + 1) state' →
          Bounds total (fun result state' => state'.turns ≤ total ∧
              ∀ done', result = .ok (.next done') →
                Fits request.session.id harness.runPolicy.maxTurnsPerRun total pending state')
            (takeRetry retriesRemaining >>= fun retriesRemaining =>
              TurnByTurn.runTurns harness chat request observed manifest feature turnsLeft
                retriesRemaining done') state' := by
        intro condition done' state' hgoes h
        simp only [Bool.or_eq_true, beq_iff_eq, not_or] at hgoes
        rw [takeRetry_of_ne_zero hgoes.1.2]
        exact ih _ _ h hgoes.2 (by omega)
      -- A run that ends on this feature has nothing left to fit in.
      have hstop : ∀ {state' : UnlimitedState},
          Stored request.session.id session (turns + 1) state' →
          ∀ result : Except HarnessError FeatureEnd, (∀ done', result ≠ .ok (.next done')) →
            state'.turns ≤ total ∧ ∀ done', result = .ok (.next done') →
              Fits request.session.id harness.runPolicy.maxTurnsPerRun total pending state' :=
        fun h result hresult =>
          ⟨h.turns_eq.trans_le hwithin, fun done' heq => absurd heq (hresult done')⟩
      rw [TurnByTurn.runTurns]
      refine (correct_call (S := TurnSig) _ _).mpr
        ⟨⟨h.turns_eq.trans_le (Nat.le_of_succ_le hwithin), by simp⟩, ?_⟩
      rintro turn state' ⟨hturn, hsessions⟩
      have h' : Stored request.session.id session (turns + 1) state' := by
        obtain ⟨transcript, hsession⟩ := hsessions request.session.id
        refine ⟨?_, ?_, by rw [hturn, h.turns_eq]⟩
        · rw [hsession]
          exact h.features_eq
        · rw [hsession]
          exact h.manifest_eq
      rcases (turn : Except HarnessError ChatTurnResult) with error | turnResult
      · show Bounds _ _ (if _ then throw error else _) _
        split
        · exact (correct_pure _).mpr (hstop h' _ (by simp))
        · exact hagain _ _ _ ‹_› h'
      · refine (correct_call (S := TurnSig) (.other (.validate feature turnResult)) _).mpr
          ⟨⟨h'.turns_eq.trans_le hwithin, by simp⟩, fun validated state'' hact => ?_⟩
        obtain rfl : state'' = state' := hact
        rcases (validated : Except HarnessError Bool) with error | _ | _
        · exact (correct_pure _).mpr (hstop h' _ (by simp))
        · show Bounds _ _ (if _ then Pure.pure _ else _) _
          split
          · exact (correct_pure _).mpr (hstop h' _ (by simp))
          · exact hagain _ _ _ ‹_› h'
        -- The feature is marked as passed, so one feature less is pending: the turns of this
        -- feature are paid for by it.
        · obtain ⟨features', hfeatures'⟩ :=
            exists_setFeaturePass (List.mem_of_find?_eq_some hfirst)
          have happly : (state''.sessions request.session.id).apply
              (.updateFeaturePass request.session.id feature.id true) =
                (.ok (), { state''.sessions request.session.id with
                  featureList := features' }) := by
            rw [SessionState.apply, h'.features_eq, hfeatures']
          refine (correct_call (S := TurnSig)
            (.other (.memory (.updateFeaturePass request.session.id feature.id true))) _).mpr
            ⟨⟨h'.turns_eq.trans_le hwithin, by simp⟩, ?_⟩
          rintro answer final ⟨hanswer, hfinal⟩
          rw [show (MemoryOp.updateFeaturePass request.session.id feature.id true).sessionId =
            request.session.id from rfl, happly] at hanswer hfinal
          subst hanswer hfinal
          refine (correct_pure _).mpr ⟨h'.turns_eq.trans_le hwithin, ?_⟩
          rintro _ -
          have hstored : ((state''.write request.session.id
              { state''.sessions request.session.id with
              featureList := features' }).sessions request.session.id).featureList = features' := by
            rw [UnlimitedState.write_sessions, Function.update_self]
          refine ⟨?_, ?_, ?_⟩
          · rw [hstored, addressable_setFeaturePass hfeatures']
            exact haddressable
          · have hlength := length_pendingFeatures_setFeaturePass haddressable hfirst hfeatures'
            rw [hstored]
            omega
          · show state''.turns + _ ≤ total
            rw [h'.turns_eq]
            omega

/-- Turns that fit are within the total. -/
theorem Fits.within {maxTurns pending : Nat} (h : Fits sessionId maxTurns total pending state) :
    state.turns ≤ total :=
  Nat.le_trans (Nat.le_add_right _ _) h.turns_le

/-- The loop over the features keeps within the turns that its pending features may take. -/
theorem runFeatures_bounds (chat : HarnessChat) (request : TaskIterationRequest) (observed : Bool)
    (manifest : SessionManifest) {pending remaining : Nat} (done : Iteration)
    (h : Fits request.session.id harness.runPolicy.maxTurnsPerRun total pending state)
    (hremaining : pending < remaining) :
    Bounds total (fun _ state' => state'.turns ≤ total)
      (TurnByTurn.runFeatures harness chat request observed manifest remaining done) state := by
  induction remaining generalizing state pending done with
  | zero => exact absurd hremaining (Nat.not_lt_zero _)
  | succ remaining ih =>
      rw [TurnByTurn.runFeatures]
      refine bounds_load_seq (Stored.refl _ state) h.within fun bootstrap hfeatures _ => ?_
      rw [hfeatures]
      split
      · exact (correct_pure _).mpr h.within
      · refine (correct_call (S := TurnSig) (.other (.select _)) _).mpr ⟨⟨h.within, by simp⟩, ?_⟩
        rintro selected state ⟨hselected, rfl⟩
        obtain rfl : selected = firstPendingFeature _ := hselected
        cases hfirst : firstPendingFeature (state.sessions request.session.id).featureList with
        | none =>
            refine (correct_pure (Except.error _)).mpr ?_
            exact h.within
        | some feature =>
            have hmem : feature ∈ pendingFeatures
                (state.sessions request.session.id).featureList :=
              List.mem_filter.mpr ⟨List.mem_of_find?_eq_some hfirst, by
                simpa using List.find?_some hfirst⟩
            obtain ⟨pending', rfl⟩ : ∃ pending', pending = pending' + 1 := by
              refine Nat.exists_eq_succ_of_ne_zero fun hzero => ?_
              rw [List.length_eq_zero_iff.mp (h.pending_eq.trans hzero)] at hmem
              cases hmem
            have hturns := h.turns_le
            rw [Nat.succ_mul] at hturns
            refine correct_except_seq (runTurns_bounds chat request observed manifest _ _
              h.addressable h.pending_eq hfirst (Stored.refl _ state)
              (RunPolicy.validate_ok harness.runPolicyValid).1 (by omega)) ?_ ?_
            · rintro (result | done') state' ⟨hwithin, hnext⟩
              · exact (correct_pure _).mpr hwithin
              · exact ih done' (hnext done' rfl) (Nat.lt_of_succ_lt_succ hremaining)
            · exact fun error state' hend => hend.1

/-! ## Whole runs -/

/-- An unlimited batch on any memory. -/
structure UnlimitedBatch where
  harness : Harness
  request : TaskIterationRequest
  observed : Bool
  sessions : Sessions
  unlimited : harness.runPolicy.mode = .unlimitedBatch

namespace UnlimitedBatch

/-- The stored session. -/
def storedSession (batch : UnlimitedBatch) : SessionState :=
  batch.sessions batch.request.session.id

/-- The number of pending features at the start. -/
def pending (batch : UnlimitedBatch) : Nat :=
  (pendingFeatures batch.storedSession.featureList).length

/-- The number of chat turns that the pending features allow. -/
def maxTurns (batch : UnlimitedBatch) : Nat :=
  batch.pending * batch.harness.runPolicy.maxTurnsPerRun

/-- The batch turn by turn, as far as its fuel. -/
def program (batch : UnlimitedBatch) (fuel : Nat) : TurnExecution TaskIterationResult :=
  TurnByTurn.runTaskIteration batch.harness fuel batch.request batch.observed

/-- The run takes at most the turns that the pending features allow and then returns: with a fuel
for more rounds than there are pending features, it does not run out of it. -/
def Terminates (batch : UnlimitedBatch) : Prop :=
  ∀ fuel, batch.pending < fuel → ∀ rest state,
    Steps UnlimitedAct (batch.program fuel).run { sessions := batch.sessions } rest state →
      state.turns ≤ batch.maxTurns ∧ ∀ next, rest ≠ .call (.other .exhausted) next

variable {batch : UnlimitedBatch}

/-- The batch has no limit on its features. -/
theorem limit_eq_none (batch : UnlimitedBatch) :
    batch.harness.runPolicy.maxFeaturesPerRunLimit = none := by
  rw [RunPolicy.maxFeaturesPerRunLimit, batch.unlimited]

/-- At the end of an iteration, leave the features alone and return. -/
theorem finish_bounds (sessionId : SessionId) {p : Execution Unit}
    {outcome : Except HarnessError TaskIterationResult} (hp : Uses Aside p.run)
    (h : state.turns ≤ total) :
    Bounds total (fun _ state' => state'.turns ≤ total) (plain p >>= fun _ => liftM outcome)
      state := by
  refine bounds_aside_seq hp (Stored.refl sessionId state) h (fun _ state' h' => ?_)
    fun _ state' h' => h'.turns_eq.trans_le h
  exact (correct_pure _).mpr (h'.turns_eq.trans_le h)

/-- The iteration itself, from a session with the manifest and the features of the start. -/
theorem runTaskIterationInner_bounds (chat : HarnessChat) {fuel : Nat}
    (hfuel : batch.pending < fuel)
    (hlist : batch.storedSession.manifest = none ∨ Addressable batch.storedSession.featureList)
    (h : Stored batch.request.session.id batch.storedSession 0 state) :
    Bounds batch.maxTurns (fun _ state' => state'.turns ≤ batch.maxTurns)
      (TurnByTurn.runTaskIterationInner batch.harness fuel chat batch.request batch.observed)
      state := by
  have herror : ∀ (error : HarnessError) (state' : UnlimitedState),
      Stored batch.request.session.id batch.storedSession 0 state' →
        state'.turns ≤ batch.maxTurns :=
    fun error state' h => h.turns_eq.trans_le (Nat.zero_le _)
  rw [TurnByTurn.runTaskIterationInner]
  refine bounds_load_seq h (Nat.zero_le _) fun bootstrap hfeatures hmanifest => ?_
  cases hstored : bootstrap.manifest with
  | none =>
      refine (correct_pure (Except.error _)).mpr ?_
      exact h.turns_eq.trans_le (Nat.zero_le _)
  | some manifest =>
      have haddressable : Addressable batch.storedSession.featureList := by
        rcases hlist with hnone | haddressable
        · rw [← hmanifest, hstored] at hnone
          cases hnone
        · exact haddressable
      refine bounds_aside_seq (uses_map _ (uses_request trivial)) h (Nat.zero_le _)
        (fun healthy state' h => ?_) herror
      -- The health check does not touch the session; if it fails, the run stops or goes on with the
      -- features.
      have hrest : Bounds batch.maxTurns (fun _ state' => state'.turns ≤ batch.maxTurns)
          (if allRequiredFeaturesPassed bootstrap.featureList then
            Pure.pure (Iteration.result {} batch.request true true none)
          else TurnByTurn.runFeatures batch.harness chat batch.request batch.observed manifest
            (batch.harness.runPolicy.maxFeaturesPerRunLimit.getD fuel) {}) state' := by
        split
        · refine (correct_pure (Except.ok _)).mpr ?_
          exact herror (.invalidRequest "") state' h
        · rw [batch.limit_eq_none]
          refine runFeatures_bounds chat batch.request batch.observed manifest {} ⟨?_, ?_, ?_⟩ hfuel
          · rw [h.features_eq]
            exact haddressable
          · rw [h.features_eq]
            rfl
          · rw [h.turns_eq, Nat.zero_add]
            exact Nat.le_refl _
      rcases (healthy : Except HarnessError Unit) with error | _
      · dsimp only
        split
        · refine (correct_pure (Except.error _)).mpr ?_
          exact herror error state' h
        · exact hrest
      · exact hrest

/-- A batch on an addressable list stays within the turns that its pending features allow, and so
does one that has no chat service or no manifest. -/
theorem program_bounds {fuel : Nat} (hfuel : batch.pending < fuel)
    (hbatch : batch.harness.chat = none ∨ batch.storedSession.manifest = none ∨
      Addressable batch.storedSession.featureList) :
    Bounds batch.maxTurns (fun _ state' => state'.turns ≤ batch.maxTurns) (batch.program fuel)
      { sessions := batch.sessions } := by
  have hstart :
      Stored batch.request.session.id batch.storedSession 0 { sessions := batch.sessions } :=
    ⟨rfl, rfl, rfl⟩
  have herror : ∀ (error : HarnessError) (state' : UnlimitedState),
      Stored batch.request.session.id batch.storedSession 0 state' →
        state'.turns ≤ batch.maxTurns :=
    fun error state' h => h.turns_eq.trans_le (Nat.zero_le _)
  rw [program, TurnByTurn.runTaskIteration]
  refine bounds_aside_seq (uses_map _ (uses_request trivial)) hstart (Nat.zero_le _)
    (fun _ state' h => ?_) herror
  have hinner : Bounds batch.maxTurns (fun _ state' => state'.turns ≤ batch.maxTurns)
      (TurnByTurn.runTaskIterationWithObserverInner batch.harness fuel batch.request
        batch.observed) state' := by
    rw [TurnByTurn.runTaskIterationWithObserverInner]
    cases hchat : batch.harness.chat with
    | none =>
        refine (correct_pure (Except.error _)).mpr ?_
        exact h.turns_eq.trans_le (Nat.zero_le _)
    | some chat =>
        have hlist := hbatch.resolve_left (by simp [hchat])
        refine bounds_aside_seq (uses_aside now_uses) h (Nat.zero_le _)
          (fun startedAt state' h => ?_) herror
        refine bounds_aside_seq (uses_aside (startedCheckpoint_uses _)) h (Nat.zero_le _)
          (fun checkpoint state' h => ?_) herror
        refine bounds_aside_seq (uses_map _ (uses_request trivial)) h (Nat.zero_le _)
          (fun _ state' h => ?_) herror
        refine correct_lift_seq (runTaskIterationInner_bounds chat hfuel hlist h)
          fun outcome state' h => ?_
        exact finish_bounds batch.request.session.id
          (uses_aside (recordFinalHandoff_uses _ _ _ _)) h
  refine correct_lift_seq hinner fun outcome state' h => ?_
  cases outcome with
  | ok result => exact finish_bounds batch.request.session.id (uses_map _ (uses_request trivial)) h
  | error error =>
      exact finish_bounds batch.request.session.id (uses_map _ (uses_request trivial)) h

end UnlimitedBatch

/-! ## Running forever -/

/-- Some run of the program uses up its fuel. -/
def Exhausts {α : Type} (execution : TurnExecution α) (state : UnlimitedState) : Prop :=
  ∃ next state', Steps UnlimitedAct execution.run state (.call (.other .exhausted) next) state'

section

variable {α β : Type} {execution : TurnExecution α}

/-- A part that uses up the fuel does so whatever follows it. -/
theorem Exhausts.lift_bind (h : Exhausts execution state)
    (f : Except HarnessError α → TurnExecution β) :
    Exhausts (ExceptT.lift execution.run >>= f) state := by
  obtain ⟨next, state', hsteps⟩ := h
  exact ⟨_, state', (hsteps.bind _).bind _⟩

/-- Go on after a run to a value. -/
theorem exhausts_seq {value : α} {f : α → TurnExecution β}
    (h : Steps UnlimitedAct execution.run state (.pure (.ok value)) state')
    (hf : Exhausts (f value) state') : Exhausts (execution >>= f) state := by
  obtain ⟨next, final, hsteps⟩ := hf
  exact ⟨next, final, (h.bind _).trans hsteps⟩

/-- An operation that is answered and changes nothing. -/
theorem exhausts_ask_seq {op : HarnessOp} {answer : op.Answer}
    {f : op.Answer → TurnExecution β} (hact : UnlimitedAct state ⟨.other op, answer⟩ state')
    (hf : Exhausts (f answer) state') : Exhausts (plain (ExceptT.lift (ask op)) >>= f) state := by
  obtain ⟨next, final, hsteps⟩ := hf
  exact ⟨next, final, .call hact hsteps⟩

/-- A memory operation that succeeds. -/
theorem steps_callMemory_ok (state : UnlimitedState) (op : MemoryOp) {value : op.Value}
    {stored : SessionState}
    (h : (state.sessions op.sessionId).apply op = (.ok value, stored)) :
    Steps UnlimitedAct (plain (callMemory op)).run state (.pure (.ok value))
      (state.write op.sessionId stored) := by
  have hact : UnlimitedAct state ⟨.other (.memory op), Except.ok value⟩
      (state.write op.sessionId stored) := by
    refine ⟨?_, ?_⟩
    · rw [h]
    · rw [h]
  exact .call hact (.refl _ _)

/-- Loading the session answers with what is stored. -/
theorem steps_loadBootstrapState (sessionId : SessionId) (state : UnlimitedState) :
    Steps UnlimitedAct (plain (callMemory (.loadBootstrapState sessionId))).run state
      (.pure (.ok (state.sessions sessionId).bootstrap)) state := by
  have hsteps := steps_callMemory_ok state (.loadBootstrapState sessionId) rfl
  rwa [show (MemoryOp.loadBootstrapState sessionId).sessionId = sessionId from rfl,
    UnlimitedState.write_eq_self] at hsteps

variable (harness) in
/-- A first turn that the validator accepts. -/
theorem steps_runTurns (chat : HarnessChat) (request : TaskIterationRequest) (observed : Bool)
    (manifest : SessionManifest) (retriesRemaining : Nat) (done : Iteration)
    (hset : setFeaturePass feature.id true (state.sessions request.session.id).featureList =
      some features') :
    ∃ done', Steps UnlimitedAct
      (TurnByTurn.runTurns harness chat request observed manifest feature
        harness.runPolicy.maxTurnsPerRun retriesRemaining done).run state
      (.pure (.ok (.next done')))
      (({ state with turns := state.turns + 1 } : UnlimitedState).write request.session.id
        { state.sessions request.session.id with featureList := features' }) := by
  obtain ⟨turnsLeft, hturns⟩ := Nat.exists_eq_succ_of_ne_zero
    (RunPolicy.validate_ok harness.runPolicyValid).1
  have hturn : UnlimitedAct state
      ⟨.turn chat (turnRequest request manifest feature) observed,
        Except.ok ⟨request.session.id, "", [], .endTurn, {}, false⟩⟩
      { state with turns := state.turns + 1 } :=
    ⟨rfl, fun sessionId => ⟨_, rfl⟩⟩
  have hvalid : UnlimitedAct { state with turns := state.turns + 1 }
      ⟨.other (.validate feature ⟨request.session.id, "", [], .endTurn, {}, false⟩), Except.ok true⟩
      { state with turns := state.turns + 1 } := rfl
  have happly : (state.sessions request.session.id).apply
      (.updateFeaturePass request.session.id feature.id true) =
        (.ok (), { state.sessions request.session.id with featureList := features' }) := by
    rw [SessionState.apply, hset]
  rw [hturns, TurnByTurn.runTurns]
  refine ⟨{ done with
    validatedFeatureIds := done.validatedFeatureIds ++ [feature.id]
    lastAssistantMessage := some "" }, .call hturn (.call hvalid ?_)⟩
  have hupdate := steps_callMemory_ok { state with turns := state.turns + 1 }
    (.updateFeaturePass request.session.id feature.id true) happly
  exact (hupdate.bind _).trans (.refl _ _)

/-- A list with a hidden pending feature keeps the loop over the features going. -/
theorem runFeatures_exhausts (chat : HarnessChat) (request : TaskIterationRequest)
    (observed : Bool) (manifest : SessionManifest) (remaining : Nat) (done : Iteration)
    (hunlimited : harness.runPolicy.maxFeaturesPerRunLimit = none)
    (hhidden : ¬ Addressable (state.sessions request.session.id).featureList) :
    Exhausts (TurnByTurn.runFeatures harness chat request observed manifest remaining done)
      state := by
  induction remaining generalizing state done with
  | zero =>
      rw [TurnByTurn.runFeatures, hunlimited]
      exact ⟨_, state, .refl _ _⟩
  | succ remaining ih =>
      rw [TurnByTurn.runFeatures]
      refine exhausts_seq (steps_loadBootstrapState request.session.id state) ?_
      -- A hidden feature is pending, so the list has not passed, yet passing the first feature of
      -- its id leaves it hidden.
      have hgoes : ¬ allRequiredFeaturesPassed
          (state.sessions request.session.id).bootstrap.featureList = true := fun hpassed =>
        hhidden (addressable_of_firstPendingFeature (firstPendingFeature_of_passed hpassed))
      rw [if_neg hgoes]
      obtain ⟨feature, hfirst⟩ := Option.ne_none_iff_exists'.mp
        (fun hnone => hhidden (addressable_of_firstPendingFeature hnone))
      have hselect : UnlimitedAct state
          ⟨.other (.select (state.sessions request.session.id).featureList), some feature⟩ state :=
        ⟨hfirst.symm, rfl⟩
      obtain ⟨features', hset⟩ := exists_setFeaturePass (List.mem_of_find?_eq_some hfirst)
      obtain ⟨done', hturns⟩ := steps_runTurns harness chat request observed manifest
        harness.runPolicy.retryBudget { done with
          processedFeatureIds := done.processedFeatureIds ++ [feature.id]
          selectedFeatureId := some feature.id } hset
      refine exhausts_ask_seq hselect (exhausts_seq hturns (ih done' ?_))
      rw [UnlimitedState.write_sessions, Function.update_self, addressable_setFeaturePass hset]
      exact hhidden

end

namespace UnlimitedBatch

variable {batch : UnlimitedBatch}

/-- Whatever the fuel, some run uses it up. -/
def RunsForever (batch : UnlimitedBatch) : Prop :=
  ∀ fuel, Exhausts (batch.program fuel) { sessions := batch.sessions }

/-- The iteration itself, on a session with a manifest and a hidden pending feature. -/
theorem runTaskIterationInner_exhausts (chat : HarnessChat) (manifest : SessionManifest)
    (fuel : Nat) (hmanifest : (state.sessions batch.request.session.id).manifest = some manifest)
    (hhidden : ¬ Addressable (state.sessions batch.request.session.id).featureList) :
    Exhausts (TurnByTurn.runTaskIterationInner batch.harness fuel chat batch.request
      batch.observed) state := by
  rw [TurnByTurn.runTaskIterationInner]
  refine exhausts_seq (steps_loadBootstrapState batch.request.session.id state) ?_
  rw [show (state.sessions batch.request.session.id).bootstrap.manifest = some manifest from
    hmanifest]
  refine exhausts_ask_seq (show UnlimitedAct state
    ⟨.other (.healthCheck _ (manifest.initPlan.getD defaultInitPlan)), Except.ok ()⟩ state from rfl)
    ?_
  have hgoes : ¬ allRequiredFeaturesPassed
      (state.sessions batch.request.session.id).bootstrap.featureList = true := fun hpassed =>
    hhidden (addressable_of_firstPendingFeature (firstPendingFeature_of_passed hpassed))
  dsimp only
  rw [if_neg hgoes]
  exact runFeatures_exhausts chat batch.request batch.observed manifest _ {} batch.limit_eq_none
    hhidden

/-- A batch with a chat service, on a session with a manifest and a hidden pending feature. -/
theorem runsForever {chat : HarnessChat} {manifest : SessionManifest}
    (hchat : batch.harness.chat = some chat)
    (hmanifest : batch.storedSession.manifest = some manifest)
    (hhidden : ¬ Addressable batch.storedSession.featureList) : batch.RunsForever := by
  intro fuel
  rw [program, TurnByTurn.runTaskIteration]
  refine exhausts_ask_seq (show UnlimitedAct _ ⟨.other (.hook _), ()⟩ _ from rfl) ?_
  refine Exhausts.lift_bind ?_ _
  rw [TurnByTurn.runTaskIterationWithObserverInner, hchat]
  refine exhausts_ask_seq (show UnlimitedAct _ ⟨.other .now, (⟨0, 0⟩ : SystemTime)⟩ _ from rfl) ?_
  refine exhausts_seq (.call (show UnlimitedAct _ ⟨.other .now, (⟨0, 0⟩ : SystemTime)⟩ _ from rfl)
    (.refl _ _)) ?_
  refine exhausts_seq (steps_callMemory_ok _ _ rfl) ?_
  refine Exhausts.lift_bind (runTaskIterationInner_exhausts chat manifest fuel ?_ ?_) _
  · rw [UnlimitedState.write_sessions, MemoryOp.sessionId, Function.update_self]
    exact hmanifest
  · rw [UnlimitedState.write_sessions, MemoryOp.sessionId, Function.update_self]
    exact hhidden

/-- The batch ends by itself: it gives up at once, or its list is addressable. -/
def Ends (batch : UnlimitedBatch) : Prop :=
  batch.harness.chat = none ∨ batch.storedSession.manifest = none ∨
    Addressable batch.storedSession.featureList

/-- Running forever is not terminating. -/
theorem RunsForever.not_terminates (h : batch.RunsForever) : ¬ batch.Terminates := by
  intro hterminates
  obtain ⟨next, state, hsteps⟩ := h (batch.pending + 1)
  exact (hterminates _ (Nat.lt_succ_self _) _ _ hsteps).2 next rfl

/-- A batch without an end runs forever. -/
theorem runsForever_of_not_ends (h : ¬ batch.Ends) : batch.RunsForever := by
  obtain ⟨hchat, hrest⟩ := not_or.mp h
  obtain ⟨hmanifest, hhidden⟩ := not_or.mp hrest
  obtain ⟨chat, hchat⟩ := Option.ne_none_iff_exists'.mp hchat
  obtain ⟨manifest, hmanifest⟩ := Option.ne_none_iff_exists'.mp hmanifest
  exact runsForever hchat hmanifest hhidden

/-- A batch that ends terminates. -/
theorem terminates_of_ends (h : batch.Ends) : batch.Terminates := by
  intro fuel hfuel rest state hsteps
  have hcorrect := (program_bounds hfuel h).steps hsteps
  cases rest with
  | pure outcome => exact ⟨(correct_pure outcome).mp hcorrect, fun next heq => nomatch heq⟩
  | call op next =>
      obtain ⟨⟨hturns, hop⟩, -⟩ := (correct_call _ _).mp hcorrect
      refine ⟨hturns, ?_⟩
      rintro _ ⟨⟩
      exact hop rfl

end UnlimitedBatch

end

/-- An unlimited batch terminates exactly when it gives up at once or no pending feature of its
list has the id of a feature before it. Otherwise it can run forever. -/
theorem unlimited_batch_terminates_iff (batch : UnlimitedBatch) :
    (∀ fuel, expand (batch.program fuel) =
      batch.harness.runTaskIteration fuel batch.request batch.observed) ∧
    (batch.Terminates ↔ batch.Ends) ∧ (batch.RunsForever ↔ ¬ batch.Ends) := by
  refine ⟨expand_runTaskIteration _ _ _, ⟨fun hterminates => ?_, UnlimitedBatch.terminates_of_ends⟩,
    ⟨fun hforever hends => ?_, UnlimitedBatch.runsForever_of_not_ends⟩⟩
  · by_contra hends
    exact (UnlimitedBatch.runsForever_of_not_ends hends).not_terminates hterminates
  · exact hforever.not_terminates (UnlimitedBatch.terminates_of_ends hends)

/-- An unlimited batch on a list that was replaced by two features of one id. -/
def twiceLogin : UnlimitedBatch where
  harness := { Harness.new with
    chat := some ⟨⟨.default, false⟩, true⟩
    runPolicy := .unlimitedBatch
    runPolicyValid := RunPolicy.unlimitedBatch_valid }
  request := { session := ⟨⟨"session"⟩, .openAi, "model", none⟩, runId := "run-1" }
  observed := false
  sessions := (stateAfter InMemoryMemoryBackend.handle
    [.saveManifest ⟨"session"⟩ (.new ⟨"session"⟩ "main" "objective"),
      .replaceFeatureList ⟨"session"⟩ [feature "login" "functional" "first" ["step"],
        feature "login" "functional" "second" ["step"]]] .new).session
  unlimited := rfl

/-- The batch selects the second feature forever, because its pass is stored at the first one. -/
theorem second_login_selected_forever : ¬ twiceLogin.Terminates ∧ twiceLogin.RunsForever := by
  have hends : ¬ twiceLogin.Ends := by
    rintro (hchat | hmanifest | haddressable)
    · cases hchat
    · exact absurd hmanifest (by decide)
    · exact absurd haddressable (by decide)
  have hforever := UnlimitedBatch.runsForever_of_not_ends hends
  exact ⟨hforever.not_terminates, hforever⟩

end Fiddlesticks.Harness

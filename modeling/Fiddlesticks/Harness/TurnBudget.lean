import Fiddlesticks.Effect.Correct
import Fiddlesticks.Harness.Conduct
import Fiddlesticks.Harness.TurnByTurn

/-!
# The turns for a feature

How many chat turns a task iteration takes for one feature and where it stops, for every policy and
whatever the chat, the validator, the selector and the memory answer.
-/

namespace Fiddlesticks.Harness

open Effect Prog Chat Memory

/-! ## Outcomes of turns -/

/-- The number of turns that the policy allows for a feature. -/
def RunPolicy.turnBudget (policy : RunPolicy) : Nat :=
  min policy.maxTurnsPerRun (policy.retryBudget + 1)

/-- How a turn for a feature ends. -/
inductive TurnOutcome where
  | chatError
  | validatorError
  | validated
  | notValidated
  deriving DecidableEq, Repr

/-- The outcome of the turn with this index, counted from zero, ends the work on its feature. -/
def TurnOutcome.IsTerminal (policy : RunPolicy) (index : Nat) : TurnOutcome → Prop
  | .chatError => policy.failFast.onChatError = true ∨ index + 1 = policy.turnBudget
  | .validatorError => True
  | .validated => True
  | .notValidated => policy.failFast.onValidationFailure = true ∨ index + 1 = policy.turnBudget

/-- What a task iteration has done: the ids of the features that were selected and of those that
the validator has accepted, and the turns for the feature selected last, with the outcomes of those
that have ended. -/
structure Ledger where
  worked : List String := []
  accepted : List String := []
  turns : Nat := 0
  outcomes : List TurnOutcome := []
  deriving DecidableEq, Repr

namespace Ledger

/-- The ledger after a turn has ended. -/
def close (ledger : Ledger) (outcome : TurnOutcome) : Ledger :=
  { ledger with outcomes := ledger.outcomes ++ [outcome] }

/-- The ledger after an event. -/
def record (ledger : Ledger) : Event TurnSig → Ledger
  | ⟨.other (.select _), some feature⟩ =>
      { worked := ledger.worked ++ [feature.id], accepted := ledger.accepted }
  | ⟨.turn _ _ _, .ok _⟩ => { ledger with turns := ledger.turns + 1 }
  | ⟨.turn _ _ _, .error _⟩ => { ledger with turns := ledger.turns + 1 }.close .chatError
  | ⟨.other (.validate _ _), .error _⟩ => ledger.close .validatorError
  | ⟨.other (.validate feature _), .ok true⟩ =>
      { ledger with accepted := ledger.accepted ++ [feature.id] }.close .validated
  | ⟨.other (.validate _ _), .ok false⟩ => ledger.close .notValidated
  | _ => ledger

/-- Anything may be answered. -/
def Act (ledger : Ledger) (e : Event TurnSig) (ledger' : Ledger) : Prop :=
  ledger' = ledger.record e

variable (policy : RunPolicy)

end Ledger

section

variable (policy : RunPolicy)

/-- None of the outcomes ends the work on the feature. -/
def GoesOn (outcomes : List TurnOutcome) : Prop :=
  ∀ index (outcome : TurnOutcome), outcomes[index]? = some outcome →
    ¬ outcome.IsTerminal policy index

/-- Another turn for the feature is due. -/
structure Ledger.Due (ledger : Ledger) : Prop where
  goesOn : GoesOn policy ledger.outcomes
  turns_eq : ledger.turns = ledger.outcomes.length
  below : ledger.turns < policy.turnBudget

/-- The last turn has answered and is not validated yet. -/
structure Ledger.Answered (ledger : Ledger) : Prop where
  goesOn : GoesOn policy ledger.outcomes
  turns_eq : ledger.turns = ledger.outcomes.length + 1
  within : ledger.turns ≤ policy.turnBudget

/-- The work on the feature has ended with the first turn that ends it. -/
structure Ledger.Ended (ledger : Ledger) : Prop where
  stopped : ∃ before last, ledger.outcomes = before ++ [last] ∧ GoesOn policy before ∧
    last.IsTerminal policy before.length
  turns_eq : ledger.turns = ledger.outcomes.length
  within : ledger.turns ≤ policy.turnBudget

/-- No feature is being worked on. -/
def Ledger.Idle (ledger : Ledger) : Prop :=
  ledger = {} ∨ ledger.Ended policy

/-- What may be asked for in a state. -/
def Ledger.Permits (ledger : Ledger) : TurnOp → Prop
  | .turn _ _ _ => ledger.Due policy
  | .other (.validate feature _) =>
      ledger.Answered policy ∧ ledger.worked.getLast? = some feature.id
  | .other (.select _) => ledger.Idle policy ∧ ledger.worked = ledger.accepted
  | .other _ => ledger.Idle policy
  | .turnsUsedUp => False
  | .noRetryLeft => False

/-- What a task iteration may return in a state. -/
def Ledger.Returns (outcome : Except HarnessError TaskIterationResult) (ledger : Ledger) : Prop :=
  ledger.Idle policy ∧ ∀ result, outcome = .ok result →
    result.processedFeatureIds = ledger.worked ∧
    result.validatedFeatureIds = ledger.accepted ∧
    (result.validated = true → ledger.worked = ledger.accepted)

end

/-! ## Steps of the ledger -/

variable {policy : RunPolicy} {ledger : Ledger}

/-- Before its first turn a feature goes on. -/
theorem goesOn_nil : GoesOn policy [] := by
  intro index outcome h
  cases h

/-- A feature goes on after an outcome that does not end it. -/
theorem goesOn_append {outcomes : List TurnOutcome} {outcome : TurnOutcome}
    (h : GoesOn policy outcomes) (hlast : ¬ outcome.IsTerminal policy outcomes.length) :
    GoesOn policy (outcomes ++ [outcome]) := by
  intro index other hother
  by_cases hlt : index < outcomes.length
  · rw [List.getElem?_append_left hlt] at hother
    exact h index other hother
  · have hindex : index = outcomes.length := by
      have hbound : index < (outcomes ++ [outcome]).length :=
        (List.getElem?_eq_some_iff.mp hother).1
      rw [List.length_append, List.length_singleton] at hbound
      omega
    subst hindex
    rw [List.getElem?_concat_length, Option.some.injEq] at hother
    exact hother ▸ hlast

/-- A turn that answers is to be validated. -/
theorem Ledger.Due.answered (h : ledger.Due policy) :
    ({ ledger with turns := ledger.turns + 1 } : Ledger).Answered policy where
  goesOn := h.goesOn
  turns_eq := congrArg (· + 1) h.turns_eq
  within := h.below

/-- A terminal outcome ends the work on the feature. -/
theorem Ledger.Answered.ended {outcome : TurnOutcome} (h : ledger.Answered policy)
    (houtcome : outcome.IsTerminal policy ledger.outcomes.length) :
    (ledger.close outcome).Ended policy where
  stopped := ⟨_, _, rfl, h.goesOn, houtcome⟩
  turns_eq := by
    rw [close, List.length_append]
    exact h.turns_eq
  within := h.within

/-! ## Programs without turns -/

/-- The operation is neither a selection nor a validation. -/
def Unrecorded : HarnessOp → Prop
  | .select _ => False
  | .validate _ _ => False
  | _ => True

/-- What the harness records is not in the ledger. -/
theorem Recording.unrecorded {op : HarnessOp} (hop : Recording op) : Unrecorded op := by
  cases op <;> first | exact hop.elim | trivial

/-- An operation that is not recorded leaves the ledger. -/
theorem Unrecorded.record_eq {op : HarnessOp} (hop : Unrecorded op) (answer : op.Answer) :
    ledger.record ⟨.other op, answer⟩ = ledger := by
  cases op <;> first | exact hop.elim | rfl

/-- An idle ledger permits operations that it does not record. -/
theorem Unrecorded.permits {op : HarnessOp} (hop : Unrecorded op) (h : ledger.Idle policy) :
    ledger.Permits policy (.other op) := by
  cases op <;> first | exact hop.elim | exact h

section

variable {α β : Type} {Q : Except HarnessError α → Ledger → Prop}
  {R : Except HarnessError β → Ledger → Prop}

/-- The program asks for what the policy permits. -/
abbrev Budgets (policy : RunPolicy) (Q : Except HarnessError α → Ledger → Prop)
    (execution : TurnExecution α) (ledger : Ledger) : Prop :=
  Correct Ledger.Act (Ledger.Permits policy) Q execution.run ledger

/-- Go on after a program without turns. -/
theorem budgets_plain_seq {p : Execution α} {f : α → TurnExecution β}
    (hp : Uses Unrecorded p.run) (hledger : ledger.Idle policy)
    (hf : ∀ value, Budgets policy R (f value) ledger)
    (herror : ∀ error, R (.error error) ledger) : Budgets policy R (plain p >>= f) ledger := by
  have hkeeps : Budgets policy (fun _ ledger' => ledger' = ledger) (plain p) ledger := by
    refine (plain_uses hp).correct (I := fun ledger' => ledger' = ledger) ?_ ?_ rfl
    · rintro _ _ ⟨other, rfl, hother⟩ rfl
      exact hother.permits hledger
    · rintro _ ⟨op, answer⟩ _ ⟨other, heq, hother⟩ hact rfl
      obtain rfl : op = .other other := heq
      exact hact.trans (hother.record_eq answer)
  refine correct_except_seq hkeeps ?_ ?_
  · rintro value _ rfl
    exact hf value
  · rintro error _ rfl
    exact herror error

end

/-! ## The turns for a feature -/

/-- What is left of the turns and of the retries for a feature, when another turn is due. -/
structure Remaining (policy : RunPolicy) (ledger : Ledger) (turnsLeft retriesRemaining : Nat) :
    Prop where
  goesOn : GoesOn policy ledger.outcomes
  turns_eq : ledger.turns = ledger.outcomes.length
  turnsLeft_eq : ledger.turns + turnsLeft = policy.maxTurnsPerRun
  retries_eq : ledger.turns + retriesRemaining = policy.retryBudget

/-- With a turn left, one is due. -/
theorem Remaining.due {turnsLeft retriesRemaining : Nat}
    (h : Remaining policy ledger (turnsLeft + 1) retriesRemaining) : ledger.Due policy where
  goesOn := h.goesOn
  turns_eq := h.turns_eq
  below := by
    have hturns := h.turnsLeft_eq
    have hretries := h.retries_eq
    unfold RunPolicy.turnBudget
    omega

/-- The turn is the last one of the budget when no turn or no retry is left. -/
theorem Remaining.last_iff {turnsLeft retriesRemaining : Nat}
    (h : Remaining policy ledger (turnsLeft + 1) retriesRemaining) :
    ledger.outcomes.length + 1 = policy.turnBudget ↔ retriesRemaining = 0 ∨ turnsLeft = 0 := by
  have hturns := h.turnsLeft_eq
  have hretries := h.retries_eq
  have hlength := h.turns_eq
  unfold RunPolicy.turnBudget
  omega

/-- How the turns for a feature end. -/
def TurnsEnded (policy : RunPolicy) (result : Except HarnessError FeatureEnd) (ledger : Ledger) :
    Prop :=
  ledger.Ended policy ∧ match result with
    | .ok (.next done) => done.processedFeatureIds = ledger.worked ∧
        done.validatedFeatureIds = ledger.accepted ∧ ledger.worked = ledger.accepted
    | .ok (.returned result) => result.processedFeatureIds = ledger.worked ∧
        result.validatedFeatureIds = ledger.accepted ∧ result.validated = false
    | .error _ => True

variable {harness : Harness}

/-- The turns on a feature are those that its budget permits. -/
theorem runTurns_budgets (chat : HarnessChat) (request : TaskIterationRequest) (observed : Bool)
    (manifest : SessionManifest) (feature : FeatureRecord) (turnsLeft retriesRemaining : Nat)
    (done : Iteration) (hturns : turnsLeft ≠ 0)
    (h : Remaining harness.runPolicy ledger turnsLeft retriesRemaining)
    (hprocessed : done.processedFeatureIds = ledger.worked)
    (hvalidated : done.validatedFeatureIds = ledger.accepted)
    (hworked : ledger.worked = ledger.accepted ++ [feature.id]) :
    Budgets harness.runPolicy (TurnsEnded harness.runPolicy)
      (TurnByTurn.runTurns harness chat request observed manifest feature turnsLeft
        retriesRemaining done) ledger := by
  induction turnsLeft generalizing ledger retriesRemaining done with
  | zero => exact absurd rfl hturns
  | succ turnsLeft ih =>
      -- The two places that take a retry go on alike: the turn that ended was not the last of the
      -- budget, and the retry is paid for.
      have hagain : ∀ (outcome : TurnOutcome) (done' : Iteration),
          ¬ outcome.IsTerminal harness.runPolicy ledger.outcomes.length →
          ¬ (retriesRemaining = 0 ∨ turnsLeft = 0) →
          done'.processedFeatureIds = done.processedFeatureIds →
          done'.validatedFeatureIds = done.validatedFeatureIds →
          Budgets harness.runPolicy (TurnsEnded harness.runPolicy)
            (takeRetry retriesRemaining >>= fun retriesRemaining =>
              TurnByTurn.runTurns harness chat request observed manifest feature turnsLeft
                retriesRemaining done')
            ({ ledger with turns := ledger.turns + 1 }.close outcome) := by
        intro outcome done' houtcome hleft hprocessed' hvalidated'
        cases retriesRemaining with
        | zero => exact absurd (.inl rfl) hleft
        | succ retriesRemaining =>
            refine ih retriesRemaining done' (fun hzero => hleft (.inr hzero)) ?_
              (hprocessed'.trans hprocessed) (hvalidated'.trans hvalidated) hworked
            refine ⟨goesOn_append h.goesOn houtcome, ?_, ?_, ?_⟩
            · rw [Ledger.close, List.length_append]
              exact congrArg (· + 1) h.turns_eq
            · have hturnsLeft := h.turnsLeft_eq
              show ledger.turns + 1 + turnsLeft = _
              omega
            · have hretries := h.retries_eq
              show ledger.turns + 1 + retriesRemaining = _
              omega
      rw [TurnByTurn.runTurns]
      -- The turn itself, which may fail.
      refine (correct_call (S := TurnSig) _ _).mpr ⟨h.due, fun turn ledger' hact => ?_⟩
      rcases (turn : Except HarnessError ChatTurnResult) with error | turnResult
      · obtain rfl : ledger' =
            Ledger.close { ledger with turns := ledger.turns + 1 } .chatError := hact
        show Budgets _ _ (if _ then throw error else _) _
        have hterminal : (harness.runPolicy.failFast.onChatError || retriesRemaining == 0 ||
            turnsLeft == 0) = true ↔
              TurnOutcome.chatError.IsTerminal harness.runPolicy ledger.outcomes.length := by
          rw [TurnOutcome.IsTerminal, h.last_iff]
          simp [or_assoc]
        split
        · rename_i hends
          exact (correct_pure _).mpr ⟨h.due.answered.ended (hterminal.mp hends), trivial⟩
        · rename_i hgoes
          refine hagain .chatError done (fun hends => hgoes (hterminal.mpr hends)) ?_ rfl rfl
          intro hleft
          exact hgoes (hterminal.mpr (.inr (h.last_iff.mpr hleft)))
      · obtain rfl : ledger' = { ledger with turns := ledger.turns + 1 } := hact
        -- A turn that succeeded is validated.
        refine (correct_call (S := TurnSig) (.other (.validate feature turnResult)) _).mpr
          ⟨⟨h.due.answered, ?_⟩, fun validated ledger' hact => ?_⟩
        · show ledger.worked.getLast? = _
          rw [hworked, List.getLast?_concat]
        · rcases (validated : Except HarnessError Bool) with error | _ | _
          · obtain rfl : ledger' =
                Ledger.close { ledger with turns := ledger.turns + 1 } .validatorError := hact
            exact (correct_pure _).mpr ⟨h.due.answered.ended trivial, trivial⟩
          · obtain rfl : ledger' =
                Ledger.close { ledger with turns := ledger.turns + 1 } .notValidated := hact
            show Budgets _ _ (if _ then Pure.pure _ else _) _
            have hterminal : (harness.runPolicy.failFast.onValidationFailure ||
                retriesRemaining == 0 || turnsLeft == 0) = true ↔
                  TurnOutcome.notValidated.IsTerminal harness.runPolicy
                    ledger.outcomes.length := by
              rw [TurnOutcome.IsTerminal, h.last_iff]
              simp [or_assoc]
            split
            · rename_i hends
              exact (correct_pure _).mpr ⟨h.due.answered.ended (hterminal.mp hends), hprocessed,
                hvalidated, rfl⟩
            · rename_i hgoes
              refine hagain .notValidated _ (fun hends => hgoes (hterminal.mpr hends)) ?_ rfl rfl
              intro hleft
              exact hgoes (hterminal.mpr (.inr (h.last_iff.mpr hleft)))
          · obtain rfl : ledger' = Ledger.close { ledger with
                turns := ledger.turns + 1
                accepted := ledger.accepted ++ [feature.id] } .validated := hact
            have hended : Ledger.Ended harness.runPolicy (Ledger.close { ledger with
                turns := ledger.turns + 1
                accepted := ledger.accepted ++ [feature.id] } .validated) := by
              obtain ⟨hstopped, hturns, hwithin⟩ := h.due.answered.ended
                (show TurnOutcome.validated.IsTerminal _ _ from trivial)
              exact ⟨hstopped, hturns, hwithin⟩
            refine budgets_plain_seq (uses_map _ (uses_request trivial)) (.inr hended)
              (fun _ => ?_) fun _ => ⟨hended, trivial⟩
            exact (correct_pure _).mpr ⟨hended, hprocessed,
              congrArg (· ++ [feature.id]) hvalidated, hworked⟩

/-! ## The whole iteration -/

/-- An idle ledger may return an error. -/
theorem returns_error (h : ledger.Idle policy) (error : HarnessError) :
    ledger.Returns policy (.error error) := by
  refine ⟨h, ?_⟩
  rintro _ ⟨⟩

/-- A program without turns, at the end of an iteration. -/
theorem budgets_finish {p : Execution Unit} {outcome : Except HarnessError TaskIterationResult}
    (hp : Uses Unrecorded p.run) (h : ledger.Returns policy outcome) :
    Budgets policy (Ledger.Returns policy) (plain p >>= fun _ => liftM outcome) ledger :=
  budgets_plain_seq hp h.1 (fun _ => (correct_pure _).mpr h)
    (returns_error h.1)

/-- Give up with an error. -/
theorem budgets_throw (error : HarnessError) (h : ledger.Idle policy) :
    Budgets policy (Ledger.Returns policy)
      (throw error : TurnExecution TaskIterationResult) ledger :=
  (correct_pure _).mpr (returns_error h error)

/-- The loop over the features works on one after the other within their budgets. -/
theorem runFeatures_budgets (chat : HarnessChat) (request : TaskIterationRequest)
    (observed : Bool) (manifest : SessionManifest) (remaining : Nat) (done : Iteration)
    (hidle : ledger.Idle harness.runPolicy) (hprocessed : done.processedFeatureIds = ledger.worked)
    (hvalidated : done.validatedFeatureIds = ledger.accepted)
    (hworked : ledger.worked = ledger.accepted) :
    Budgets harness.runPolicy (Ledger.Returns harness.runPolicy)
      (TurnByTurn.runFeatures harness chat request observed manifest remaining done) ledger := by
  have hreturns : ∀ noPending message, Ledger.Returns harness.runPolicy
      (.ok (done.result request true noPending message)) ledger := by
    intro noPending message
    refine ⟨hidle, ?_⟩
    rintro _ ⟨⟩
    exact ⟨hprocessed, hvalidated, fun _ => hworked⟩
  induction remaining generalizing ledger done with
  | zero =>
      rw [TurnByTurn.runFeatures]
      split
      · refine (correct_call (S := TurnSig) (.other .exhausted) _).mpr ⟨hidle, ?_⟩
        exact fun answer => Empty.elim answer
      · refine budgets_plain_seq (uses_map _ (uses_request trivial)) hidle (fun bootstrap => ?_)
          (returns_error hidle)
        exact (correct_pure _).mpr (hreturns _ _)
  | succ remaining ih =>
      rw [TurnByTurn.runFeatures]
      refine budgets_plain_seq (uses_map _ (uses_request trivial)) hidle (fun bootstrap => ?_)
        (returns_error hidle)
      split
      · exact (correct_pure _).mpr (hreturns _ _)
      · refine (correct_call (S := TurnSig) (.other (.select bootstrap.featureList)) _).mpr
          ⟨⟨hidle, hworked⟩, fun selected ledger' hact => ?_⟩
        rcases (selected : Option FeatureRecord) with _ | feature
        · obtain rfl : ledger' = ledger := hact
          exact (correct_pure _).mpr (returns_error hidle _)
        · obtain rfl : ledger' =
              { worked := ledger.worked ++ [feature.id], accepted := ledger.accepted } := hact
          -- The selected feature starts with the whole budget: no turn taken and no retry spent.
          have hremaining : Remaining harness.runPolicy
              { worked := ledger.worked ++ [feature.id], accepted := ledger.accepted }
              harness.runPolicy.maxTurnsPerRun harness.runPolicy.retryBudget :=
            ⟨goesOn_nil, rfl, Nat.zero_add _, Nat.zero_add _⟩
          refine correct_except_seq (runTurns_budgets chat request observed manifest feature _ _ _
            (RunPolicy.validate_ok harness.runPolicyValid).1 hremaining
            (congrArg (· ++ [feature.id]) hprocessed) hvalidated
            (congrArg (· ++ [feature.id]) hworked)) ?_ ?_
          · rintro (result | done') ledger' ⟨hended, hprocessed', hvalidated', hlast⟩
            · refine (correct_pure _).mpr ⟨.inr hended, ?_⟩
              rintro _ ⟨⟩
              exact ⟨hprocessed', hvalidated', fun hvalid =>
                absurd (hlast.symm.trans hvalid) Bool.false_ne_true⟩
            · refine ih done' (.inr hended) hprocessed' hvalidated' hlast
                fun noPending message => ?_
              refine ⟨.inr hended, ?_⟩
              rintro _ ⟨⟩
              exact ⟨hprocessed', hvalidated', fun _ => hlast⟩
          · exact fun error ledger' hended => returns_error (.inr hended.1) error

/-- What a task iteration runs under its hooks keeps to the ledger. -/
theorem runTaskIterationInner_budgets (fuel : Nat) (chat : HarnessChat)
    (request : TaskIterationRequest) (observed : Bool) :
    Budgets harness.runPolicy (Ledger.Returns harness.runPolicy)
      (TurnByTurn.runTaskIterationInner harness fuel chat request observed) {} := by
  have hidle : Ledger.Idle harness.runPolicy {} := .inl rfl
  have herror := returns_error hidle
  rw [TurnByTurn.runTaskIterationInner]
  refine budgets_plain_seq (uses_map _ (uses_request trivial)) hidle (fun bootstrap => ?_) herror
  cases bootstrap.manifest with
  | none => exact budgets_throw _ hidle
  | some manifest =>
      have hrest : Budgets harness.runPolicy (Ledger.Returns harness.runPolicy)
          (if allRequiredFeaturesPassed bootstrap.featureList then
            Pure.pure (Iteration.result {} request true true none)
          else TurnByTurn.runFeatures harness chat request observed manifest
            (harness.runPolicy.maxFeaturesPerRunLimit.getD fuel) {}) {} := by
        split
        · refine (correct_pure _).mpr ⟨hidle, ?_⟩
          rintro _ ⟨⟩
          exact ⟨rfl, rfl, fun _ => rfl⟩
        · exact runFeatures_budgets chat request observed manifest _ {} hidle rfl rfl rfl
      refine budgets_plain_seq (uses_map _ (uses_request trivial)) hidle (fun healthy => ?_) herror
      rcases (healthy : Except HarnessError Unit) with error | _
      · dsimp only
        split
        · exact budgets_throw _ hidle
        · exact hrest
      · exact hrest

variable (harness) in
/-- A task iteration keeps to the ledger. -/
theorem runTaskIteration_budgets (fuel : Nat) (request : TaskIterationRequest)
    (observed : Bool) :
    Budgets harness.runPolicy (Ledger.Returns harness.runPolicy)
      (TurnByTurn.runTaskIteration harness fuel request observed) {} := by
  have hidle : Ledger.Idle harness.runPolicy {} := .inl rfl
  have herror := returns_error hidle
  have hrecording : ∀ {α : Type} {p : Execution α}, Uses Recording p.run → Uses Unrecorded p.run :=
    fun hp => hp.mono fun _ => Recording.unrecorded
  have hinner : Budgets harness.runPolicy (Ledger.Returns harness.runPolicy)
      (TurnByTurn.runTaskIterationWithObserverInner harness fuel request observed) {} := by
    rw [TurnByTurn.runTaskIterationWithObserverInner]
    cases harness.chat with
    | none => exact budgets_throw _ hidle
    | some chat =>
        refine budgets_plain_seq (hrecording now_uses) hidle (fun startedAt => ?_) herror
        refine budgets_plain_seq (hrecording (startedCheckpoint_uses _)) hidle
          (fun checkpoint => ?_) herror
        refine budgets_plain_seq (uses_map _ (uses_request trivial)) hidle (fun _ => ?_) herror
        refine correct_lift_seq (runTaskIterationInner_budgets fuel chat request observed)
          fun outcome ledger' h => ?_
        exact budgets_finish (hrecording (recordFinalHandoff_uses _ _ _ _)) h
  rw [TurnByTurn.runTaskIteration]
  refine budgets_plain_seq (uses_map _ (uses_request trivial)) hidle (fun _ => ?_) herror
  refine correct_lift_seq hinner fun outcome ledger' h => ?_
  cases outcome with
  | ok result => exact budgets_finish (uses_map _ (uses_request trivial)) h
  | error error => exact budgets_finish (uses_map _ (uses_request trivial)) h

/-- What is true of a task iteration in every state it gets to, when `rest` is left of it. -/
structure Budgeted (policy : RunPolicy)
    (rest : Prog TurnSig (Except HarnessError TaskIterationResult)) (ledger : Ledger) : Prop where
  /-- No more turns are taken for a feature than the budget allows. -/
  within : ledger.turns ≤ policy.turnBudget
  /-- A turn is taken only when no turn before it has ended the work on the feature. -/
  goesOn : ∀ chat turnRequest observed next,
    rest = .call (.turn chat turnRequest observed) next → ledger.Due policy
  /-- A turn that answers is validated. -/
  validates : ∀ feature result next, rest = .call (.other (.validate feature result)) next →
    ledger.Answered policy ∧ ledger.worked.getLast? = some feature.id
  /-- Nothing else is asked for until a turn has ended the work on the feature, -/
  stops : ∀ op next, rest = .call (.other op) next →
    (∀ feature result, op ≠ .validate feature result) → ledger.Idle policy
  /-- and nothing is returned. -/
  ends : ∀ outcome, rest = .pure outcome → ledger.Idle policy
  /-- No retry is taken where none is left. -/
  noUnderflow : ∀ next, rest ≠ .call .noRetryLeft next
  /-- The loop over the turns is not left by its condition. -/
  noFallThrough : ∀ next, rest ≠ .call .turnsUsedUp next
  /-- Another feature is selected only when all features before it are validated, -/
  selects : ∀ features next, rest = .call (.other (.select features)) next →
    ledger.worked = ledger.accepted
  /-- and so is a result that claims to be validated. -/
  returns : ∀ result, rest = .pure (.ok result) →
    result.processedFeatureIds = ledger.worked ∧ result.validatedFeatureIds = ledger.accepted ∧
    (result.validated = true → ledger.worked = ledger.accepted)

/-- An idle ledger is within the budget of the run. -/
theorem Ledger.Idle.within (h : ledger.Idle policy) : ledger.turns ≤ policy.turnBudget := by
  rcases h with rfl | hended
  · exact Nat.zero_le _
  · exact hended.within

/-- Between the turns and their validations no feature is being worked on. -/
theorem Ledger.Permits.idle {op : HarnessOp} (h : ledger.Permits policy (.other op))
    (hop : ∀ feature result, op ≠ .validate feature result) : ledger.Idle policy := by
  cases op with
  | validate feature result => exact absurd rfl (hop feature result)
  | select featureList => exact h.1
  | _ => exact h

/-- A permitted operation is within the budget of the run. -/
theorem Ledger.Permits.within {op : TurnOp} (h : ledger.Permits policy op) :
    ledger.turns ≤ policy.turnBudget := by
  cases op with
  | turn chat turnRequest observed => exact Nat.le_of_lt h.below
  | turnsUsedUp => exact h.elim
  | noRetryLeft => exact h.elim
  | other op =>
      cases op with
      | validate feature result => exact h.1.within
      | select featureList => exact h.1.within
      | _ => exact Ledger.Idle.within h

/-- The turns of every task iteration, whatever is answered, in every state that a run of its
turn-by-turn program gets to. -/
theorem turn_budget (harness : Harness) (fuel : Nat) (request : TaskIterationRequest)
    (observed : Bool) {rest : Prog TurnSig (Except HarnessError TaskIterationResult)}
    {ledger : Ledger}
    (hrun : Steps Ledger.Act (TurnByTurn.runTaskIteration harness fuel request observed).run {}
      rest ledger) :
    expand (TurnByTurn.runTaskIteration harness fuel request observed) =
      harness.runTaskIteration fuel request observed ∧
    Budgeted harness.runPolicy rest ledger := by
  refine ⟨expand_runTaskIteration harness request observed fuel, ?_⟩
  have hcorrect := (runTaskIteration_budgets harness fuel request observed).steps hrun
  -- What is left is a result or an operation, and each field speaks of one of the two.
  cases rest with
  | pure outcome =>
      obtain ⟨hidle, hresult⟩ := (correct_pure _).mp hcorrect
      exact {
        within := hidle.within
        goesOn := fun _ _ _ _ heq => nomatch heq
        validates := fun _ _ _ heq => nomatch heq
        stops := fun _ _ heq => nomatch heq
        ends := fun _ _ => hidle
        noUnderflow := fun _ heq => nomatch heq
        noFallThrough := fun _ heq => nomatch heq
        selects := fun _ _ heq => nomatch heq
        returns := by
          rintro result ⟨⟩
          exact hresult result rfl }
  | call op next =>
      obtain ⟨hpermits, -⟩ := (correct_call _ _).mp hcorrect
      exact {
        within := hpermits.within
        goesOn := by
          rintro chat turnRequest observed next ⟨⟩
          exact hpermits
        validates := by
          rintro feature result next ⟨⟩
          exact hpermits
        stops := by
          rintro op next ⟨⟩ hop
          exact hpermits.idle hop
        ends := fun _ heq => nomatch heq
        noUnderflow := by
          rintro next ⟨⟩
          exact hpermits
        noFallThrough := by
          rintro next ⟨⟩
          exact hpermits
        selects := by
          rintro features next ⟨⟩
          exact hpermits.2
        returns := fun _ heq => nomatch heq }

/-- The feature of a run that fails twice. -/
def loginFeature : FeatureRecord :=
  feature "login" "functional" "Users can log in" ["Log in"]

/-- A chat that fails once and a validator that rejects. -/
def rejectingAnswers (ledger : Ledger) : (op : TurnOp) → Option op.Answer
  | .turn _ turnRequest _ => some (if ledger.turns = 0 then .error (.chat "connection reset")
      else .ok ⟨turnRequest.session.id, "hello", [], .endTurn, {}, false⟩)
  | .other (.memory (.loadBootstrapState sessionId)) => some (.ok
      { manifest := some (.new sessionId "main" "objective"), featureList := [loginFeature] })
  | .other (.memory (.recordRunCheckpoint _ _)) => some (.ok ())
  | .other (.memory (.appendProgressEntry _ _)) => some (.ok ())
  | .other (.healthCheck _ _) => some (.ok ())
  | .other (.select _) => some (some loginFeature)
  | .other (.validate _ _) => some (.ok false)
  | .other .now => some ⟨0, 0⟩
  | .other (.hook _) => some ()
  | _ => none

/-- A harness that allows three turns for a feature and one retry. -/
def oneRetry : Harness :=
  { Harness.new with
    chat := some ⟨⟨.default, false⟩, true⟩
    runPolicy := { RunPolicy.default with
      maxTurnsPerRun := 3
      retryBudget := 1
      failFast := ⟨true, false, false⟩ }
    runPolicyValid := rfl }

/-- Two turns are taken, and the feature is not validated. -/
theorem turn_budget_oneRetry : ∃ (result : TaskIterationResult) (ledger : Ledger),
    Budgeted oneRetry.runPolicy (.pure (.ok result)) ledger ∧
      ledger = ⟨["login"], [], 2, [.chatError, .notValidated]⟩ ∧ result.validated = false := by
  have hresult : ((TurnByTurn.runTaskIteration oneRetry 0
      { session := ⟨⟨"session"⟩, .openAi, "model", none⟩, runId := "run-1" } false).run.execute
        (fun op ledger => (rejectingAnswers ledger op).map fun answer =>
          (answer, ledger.record ⟨op, answer⟩)) {}).map
        (fun outcome => (outcome.2.1.toOption.map (·.validated), outcome.2.2)) =
          some (some false, ⟨["login"], [], 2, [.chatError, .notValidated]⟩) := by
    decide +kernel
  obtain ⟨⟨events, outcome, ledger⟩, hrun, hends⟩ := Option.map_eq_some_iff.mp hresult
  rcases outcome with error | result
  · cases hends
  · refine ⟨result, ledger, ?_, by simpa [Except.toOption, and_comm] using hends⟩
    refine (turn_budget oneRetry 0 _ false (Steps.of_execute ?_ hrun)).2
    intro op s answer s' hanswer
    obtain ⟨_, -, heq⟩ := Option.map_eq_some_iff.mp hanswer
    cases heq
    rfl

end Fiddlesticks.Harness

import Fiddlesticks.Provider.Retry
import Mathlib.Order.Bounds.Basic

/-!
# The steps of a retry loop

Which attempt ends the retries of a policy, and what the loop does up to it. The outcomes of the
attempts decide both, as long as the policy has a delay after each attempt that is retried: where it
has none the loop panics. `executeWithRetry_executes` is about any program in the place of an
attempt, a delay and a hook, as long as the attempts answer the outcomes in order.
-/

namespace Fiddlesticks.Provider

open Effect Numeric

/-! ## The last attempt -/

namespace RetryPolicy

section

variable {T : Type} {policy : RetryPolicy} {outcomes : Nat → Except ProviderError T} {n : Nat}

/-- What ends the retries at an attempt: a success, an error that is not retryable, or the number of
attempts, of which there is always one. -/
def Ends (policy : RetryPolicy) (outcomes : Nat → Except ProviderError T)
    (attempt : Nat) : Prop :=
  (∃ value, outcomes attempt = .ok value) ∨
    (∃ error, outcomes attempt = .error error ∧ error.retryable = false) ∨
    attempt = max 1 policy.maxAttempts.toNat

/-- The first attempt that ends the retries. Attempts are numbered from `1`. -/
def LastAttempt (policy : RetryPolicy) (outcomes : Nat → Except ProviderError T)
    (n : Nat) : Prop :=
  IsLeast {attempt | 1 ≤ attempt ∧ policy.Ends outcomes attempt} n

/-- There is at least one attempt. -/
theorem LastAttempt.pos (h : policy.LastAttempt outcomes n) : 1 ≤ n :=
  h.1.1

/-- There are no more attempts than the policy allows, and at least one. -/
theorem LastAttempt.le (h : policy.LastAttempt outcomes n) : n ≤ max 1 policy.maxAttempts.toNat :=
  h.2 ⟨le_max_left _ _, .inr (.inr rfl)⟩

/-- The attempts can be counted in a `u32`. -/
theorem LastAttempt.lt (h : policy.LastAttempt outcomes n) : n < 2 ^ 32 := by
  have hle : n ≤ max 1 policy.maxAttempts.toNat := h.le
  have hmax : policy.maxAttempts.toNat < 2 ^ 32 := policy.maxAttempts.toNat_lt
  omega

/-- Whatever the outcomes are, one attempt is the last. -/
theorem existsUnique_lastAttempt (policy : RetryPolicy)
    (outcomes : Nat → Except ProviderError T) : ∃! n, policy.LastAttempt outcomes n := by
  classical
  have hends : ∃ attempt, 1 ≤ attempt ∧ policy.Ends outcomes attempt :=
    ⟨_, le_max_left _ _, .inr (.inr rfl)⟩
  refine ⟨Nat.find hends, ⟨Nat.find_spec hends, fun _ hattempt => Nat.find_min' hends hattempt⟩, ?_⟩
  exact fun n hn => hn.unique ⟨Nat.find_spec hends, fun _ hattempt => Nat.find_min' hends hattempt⟩

/-- An attempt before the last fails with an error that is retried. -/
theorem LastAttempt.before (h : policy.LastAttempt outcomes n) {attempt : Nat}
    (hpos : 1 ≤ attempt) (hlt : attempt < n) :
    ∃ error, outcomes attempt = .error error ∧ policy.shouldRetry attempt error = true := by
  have hgoes : ¬ policy.Ends outcomes attempt := fun hends => absurd (h.2 ⟨hpos, hends⟩) (by omega)
  cases houtcome : outcomes attempt with
  | ok value => exact absurd (.inl ⟨value, houtcome⟩) hgoes
  | error error =>
      have hretryable : error.retryable = true := by
        by_contra hnot
        exact hgoes (.inr (.inl ⟨error, houtcome, by simpa using hnot⟩))
      have hallowed : attempt < policy.maxAttempts.toNat := by
        have hle := h.le
        omega
      exact ⟨error, rfl, by simp [shouldRetry, hretryable, hallowed]⟩

/-- The last attempt is not retried. -/
theorem LastAttempt.not_retried (h : policy.LastAttempt outcomes n) {error : ProviderError}
    (houtcome : outcomes n = .error error) : policy.shouldRetry n error = false := by
  rcases h.1.2 with ⟨value, hvalue⟩ | ⟨error', herror, hretryable⟩ | hlimit
  · rw [houtcome] at hvalue
    cases hvalue
  · rw [houtcome] at herror
    cases herror
    simp [shouldRetry, hretryable]
  · have hreached : ¬ n < policy.maxAttempts.toNat := by omega
    simp [shouldRetry, hreached]

end

/-- There is a delay after every attempt before the last. -/
def HasDelays (policy : RetryPolicy) (n : Nat) : Prop :=
  ∀ attempt, 1 ≤ attempt → attempt < n → (policy.backoffForAttempt attempt).isSome

end RetryPolicy

/-! ## Policies that always have a delay -/

/-- Seconds up to those of a duration are a duration. -/
theorem fromSecsF64_isSome_of_le {x y : ℚ≥0} (h : x ≤ y)
    (hy : (Duration.fromSecsF64 (.finite false y)).isSome) :
    (Duration.fromSecsF64 (.finite false x)).isSome := by
  have hpositive : ∀ z : ℚ≥0, (Duration.fromSecsF64 (.finite false z)).isSome ↔
      roundHalfEven (z * 10 ^ 9) < 2 ^ 64 * 10 ^ 9 := by
    intro z
    rw [Duration.fromSecsF64, if_neg (by simp)]
    simp
  rw [hpositive] at hy ⊢
  exact (roundHalfEven_mono (mul_le_mul_left h _)).trans_lt hy

/-- A policy whose multiplier has no sign, and whose cap is a duration again when it is converted to
seconds and back, has a delay after every attempt. -/
theorem RetryPolicy.backoff_isSome {policy : RetryPolicy}
    (hmultiplier : policy.backoffMultiplier.NonNegative)
    (hcap : (Duration.fromSecsF64 (policy.maxBackoff.asSecsF64 nearest)).isSome) (attempt : Nat) :
    (policy.backoffForAttempt attempt).isSome := by
  have hunbounded : ((policy.initialBackoff.asSecsF64 nearest).mul nearest
      (policy.backoffMultiplier.powi nearest (toInt32 (attempt - 1)))).NonNegative :=
    (F64.nonNegative_signed _).mul (hmultiplier.powi nearest _) nearest
  rw [backoffForAttempt, backoffSeconds]
  -- the cap is a finite number, as it is a duration
  obtain ⟨cap, hseconds⟩ : ∃ cap, policy.maxBackoff.asSecsF64 nearest = .finite false cap := by
    rw [Duration.asSecsF64] at hcap ⊢
    generalize (do
      let secs ← nearest (policy.maxBackoff.nanos / 10 ^ 9 : ℕ)
      let fraction ← nearest ((policy.maxBackoff.nanos % 10 ^ 9 : ℕ) / 10 ^ 9)
      nearest (secs + fraction)) = magnitude at hcap ⊢
    cases magnitude with
    | none => cases hcap
    | some cap => exact ⟨cap, rfl⟩
  rw [hseconds] at hcap ⊢
  obtain ⟨magnitude, hle, hmin⟩ := hunbounded.min_finite cap
  rw [hmin]
  exact fromSecsF64_isSome_of_le hle hcap

/-- The default policy never panics. -/
example (n : Nat) : RetryPolicy.default.HasDelays n := fun attempt _ _ =>
  RetryPolicy.backoff_isSome (show RetryPolicy.default.backoffMultiplier.NonNegative from rfl)
    (by decide +kernel) attempt

/-! ## The loop of the source -/

section

variable {S : Sig} [Prog.Panics S] {T : Type} (hook : HookEvent → Prog S Unit)
  (sleep : Duration → Prog S Unit) (provider : ProviderId) (operation : String)
  (policy : RetryPolicy)
  (execute : Nat → Prog S (Except ProviderError T))

/-- The loop without a count of what is left: `should_retry` alone decides whether it goes on. -/
theorem executeWithRetryLoop_eq (attempt : Nat) :
    executeWithRetryLoop hook sleep provider operation policy execute
      (policy.maxAttempts.toNat - attempt) attempt = (do
        hook (.attemptStart provider operation attempt)
        match ← execute attempt with
        | .ok value => do
            hook (.success provider operation attempt)
            pure (.ok value)
        | .error error =>
            if policy.shouldRetry attempt error then
              match policy.backoffForAttempt attempt with
              | some delay => do
                  hook (.retryScheduled provider operation attempt delay error)
                  sleep delay
                  executeWithRetryLoop hook sleep provider operation policy execute
                    (policy.maxAttempts.toNat - (attempt + 1)) (attempt + 1)
              | none => Prog.panicked
            else do
              hook (.failure provider operation attempt error)
              pure (.error error)) := by
  rw [executeWithRetryLoop.eq_def]
  refine bind_congr fun _ => bind_congr fun outcome => ?_
  cases outcome with
  | ok value => rfl
  | error error =>
      cases hleft : policy.maxAttempts.toNat - attempt with
      | zero =>
          have hreached : policy.shouldRetry attempt error = false := by
            have : ¬ attempt < policy.maxAttempts.toNat := by omega
            simp [RetryPolicy.shouldRetry, this]
          simp [hreached]
      | succ left =>
          have hnext : policy.maxAttempts.toNat - (attempt + 1) = left := by omega
          rewrite [hnext]
          cases policy.backoffForAttempt attempt with
          | none => rfl
          | some delay => rfl

end

/-! ## The calls of the loop -/

/-- What a retry loop calls. -/
inductive RetryOp where
  | hook (event : HookEvent)
  | attempt (number : Nat)
  | sleep (delay : Duration)
  | panic

/-- The answers to each call: an attempt gives its outcome, and nothing follows a panic. -/
abbrev RetryOp.Answer (T : Type) : RetryOp → Type
  | .hook _ => Unit
  | .attempt _ => Except ProviderError T
  | .sleep _ => Unit
  | .panic => Empty

/-- The signature of a retry loop. -/
abbrev RetrySig (T : Type) : Sig := ⟨RetryOp, RetryOp.Answer T⟩

instance (T : Type) : Prog.Panics (RetrySig T) := ⟨RetryOp.panic, id⟩

/-- `execute_with_retry` with every call of the loop left open. -/
def retryCalls (T : Type) (provider : ProviderId) (operation : String) (policy : RetryPolicy) :
    Prog (RetrySig T) (Except ProviderError T) :=
  executeWithRetry (fun event => Prog.request (S := RetrySig T) (.hook event))
    (fun delay => Prog.request (S := RetrySig T) (.sleep delay)) provider operation policy
    (fun number => Prog.request (S := RetrySig T) (.attempt number))

/-- The environment whose attempts have the given outcomes. -/
def answerOutcomes {T : Type} (outcomes : Nat → Except ProviderError T) :
    (op : RetryOp) → Unit → Option (op.Answer T × Unit)
  | .hook _, _ => some ((), ())
  | .attempt number, _ => some (outcomes number, ())
  | .sleep _, _ => some ((), ())
  | .panic, _ => none

section

variable {T : Type} (provider : ProviderId) (operation : String) (policy : RetryPolicy)

/-- One attempt, and what is reported and waited for after it. With a delay it is retried. -/
def attemptSteps (attempt : Nat) (outcome : Except ProviderError T) (delay : Option Duration) :
    History (RetrySig T) :=
  ⟨.hook (.attemptStart provider operation attempt), ()⟩ :: ⟨.attempt attempt, outcome⟩ ::
    match outcome, delay with
    | .ok _, _ => [⟨.hook (.success provider operation attempt), ()⟩]
    | .error error, some delay =>
        [⟨.hook (.retryScheduled provider operation attempt delay error), ()⟩, ⟨.sleep delay, ()⟩]
    | .error error, none => [⟨.hook (.failure provider operation attempt error), ()⟩]

/-- The steps from a first attempt on, a number of which is retried before the last. There are none
where the policy has no delay. -/
def stepsFrom (outcomes : Nat → Except ProviderError T) :
    (first retried : Nat) → Option (History (RetrySig T))
  | first, 0 => some (attemptSteps provider operation first (outcomes first) none)
  | first, retried + 1 => do
      let delay ← policy.backoffForAttempt first
      let rest ← stepsFrom outcomes (first + 1) retried
      return attemptSteps provider operation first (outcomes first) (some delay) ++ rest

/-- The steps of a retry loop whose last attempt is `n`. -/
def retrySteps (outcomes : Nat → Except ProviderError T) (n : Nat) :
    Option (History (RetrySig T)) :=
  stepsFrom provider operation policy outcomes 1 (n - 1)

/-- There are steps where there is a delay after each retried attempt. -/
theorem steps_isSome_iff (outcomes : Nat → Except ProviderError T) (first retried : Nat) :
    (stepsFrom provider operation policy outcomes first retried).isSome ↔
      ∀ attempt, first ≤ attempt → attempt < first + retried →
        (policy.backoffForAttempt attempt).isSome := by
  induction retried generalizing first with
  | zero =>
      refine iff_of_true rfl ?_
      intro attempt hfirst hlt
      exact absurd hlt (not_lt.mpr hfirst)
  | succ retried ih =>
      have hsplit : (stepsFrom provider operation policy outcomes first (retried + 1)).isSome ↔
          (policy.backoffForAttempt first).isSome ∧
            (stepsFrom provider operation policy outcomes (first + 1) retried).isSome := by
        rw [stepsFrom]
        cases policy.backoffForAttempt first with
        | none => simp
        | some delay =>
            cases stepsFrom provider operation policy outcomes (first + 1) retried with
            | none => simp
            | some rest => simp
      rw [hsplit, ih]
      constructor
      · intro h attempt hfirst hlt
        rcases hfirst.eq_or_lt with rfl | hnext
        · exact h.1
        · exact h.2 attempt hnext (by omega)
      · intro h
        refine ⟨h first le_rfl (by omega), ?_⟩
        intro attempt hfirst hlt
        exact h attempt (by omega) (by omega)

/-- A retry loop has steps to its last attempt where there is a delay after every one before it. -/
theorem retry_steps_isSome_iff (outcomes : Nat → Except ProviderError T) {n : Nat} (hn : 1 ≤ n) :
    (retrySteps provider operation policy outcomes n).isSome ↔ policy.HasDelays n := by
  rw [retrySteps, steps_isSome_iff, Nat.add_sub_cancel' hn]
  rfl

end

/-! ## Carrying out the calls -/

section

variable {S : Sig} [Prog.Panics S] {T σ : Type}
  {handle : (op : S.Op) → σ → Option (S.Ans op × σ)}
  {hook : HookEvent → Prog S Unit} {sleep : Duration → Prog S Unit}
  {execute : Nat → Prog S (Except ProviderError T)} {outcomes : Nat → Except ProviderError T}
  {state : Nat → σ} {event : Event (RetrySig T) → Event S}

/-- Programs that carry out the calls of a retry loop, each by one event. After `i` attempts the
environment is in the state `state i`, from which the next attempt has its outcome. -/
structure CarriesOut (handle : (op : S.Op) → σ → Option (S.Ans op × σ))
    (hook : HookEvent → Prog S Unit) (sleep : Duration → Prog S Unit)
    (execute : Nat → Prog S (Except ProviderError T)) (outcomes : Nat → Except ProviderError T)
    (state : Nat → σ) (event : Event (RetrySig T) → Event S) : Prop where
  hook : ∀ report i, (hook report).execute handle (state i) =
    some ([event ⟨.hook report, ()⟩], (), state i)
  sleep : ∀ delay i, (sleep delay).execute handle (state i) =
    some ([event ⟨.sleep delay, ()⟩], (), state i)
  execute : ∀ i, (execute (i + 1)).execute handle (state i) =
    some ([event ⟨.attempt (i + 1), outcomes (i + 1)⟩], outcomes (i + 1), state (i + 1))

variable (hcarries : CarriesOut handle hook sleep execute outcomes state event)
  {provider : ProviderId} {operation : String} {policy : RetryPolicy}

include hcarries

/-- A retried attempt is followed by its delay and by the next attempt, if there is a delay. -/
theorem executeWithRetryLoop_retries {i : Nat} {error : ProviderError}
    (houtcome : outcomes (i + 1) = .error error)
    (hretry : policy.shouldRetry (i + 1) error = true) :
    (executeWithRetryLoop hook sleep provider operation policy execute
      (policy.maxAttempts.toNat - (i + 1)) (i + 1)).execute handle (state i) =
        (policy.backoffForAttempt (i + 1)).bind fun delay =>
          ((executeWithRetryLoop hook sleep provider operation policy execute
            (policy.maxAttempts.toNat - (i + 2)) (i + 2)).execute handle (state (i + 1))).map
              fun last => ((attemptSteps provider operation (i + 1) (outcomes (i + 1))
                (some delay)).map event ++ last.1, last.2) := by
  have hattempt := hcarries.execute i
  rw [houtcome] at hattempt ⊢
  rw [executeWithRetryLoop_eq, Prog.execute_bind_of (hcarries.hook _ i),
    Prog.execute_bind_of hattempt]
  dsimp only
  rw [if_pos hretry]
  cases policy.backoffForAttempt (i + 1) with
  | none => simp
  | some delay =>
      dsimp only
      rw [Prog.execute_bind_of (hcarries.hook _ _), Prog.execute_bind_of (hcarries.sleep _ _)]
      simp [attemptSteps, Function.comp_def]

/-- An attempt that is not retried ends the loop. -/
theorem executeWithRetryLoop_ends {i : Nat}
    (hends : ∀ error, outcomes (i + 1) = .error error →
      policy.shouldRetry (i + 1) error = false) :
    (executeWithRetryLoop hook sleep provider operation policy execute
      (policy.maxAttempts.toNat - (i + 1)) (i + 1)).execute handle (state i) =
        some ((attemptSteps provider operation (i + 1) (outcomes (i + 1)) none).map event,
          outcomes (i + 1), state (i + 1)) := by
  have hattempt := hcarries.execute i
  rw [executeWithRetryLoop_eq]
  cases houtcome : outcomes (i + 1) with
  | ok value =>
      rw [houtcome] at hattempt
      exact Prog.execute_seq (hcarries.hook _ i) (Prog.execute_seq hattempt
        (Prog.execute_seq (hcarries.hook _ _) rfl))
  | error error =>
      rw [houtcome] at hattempt
      refine Prog.execute_seq (hcarries.hook _ i) (Prog.execute_seq hattempt ?_)
      dsimp only
      rw [hends error houtcome]
      exact Prog.execute_seq (hcarries.hook _ _) rfl

/-- The loop from an attempt on, up to the last. -/
theorem executeWithRetryLoop_executes {n : Nat} (hlast : policy.LastAttempt outcomes n)
    {i retried : Nat} (hretried : i + 1 + retried = n) :
    (executeWithRetryLoop hook sleep provider operation policy execute
      (policy.maxAttempts.toNat - (i + 1)) (i + 1)).execute handle (state i) =
        (stepsFrom provider operation policy outcomes (i + 1) retried).map fun steps =>
          (steps.map event, outcomes n, state n) := by
  induction retried generalizing i with
  | zero =>
      subst hretried
      rw [executeWithRetryLoop_ends hcarries fun error => hlast.not_retried]
      rfl
  | succ retried ih =>
      obtain ⟨error, houtcome, hretry⟩ := hlast.before (Nat.le_add_left 1 i) (by omega)
      rw [executeWithRetryLoop_retries hcarries houtcome hretry, ih (i := i + 1) (by omega),
        stepsFrom]
      simp only [Option.map_map, Option.map_bind, Option.bind_eq_bind, Option.pure_def]
      refine Option.bind_congr fun delay _ => ?_
      cases stepsFrom provider operation policy outcomes (i + 1 + 1) retried with
      | none => rfl
      | some rest => simp

/-- Where its calls are carried out, the loop goes through the steps of its attempts and returns the
outcome of the last. It does not return where there are no steps. -/
theorem executeWithRetry_executes {n : Nat} (hlast : policy.LastAttempt outcomes n) :
    (executeWithRetry hook sleep provider operation policy execute).execute handle (state 0) =
      (retrySteps provider operation policy outcomes n).map fun steps =>
        (steps.map event, outcomes n, state n) :=
  executeWithRetryLoop_executes hcarries hlast (by have := hlast.pos; omega)

end

/-- The loop on its own. -/
theorem retryCalls_executes {T : Type} {provider : ProviderId} {operation : String}
    {policy : RetryPolicy} {outcomes : Nat → Except ProviderError T} {n : Nat}
    (hlast : policy.LastAttempt outcomes n) :
    (retryCalls T provider operation policy).execute (answerOutcomes outcomes) () =
      (retrySteps provider operation policy outcomes n).map fun steps =>
        (steps, outcomes n, ()) := by
  have hcarries : CarriesOut (answerOutcomes outcomes)
      (fun event => Prog.request (S := RetrySig T) (.hook event))
      (fun delay => Prog.request (S := RetrySig T) (.sleep delay))
      (fun number => Prog.request (S := RetrySig T) (.attempt number)) outcomes
      (fun _ => ()) id :=
    ⟨fun _ _ => rfl, fun _ _ => rfl, fun _ => rfl⟩
  refine (executeWithRetry_executes hcarries hlast).trans ?_
  simp only [List.map_id]

end Fiddlesticks.Provider

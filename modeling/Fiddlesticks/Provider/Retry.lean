import Fiddlesticks.Effect.Correct
import Fiddlesticks.Numeric.F64
import Fiddlesticks.Provider.Model

/-!
# Retrying provider operations

`RetryPolicy`, the operation hooks and `execute_with_retry` of `fprovider::resilience`. The loop
is generic in the operation it retries and in how it sleeps and reports, as in the source. Where the
delay of a policy is no duration, the loop panics.
-/

namespace Fiddlesticks.Provider

open Effect Numeric

/-! ## Durations -/

/-- `Duration`: less than `2^64` seconds, in nanoseconds. -/
structure Duration where
  nanos : ℕ
  nanos_lt : nanos < 2 ^ 64 * 10 ^ 9
  deriving DecidableEq, Repr

namespace Duration

/-- `Duration::from_millis`. -/
def fromMillis (millis : UInt64) : Duration :=
  ⟨millis.toNat * 10 ^ 6, by have := millis.toNat_lt; omega⟩

/-- `Duration::from_secs`. -/
def fromSecs (secs : UInt64) : Duration :=
  ⟨secs.toNat * 10 ^ 9, by have := secs.toNat_lt; omega⟩

/-- The seconds of a duration. -/
def seconds (duration : Duration) : ℚ≥0 :=
  duration.nanos / 10 ^ 9

/-- `Duration::as_secs_f64`. The whole seconds and the rest are converted one by one. -/
def asSecsF64 (rounding : Rounding) (duration : Duration) : F64 :=
  F64.signed false do
    let secs ← rounding (duration.nanos / 10 ^ 9 : ℕ)
    let fraction ← rounding ((duration.nanos % 10 ^ 9 : ℕ) / 10 ^ 9)
    rounding (secs + fraction)

/-- `Duration::try_from_secs_f64`: there is no negative duration and none of `2^64` seconds. -/
def fromSecsF64 : F64 → Option Duration
  | .finite negative magnitude =>
      if negative ∧ magnitude ≠ 0 then none
      else
        let nanos := roundHalfEven (magnitude * 10 ^ 9)
        if h : nanos < 2 ^ 64 * 10 ^ 9 then some ⟨nanos, h⟩ else none
  | .infinite _ | .nan => none

end Duration

/-! ## Policies -/

/-- `RetryPolicy`. -/
structure RetryPolicy where
  maxAttempts : UInt32
  initialBackoff : Duration
  maxBackoff : Duration
  backoffMultiplier : F64
  deriving DecidableEq

namespace RetryPolicy

/-- `RetryPolicy::default`. -/
def default : RetryPolicy :=
  { maxAttempts := 3, initialBackoff := .fromMillis 200, maxBackoff := .fromSecs 5
    backoffMultiplier := .finite false (2 : ℕ) }

/-- `RetryPolicy::should_retry`. -/
def shouldRetry (policy : RetryPolicy) (attempt : Nat) (error : ProviderError) : Bool :=
  error.retryable && attempt < policy.maxAttempts.toNat

/-- The cast of a `u32` to `i32`. -/
def toInt32 (value : Nat) : Int :=
  (BitVec.ofNat 32 value).toInt

/-- The seconds that `backoff_for_attempt` computes, with the results of `f64` operations
represented as `rounding` says. -/
def backoffSeconds (rounding : Rounding) (policy : RetryPolicy) (attempt : Nat) : F64 :=
  let exponent := toInt32 (attempt - 1)
  let unbounded := (policy.initialBackoff.asSecsF64 rounding).mul rounding
    (policy.backoffMultiplier.powi rounding exponent)
  unbounded.min (policy.maxBackoff.asSecsF64 rounding)

/-- `RetryPolicy::backoff_for_attempt`. There is no result where `Duration::from_secs_f64`
panics. -/
def backoffForAttempt (policy : RetryPolicy) (attempt : Nat) : Option Duration :=
  Duration.fromSecsF64 (policy.backoffSeconds nearest attempt)

end RetryPolicy

/-! ## The loop -/

/-- The calls of `ProviderOperationHooks`. -/
inductive HookEvent where
  | attemptStart (provider : ProviderId) (operation : String) (attempt : Nat)
  | retryScheduled (provider : ProviderId) (operation : String) (attempt : Nat) (delay : Duration)
      (error : ProviderError)
  | success (provider : ProviderId) (operation : String) (attempts : Nat)
  | failure (provider : ProviderId) (operation : String) (attempts : Nat) (error : ProviderError)
  deriving DecidableEq, Repr

section

variable {S : Sig} [Prog.Panics S] {T : Type} (hook : HookEvent → Prog S Unit)
  (sleep : Duration → Prog S Unit) (provider : ProviderId) (operation : String)
  (policy : RetryPolicy)
  (execute : Nat → Prog S (Except ProviderError T))

/-- The loop of `execute_with_retry`. The count `left` is `max_attempts - attempt`, so no attempt
is retried once it is zero. -/
def executeWithRetryLoop (left attempt : Nat) : Prog S (Except ProviderError T) := do
  hook (.attemptStart provider operation attempt)
  match ← execute attempt with
  | .ok value => do
      hook (.success provider operation attempt)
      pure (.ok value)
  | .error error =>
      match left with
      | left + 1 =>
          if policy.shouldRetry attempt error then
            match policy.backoffForAttempt attempt with
            | some delay => do
                hook (.retryScheduled provider operation attempt delay error)
                sleep delay
                executeWithRetryLoop left (attempt + 1)
            | none => Prog.panicked
          else do
            hook (.failure provider operation attempt error)
            pure (.error error)
      | 0 => do
          hook (.failure provider operation attempt error)
          pure (.error error)

/-- `execute_with_retry`. -/
def executeWithRetry : Prog S (Except ProviderError T) :=
  executeWithRetryLoop hook sleep provider operation policy execute
    (policy.maxAttempts.toNat - 1) 1

section Rule

variable {G : History S → Event S → Prop} {I : History S → Prop} {R : History S → T → Prop}
  {hook sleep provider operation policy execute}

/-- The postcondition of a retried operation: a successful attempt decides what holds after it,
and an error leaves the invariant. -/
def Retried (I : History S → Prop) (R : History S → T → Prop) (h : History S) :
    Except ProviderError T → Prop
  | .ok value => R h value
  | .error _ => I h

/-- One round of the retry loop keeps the invariant if the rounds after it do. -/
theorem executeWithRetryLoop_round_obeys
    (hhook : ∀ h event, I h → Prog.Obeys G (fun h' _ => I h') h (hook event))
    (hsuccess : ∀ h attempts value, R h value →
      Prog.Obeys G (fun h' _ => R h' value) h (hook (.success provider operation attempts)))
    (hsleep : ∀ h delay, I h → Prog.Obeys G (fun h' _ => I h') h (sleep delay))
    (hexecute : ∀ h attempt, I h → Prog.Obeys G (Retried I R) h (execute attempt))
    {left attempt : Nat} {h : History S} (hinit : I h)
    (hnext : ∀ left', left = left' + 1 → ∀ h attempt, I h → Prog.Obeys G (Retried I R) h
      (executeWithRetryLoop hook sleep provider operation policy execute left' attempt)) :
    Prog.Obeys G (Retried I R) h
      (executeWithRetryLoop hook sleep provider operation policy execute left attempt) := by
  have hfail : ∀ h attempt error, I h → Prog.Obeys G (Retried I R) h (do
      hook (.failure provider operation attempt error)
      pure (.error error)) := by
    intro h attempt error hI
    exact Prog.obeys_seq (hhook _ _ hI) fun _ _ hI => (Prog.obeys_pure _).mpr hI
  rw [executeWithRetryLoop.eq_def]
  refine Prog.obeys_seq (hhook _ _ hinit) fun h _ hI => ?_
  refine Prog.obeys_seq (hexecute _ _ hI) fun h result hresult => ?_
  cases result with
  | ok value =>
      exact Prog.obeys_seq (hsuccess _ _ _ hresult) fun _ _ hR => (Prog.obeys_pure _).mpr hR
  | error error =>
      cases left with
      | zero => exact hfail h attempt error hresult
      | succ left =>
          dsimp only
          split
          · cases policy.backoffForAttempt attempt with
            | none => exact Prog.obeys_panicked
            | some delay =>
                refine Prog.obeys_seq (hhook _ _ hresult) fun h _ hI => ?_
                exact Prog.obeys_seq (hsleep _ _ hI) fun h _ hI => hnext left rfl h _ hI
          · exact hfail h attempt error hresult

/-- The retry rule. An invariant kept by the hooks, the delays and the failing attempts holds when
the retries end in an error, and a successful attempt decides what holds otherwise. -/
theorem executeWithRetry_obeys
    (hhook : ∀ h event, I h → Prog.Obeys G (fun h' _ => I h') h (hook event))
    (hsuccess : ∀ h attempts value, R h value →
      Prog.Obeys G (fun h' _ => R h' value) h (hook (.success provider operation attempts)))
    (hsleep : ∀ h delay, I h → Prog.Obeys G (fun h' _ => I h') h (sleep delay))
    (hexecute : ∀ h attempt, I h → Prog.Obeys G (Retried I R) h (execute attempt))
    {h : History S} (hinit : I h) :
    Prog.Obeys G (Retried I R) h
      (executeWithRetry hook sleep provider operation policy execute) := by
  rw [executeWithRetry]
  generalize policy.maxAttempts.toNat - 1 = left
  generalize 1 = attempt
  induction left generalizing h attempt with
  | zero => exact executeWithRetryLoop_round_obeys hhook hsuccess hsleep hexecute hinit (by simp)
  | succ left ih =>
      refine executeWithRetryLoop_round_obeys hhook hsuccess hsleep hexecute hinit ?_
      rintro left' hleft h attempt hI
      cases hleft
      exact ih hI _

/-- The retries are correct if the hooks, the delays and the attempts are, and a panic is allowed
after an attempt that fails. -/
theorem executeWithRetry_correct {σ : Type} {act : σ → Event S → σ → Prop}
    {Allowed : σ → S.Op → Prop}
    (hhook : ∀ event s, Prog.Correct act Allowed (fun _ _ => True) (hook event) s)
    (hsleep : ∀ delay s, Prog.Correct act Allowed (fun _ _ => True) (sleep delay) s)
    (hexecute : ∀ attempt s, Prog.Correct act Allowed
      (fun result s' => ∀ error, result = .error error → Allowed s' Prog.Panics.op)
      (execute attempt) s) (s : σ) :
    Prog.Correct act Allowed (fun _ _ => True)
      (executeWithRetry hook sleep provider operation policy execute) s := by
  have hfail : ∀ attempt error s, Prog.Correct act Allowed (fun _ _ => True)
      (hook (.failure provider operation attempt error) >>= fun _ =>
        (pure (.error error) : Prog S (Except ProviderError T))) s := fun attempt error s =>
    (Prog.correct_bind _ _).mpr ((hhook _ s).mono fun _ _ _ => (Prog.correct_pure _).mpr trivial)
  rw [executeWithRetry]
  generalize policy.maxAttempts.toNat - 1 = left
  generalize 1 = attempt
  induction left generalizing s attempt with
  | zero =>
      rw [executeWithRetryLoop.eq_def]
      refine (Prog.correct_bind _ _).mpr ((hhook _ s).mono fun _ s _ => ?_)
      refine (Prog.correct_bind _ _).mpr ((hexecute _ s).mono fun result s _ => ?_)
      cases result with
      | ok value =>
          exact (Prog.correct_bind _ _).mpr
            ((hhook _ s).mono fun _ _ _ => (Prog.correct_pure _).mpr trivial)
      | error error => exact hfail attempt error s
  | succ left ih =>
      rw [executeWithRetryLoop.eq_def]
      refine (Prog.correct_bind _ _).mpr ((hhook _ s).mono fun _ s _ => ?_)
      refine (Prog.correct_bind _ _).mpr ((hexecute _ s).mono fun result s hresult => ?_)
      cases result with
      | ok value =>
          exact (Prog.correct_bind _ _).mpr
            ((hhook _ s).mono fun _ _ _ => (Prog.correct_pure _).mpr trivial)
      | error error =>
          dsimp only
          split
          · cases policy.backoffForAttempt attempt with
            | none =>
                exact (Prog.correct_call _ _).mpr
                  ⟨hresult error rfl, fun answer => (Prog.Panics.unanswered answer).elim⟩
            | some delay =>
                refine (Prog.correct_bind _ _).mpr ((hhook _ s).mono fun _ s _ => ?_)
                refine (Prog.correct_bind _ _).mpr ((hsleep _ s).mono fun _ s _ => ?_)
                exact ih s _
          · exact hfail attempt error s

end Rule

end

end Fiddlesticks.Provider

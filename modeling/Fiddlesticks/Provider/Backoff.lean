import Fiddlesticks.Provider.Retry

/-!
# Retry delays

`backoff_for_attempt` raises the multiplier to the number of the attempt, cast to a signed integer,
and caps the product. Its operations on numbers are read here as exact rational arithmetic. The
delays grow up to the attempt `2^31`. After it the exponent is negative, and the delays stay up only
where no smaller delay is possible (`backoff_grows_iff`).
-/

namespace Fiddlesticks.Provider

open Numeric

/-! ## Capped powers -/

section

variable {initial multiplier cap : ℚ≥0}

/-- A power of the multiplier from an initial value on, up to a cap. -/
def cappedPower (initial multiplier cap : ℚ≥0) (exponent : ℤ) : ℚ≥0 :=
  min (initial * multiplier ^ exponent) cap

/-- The first power is the initial value, or the cap. -/
theorem cappedPower_zero (initial multiplier cap : ℚ≥0) :
    cappedPower initial multiplier cap 0 = min initial cap := by
  rw [cappedPower, zpow_zero, mul_one]

/-- A capped power grows with its exponent. -/
theorem cappedPower_mono (initial cap : ℚ≥0) (hmultiplier : 1 ≤ multiplier) {x y : ℤ} (h : x ≤ y) :
    cappedPower initial multiplier cap x ≤ cappedPower initial multiplier cap y :=
  min_le_min_right cap (mul_le_mul_right (zpow_le_zpow_right₀ hmultiplier h) initial)

/-- Nothing is lost below the initial value: the power is constant, or at its cap before. -/
def StaysUp (initial multiplier cap : ℚ≥0) (steps : ℕ) : Prop :=
  multiplier = 1 ∨ initial = 0 ∨ cap * multiplier ^ steps ≤ initial

/-- Where nothing is lost below the initial value, no power is larger. -/
theorem StaysUp.le (hmultiplier : 1 ≤ multiplier) {steps : ℕ}
    (h : StaysUp initial multiplier cap steps) (y : ℤ) :
    cappedPower initial multiplier cap y ≤ cappedPower initial multiplier cap (-steps) := by
  have hpositive : 0 < multiplier ^ steps := by positivity
  rcases h with rfl | rfl | hcap
  · simp [cappedPower]
  · simp [cappedPower]
  · have hreached : cap ≤ initial * multiplier ^ (-steps : ℤ) := by
      rw [zpow_neg, zpow_natCast, ← div_eq_mul_inv]
      exact (le_div_iff₀ hpositive).mpr hcap
    rw [cappedPower, cappedPower, min_eq_right hreached]
    exact min_le_right _ _

/-- Below the initial value the power is as large as there exactly where nothing is lost. -/
theorem cappedPower_neg_iff (hmultiplier : 1 ≤ multiplier) {steps : ℕ} (hsteps : steps ≠ 0) :
    min initial cap ≤ cappedPower initial multiplier cap (-steps) ↔
      StaysUp initial multiplier cap steps := by
  constructor
  · intro hstays
    by_contra hlost
    obtain ⟨hone, hzero, hcap⟩ : multiplier ≠ 1 ∧ initial ≠ 0 ∧
        ¬ cap * multiplier ^ steps ≤ initial := by
      simpa only [StaysUp, not_or] using hlost
    have hpositive : 0 < multiplier ^ steps := by positivity
    have hgrows : 1 < multiplier ^ steps :=
      one_lt_pow₀ (lt_of_le_of_ne hmultiplier (Ne.symm hone)) hsteps
    have hpower : initial * multiplier ^ (-steps : ℤ) = initial / multiplier ^ steps := by
      rw [zpow_neg, zpow_natCast, div_eq_mul_inv]
    -- The power is below both the initial value and the cap, so it is below their minimum.
    have hbelow : initial / multiplier ^ steps < min initial cap := by
      refine lt_min (div_lt_self (pos_iff_ne_zero.mpr hzero) hgrows) ?_
      exact (div_lt_iff₀ hpositive).mpr (not_le.mp hcap)
    refine absurd hstays (not_le.mpr ?_)
    rw [cappedPower, hpower]
    exact (min_le_left _ _).trans_lt hbelow
  · intro h
    rw [← cappedPower_zero initial multiplier]
    exact h.le hmultiplier 0

end

/-! ## The exponent of an attempt -/

/-- The exponent that `backoff_for_attempt` computes. -/
def exponentOf (attempt : UInt32) : ℤ :=
  RetryPolicy.toInt32 (attempt.toNat - 1)

/-- The exponent has 32 bits. -/
theorem exponent_lt (attempt : UInt32) : (exponentOf attempt).natAbs < 2 ^ 32 := by
  have hlower := BitVec.le_toInt (BitVec.ofNat 32 (attempt.toNat - 1))
  have hupper := BitVec.toInt_lt (x := BitVec.ofNat 32 (attempt.toNat - 1))
  rw [exponentOf, RetryPolicy.toInt32]
  omega

/-- The cast keeps a number up to multiples of `2^32`. -/
theorem toInt32_eq_bmod (value : ℕ) : RetryPolicy.toInt32 value = (value : ℤ).bmod (2 ^ 32) :=
  BitVec.toInt_ofNat' value

/-- Up to `2^31` the cast keeps the number. -/
theorem exponent_of_le {attempt : UInt32} (h : attempt.toNat ≤ 2 ^ 31) :
    exponentOf attempt = (attempt.toNat - 1 : ℕ) := by
  rw [exponentOf, toInt32_eq_bmod]
  exact Int.bmod_eq_of_le (by omega) (by omega)

/-- From `2^31 + 1` on the cast changes the sign. -/
theorem exponent_of_gt {attempt : UInt32} (h : 2 ^ 31 < attempt.toNat) :
    exponentOf attempt = -(2 ^ 32 + 1 - attempt.toNat : ℕ) := by
  have hbound := attempt.toNat_lt
  have hwrapped : ((attempt.toNat - 1 : ℕ) : ℤ) =
      -(2 ^ 32 + 1 - attempt.toNat : ℕ) + (2 ^ 32 : ℕ) := by
    omega
  rw [exponentOf, toInt32_eq_bmod, hwrapped, Int.add_bmod_right]
  exact Int.bmod_eq_of_le (by omega) (by omega)

/-! ## Two attempts -/

/-- The seconds of a duration, read exactly. -/
theorem asSecsF64_exactly (duration : Duration) :
    duration.asSecsF64 exactly = .finite false duration.seconds := by
  have hsplit : ((duration.nanos / 10 ^ 9 : ℕ) : ℚ≥0) + (duration.nanos % 10 ^ 9 : ℕ) / 10 ^ 9 =
      duration.nanos / 10 ^ 9 := by
    rw [eq_div_iff (by positivity), add_mul, div_mul_cancel₀ _ (by positivity)]
    exact_mod_cast Nat.div_add_mod' duration.nanos (10 ^ 9)
  exact congrArg (F64.finite false) hsplit

/-- The delay of the later attempt is not smaller, it is capped, and the delay of the first one is
not below the initial delay or the cap. -/
structure GrowsAndCaps (policy : RetryPolicy) (first later : UInt32) : Prop where
  grows : (policy.backoffSeconds exactly first.toNat).le
    (policy.backoffSeconds exactly later.toNat)
  caps : (policy.backoffSeconds exactly later.toNat).le (policy.maxBackoff.asSecsF64 exactly)
  starts : ((policy.initialBackoff.asSecsF64 exactly).min
    (policy.maxBackoff.asSecsF64 exactly)).le (policy.backoffSeconds exactly first.toNat)

/-- The first of two attempts that is after `2^31`, if any is. -/
def wrappedAttempt (first later : UInt32) : UInt32 :=
  if 2 ^ 31 < first.toNat then first else later

section

variable {policy : RetryPolicy} {multiplier : ℚ≥0}

/-- The seconds of a delay are a capped power. -/
theorem backoffSeconds_exactly (hpolicy : policy.backoffMultiplier = .finite false multiplier)
    (hmultiplier : 1 ≤ multiplier) (attempt : UInt32) :
    policy.backoffSeconds exactly attempt.toNat = .finite false
      (cappedPower policy.initialBackoff.seconds multiplier policy.maxBackoff.seconds
        (exponentOf attempt)) := by
  have hpower : policy.backoffMultiplier.powi exactly (exponentOf attempt) =
      .finite false (multiplier ^ exponentOf attempt) := by
    rw [hpolicy]
    exact F64.powi_exactly (zero_lt_one.trans_le hmultiplier).ne' (exponent_lt attempt)
  have hseconds : policy.backoffSeconds exactly attempt.toNat =
      ((policy.initialBackoff.asSecsF64 exactly).mul exactly
        (policy.backoffMultiplier.powi exactly (exponentOf attempt))).min
          (policy.maxBackoff.asSecsF64 exactly) := rfl
  rw [hseconds, hpower, asSecsF64_exactly, asSecsF64_exactly, F64.mul_exactly]
  exact F64.min_finite _ _

/-- The delays of two attempts grow and are capped when the capped powers do. -/
theorem grows_and_caps_iff (hpolicy : policy.backoffMultiplier = .finite false multiplier)
    (hmultiplier : 1 ≤ multiplier) (first later : UInt32) :
    GrowsAndCaps policy first later ↔
      cappedPower policy.initialBackoff.seconds multiplier policy.maxBackoff.seconds
          (exponentOf first) ≤
        cappedPower policy.initialBackoff.seconds multiplier policy.maxBackoff.seconds
          (exponentOf later) ∧
      min policy.initialBackoff.seconds policy.maxBackoff.seconds ≤
        cappedPower policy.initialBackoff.seconds multiplier policy.maxBackoff.seconds
          (exponentOf first) := by
  have hfirst := backoffSeconds_exactly hpolicy hmultiplier first
  have hlater := backoffSeconds_exactly hpolicy hmultiplier later
  constructor
  · intro h
    have hgrows := h.grows
    have hstarts := h.starts
    rw [hfirst, hlater] at hgrows
    rw [hfirst, asSecsF64_exactly, asSecsF64_exactly, F64.min_finite] at hstarts
    exact ⟨(F64.le_finite_iff _ _).mp hgrows, (F64.le_finite_iff _ _).mp hstarts⟩
  · intro h
    obtain ⟨hgrows, hstarts⟩ := h
    refine ⟨?_, ?_, ?_⟩
    · rw [hfirst, hlater]
      exact (F64.le_finite_iff _ _).mpr hgrows
    · rw [hlater, asSecsF64_exactly]
      exact (F64.le_finite_iff _ _).mpr (min_le_right _ _)
    · rw [hfirst, asSecsF64_exactly, asSecsF64_exactly, F64.min_finite]
      exact (F64.le_finite_iff _ _).mpr hstarts

end

section

variable {initial multiplier cap : ℚ≥0}

/-- Up to `2^31` no delay is below the first one. -/
theorem le_delay_of_le (initial cap : ℚ≥0) (hmultiplier : 1 ≤ multiplier) {attempt : UInt32}
    (h : attempt.toNat ≤ 2 ^ 31) :
    min initial cap ≤ cappedPower initial multiplier cap (exponentOf attempt) := by
  rw [exponent_of_le h, ← cappedPower_zero initial multiplier]
  exact cappedPower_mono initial cap hmultiplier (by omega)

/-- After it a delay is not below the first one where no delay is smaller. -/
theorem le_delay_iff_of_gt (hmultiplier : 1 ≤ multiplier) {attempt : UInt32}
    (h : 2 ^ 31 < attempt.toNat) :
    min initial cap ≤ cappedPower initial multiplier cap (exponentOf attempt) ↔
      StaysUp initial multiplier cap (2 ^ 32 + 1 - attempt.toNat) := by
  have hbound := attempt.toNat_lt
  have hsteps : 2 ^ 32 + 1 - attempt.toNat ≠ 0 := by
    omega
  rw [exponent_of_gt h]
  exact cappedPower_neg_iff hmultiplier hsteps

end

/-- The delays of two attempts grow from the initial delay up to the cap exactly when both come
before the exponent turns negative, or when no delay of the policy is smaller at the first one
that does not. -/
theorem backoff_grows_iff {policy : RetryPolicy} {multiplier : ℚ≥0}
    (hpolicy : policy.backoffMultiplier = .finite false multiplier) (hmultiplier : 1 ≤ multiplier)
    {first later : UInt32} (h : first ≤ later) :
    GrowsAndCaps policy first later ↔
      later.toNat ≤ 2 ^ 31 ∨ multiplier = 1 ∨ policy.initialBackoff.seconds = 0 ∨
        policy.maxBackoff.seconds *
          multiplier ^ (2 ^ 32 + 1 - (wrappedAttempt first later).toNat) ≤
            policy.initialBackoff.seconds := by
  have hle : first.toNat ≤ later.toNat := h
  rw [grows_and_caps_iff hpolicy hmultiplier]
  generalize policy.initialBackoff.seconds = initial
  generalize policy.maxBackoff.seconds = cap
  by_cases hlater : later.toNat ≤ 2 ^ 31
  -- Both exponents are those that the attempts have.
  · have hfirst : first.toNat ≤ 2 ^ 31 := hle.trans hlater
    refine iff_of_true ⟨?_, le_delay_of_le initial cap hmultiplier hfirst⟩ (.inl hlater)
    refine cappedPower_mono initial cap hmultiplier ?_
    rw [exponent_of_le hfirst, exponent_of_le hlater]
    omega
  · have hlater' : 2 ^ 31 < later.toNat := not_le.mp hlater
    rw [or_iff_right hlater]
    by_cases hfirst : 2 ^ 31 < first.toNat
    -- Both exponents are negative and grow, so all depends on the first delay.
    · rw [wrappedAttempt, if_pos hfirst]
      refine Iff.trans (and_iff_right ?_) (le_delay_iff_of_gt hmultiplier hfirst)
      refine cappedPower_mono initial cap hmultiplier ?_
      rw [exponent_of_gt hfirst, exponent_of_gt hlater']
      omega
    -- Only the later exponent is negative, so all depends on the later delay.
    · have hstarts := le_delay_of_le initial cap hmultiplier (not_lt.mp hfirst)
      have hiff : min initial cap ≤ cappedPower initial multiplier cap (exponentOf later) ↔ _ :=
        le_delay_iff_of_gt hmultiplier hlater'
      rw [wrappedAttempt, if_neg hfirst]
      constructor
      · intro hgrows
        exact hiff.mp (hstarts.trans hgrows.1)
      · intro hstays
        refine ⟨?_, hstarts⟩
        rw [exponent_of_gt hlater']
        exact StaysUp.le hmultiplier hstays _

/-- The first and the third attempt of the default policy. -/
theorem backoff_grows_iff_default : GrowsAndCaps .default 1 3 :=
  have hpolicy : RetryPolicy.default.backoffMultiplier = .finite false 2 := rfl
  (backoff_grows_iff hpolicy (by decide +kernel) (by decide)).mpr (.inl (by decide))

/-- The delay of the default policy after `2^31` attempts is below that of the first one. -/
theorem backoff_shrinks : ¬ GrowsAndCaps .default 1 2147483649 := by
  intro hgrows
  have hinitial : RetryPolicy.default.initialBackoff.seconds = 1 / 5 := by decide +kernel
  have hcap : RetryPolicy.default.maxBackoff.seconds = 5 := by decide +kernel
  have hexponent : exponentOf 2147483649 = -(2147483648 : ℕ) := by decide +kernel
  obtain ⟨hpowers, hstarts⟩ :=
    (grows_and_caps_iff rfl (by decide +kernel) 1 2147483649).mp hgrows
  have hreached := hstarts.trans hpowers
  rw [hinitial, hcap, hexponent, cappedPower_neg_iff (by norm_num) (by decide)] at hreached
  rcases hreached with htwo | hfifth | hcapped
  · norm_num at htwo
  · norm_num at hfifth
  · have hgrown : (1 : ℚ≥0) ≤ 2 ^ 2147483648 := one_le_pow₀ (by norm_num)
    have habsurd : (5 : ℚ≥0) * 1 ≤ 1 / 5 := (mul_le_mul_right hgrown 5).trans hcapped
    exact absurd habsurd (by decide +kernel)

end Fiddlesticks.Provider

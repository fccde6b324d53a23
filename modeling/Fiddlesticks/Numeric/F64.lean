import Mathlib.Data.Int.Log
import Mathlib.Data.NNRat.Floor
import Mathlib.Algebra.Order.Field.Power

/-!
# Floating-point numbers

The numbers of the format `binary64`, each with its sign, the infinities and what is not a number.
The magnitude of a result is the exact one, represented as a `Rounding` says: `nearest` is the
rounding of the format, `exactly` reads an operation as exact rational arithmetic.
-/

namespace Numeric

/-! ## Rounding -/

/-- How an exact magnitude is represented. A magnitude that is too large has no representation. -/
abbrev Rounding := ℚ≥0 → Option ℚ≥0

/-- Every magnitude is represented exactly. -/
def exactly : Rounding := some

/-- The nearest integer, and the even one of two that are equally near. -/
def roundHalfEven (x : ℚ≥0) : ℕ :=
  let below := ⌊x⌋₊
  let rest := x - below
  if rest < 1 / 2 then below
  else if 1 / 2 < rest then below + 1
  else if below % 2 = 0 then below
  else below + 1

/-- The nearest magnitude of the format, the even one of two that are equally near. -/
def nearest : Rounding := fun x =>
  if x = 0 then some 0
  else
    let unit : ℚ≥0 := 2 ^ (max (Int.log 2 x) (-1022) - 52)
    let rounded := roundHalfEven (x / unit) * unit
    if rounded < 2 ^ 1024 then some rounded else none

/-! ## Numbers -/

/-- A finite number with its sign, an infinity, or not a number. -/
inductive F64 where
  | finite (negative : Bool) (magnitude : ℚ≥0)
  | infinite (negative : Bool)
  | nan
  deriving DecidableEq

namespace F64

/-- The number with a sign and a represented magnitude. -/
def signed (negative : Bool) : Option ℚ≥0 → F64
  | some magnitude => finite negative magnitude
  | none => infinite negative

/-- The product. -/
def mul (rounding : Rounding) : F64 → F64 → F64
  | finite negative x, finite negative' y => signed (negative != negative') (rounding (x * y))
  | finite negative x, infinite negative' | infinite negative', finite negative x =>
      if x = 0 then nan else infinite (negative != negative')
  | infinite negative, infinite negative' => infinite (negative != negative')
  | nan, _ | _, nan => nan

/-- The reciprocal. -/
def recip (rounding : Rounding) : F64 → F64
  | finite negative x => if x = 0 then infinite negative else signed negative (rounding x⁻¹)
  | infinite negative => finite negative 0
  | nan => nan

/-- The result so far and the square for the next binary digit of an exponent with at most `digits`
of them. -/
def powLoop (rounding : Rounding) : (digits exponent : ℕ) → (result square : F64) → F64
  | 0, _, result, _ => result
  | digits + 1, exponent, result, square =>
      let result := if exponent % 2 = 1 then result.mul rounding square else result
      if exponent / 2 = 0 then result
      else powLoop rounding digits (exponent / 2) result (square.mul rounding square)

/-- The power with an exponent of 32 bits, by repeated squaring. -/
def powi (rounding : Rounding) (base : F64) (exponent : ℤ) : F64 :=
  let power := powLoop rounding 32 exponent.natAbs (finite false 1) base
  if exponent < 0 then power.recip rounding else power

/-- The value of a finite number. -/
def value (negative : Bool) (magnitude : ℚ≥0) : ℚ :=
  if negative then -magnitude else magnitude

/-- The comparison `x <= y`. -/
def le : F64 → F64 → Bool
  | finite negative x, finite negative' y => value negative x ≤ value negative' y
  | nan, _ | _, nan => false
  | infinite negative, infinite negative' => negative || !negative'
  | infinite negative, finite _ _ => negative
  | finite _ _, infinite negative => !negative

/-- The smaller number, and the other one if one is not a number. -/
def min : F64 → F64 → F64
  | nan, y => y
  | x, nan => x
  | x, y => if x.le y then x else y

/-! ## Exact operations -/

/-- Without rounding finite numbers are multiplied as such. -/
@[simp] theorem mul_exactly (negative negative' : Bool) (x y : ℚ≥0) :
    (finite negative x).mul exactly (finite negative' y) = finite (negative != negative') (x * y) :=
  rfl

/-- A power is that of the last digit of the exponent times one of the square. -/
theorem pow_eq_digits (x : ℚ≥0) (exponent : ℕ) :
    x ^ exponent = x ^ (exponent % 2) * (x * x) ^ (exponent / 2) := by
  rw [← pow_two, ← pow_mul, ← pow_add, Nat.mod_add_div]

/-- Repeated squaring multiplies the result so far by the power. -/
theorem pow_loop_exactly {digits exponent : ℕ} (h : exponent < 2 ^ digits) (result square : ℚ≥0) :
    powLoop exactly digits exponent (finite false result) (finite false square) =
      finite false (result * square ^ exponent) := by
  induction digits generalizing exponent result square with
  | zero =>
      have hzero : exponent = 0 := Nat.lt_one_iff.mp h
      rw [powLoop, hzero, pow_zero, mul_one]
  | succ digits ih =>
      -- the result after the last digit of the exponent
      have hdigit : (if exponent % 2 = 1 then
            (finite false result).mul exactly (finite false square) else finite false result) =
          finite false (result * square ^ (exponent % 2)) := by
        rcases Nat.mod_two_eq_zero_or_one exponent with hmod | hmod
        · rw [hmod, if_neg Nat.zero_ne_one, pow_zero, mul_one]
        · rw [hmod, if_pos rfl, pow_one]
          rfl
      have hhalf : exponent / 2 < 2 ^ digits := by
        rw [pow_succ] at h
        omega
      have hpower := pow_eq_digits square exponent
      rw [powLoop, hdigit, hpower, ← mul_assoc]
      split
      · rename_i hlast
        rw [hlast, pow_zero, mul_one]
      · exact ih hhalf _ _

/-- An exact power of a positive number. -/
theorem powi_exactly {base : ℚ≥0} (hbase : base ≠ 0) {exponent : ℤ}
    (hexponent : exponent.natAbs < 2 ^ 32) :
    (finite false base).powi exactly exponent = finite false (base ^ exponent) := by
  rw [powi, pow_loop_exactly hexponent, one_mul]
  split
  · rename_i hneg
    have hinv : base ^ exponent = (base ^ exponent.natAbs)⁻¹ := by
      rw [← zpow_natCast, ← zpow_neg, Int.ofNat_natAbs_of_nonpos hneg.le, neg_neg]
    rw [hinv]
    exact if_neg (pow_ne_zero _ hbase)
  · rename_i hnonneg
    rw [← zpow_natCast, Int.natAbs_of_nonneg (not_lt.mp hnonneg)]

/-- Numbers that are not negative are compared as their magnitudes. -/
@[simp] theorem le_finite_iff (x y : ℚ≥0) :
    (finite false x).le (finite false y) = true ↔ x ≤ y := by
  rw [le, value, value, decide_eq_true_iff]
  exact NNRat.coe_le_coe

/-- The smaller of two numbers that are not negative. -/
theorem min_finite (x y : ℚ≥0) :
    (finite false x).min (finite false y) = finite false (Min.min x y) := by
  have hmin : (finite false x).min (finite false y) =
      if (finite false x).le (finite false y) then finite false x else finite false y := rfl
  rw [hmin, min_def]
  by_cases h : x ≤ y
  · rw [if_pos ((le_finite_iff x y).mpr h), if_pos h]
  · rw [if_neg (mt (le_finite_iff x y).mp h), if_neg h]

/-! ## Numbers without a sign -/

/-- The number is not below zero, and no negative zero. -/
def NonNegative : F64 → Prop
  | finite negative _ | infinite negative => negative = false
  | nan => True

/-- A number without a sign is not negative. -/
theorem nonNegative_signed (magnitude : Option ℚ≥0) : (signed false magnitude).NonNegative := by
  cases magnitude with
  | none => rfl
  | some magnitude => rfl

/-- Products stay without a sign. -/
theorem NonNegative.mul {x y : F64} (hx : x.NonNegative) (hy : y.NonNegative)
    (rounding : Rounding) : (x.mul rounding y).NonNegative := by
  have hzero (magnitude : ℚ≥0) : (if magnitude = 0 then nan else infinite false).NonNegative := by
    split
    · trivial
    · rfl
  cases x with
  | nan => cases y <;> trivial
  | finite negative magnitude =>
      obtain rfl : negative = false := hx
      cases y with
      | nan => trivial
      | finite negative' magnitude' =>
          obtain rfl : negative' = false := hy
          exact nonNegative_signed _
      | infinite negative' =>
          obtain rfl : negative' = false := hy
          exact hzero magnitude
  | infinite negative =>
      obtain rfl : negative = false := hx
      cases y with
      | nan => trivial
      | finite negative' magnitude' =>
          obtain rfl : negative' = false := hy
          exact hzero magnitude'
      | infinite negative' =>
          obtain rfl : negative' = false := hy
          rfl

/-- So do reciprocals. -/
theorem NonNegative.recip {x : F64} (hx : x.NonNegative) (rounding : Rounding) :
    (x.recip rounding).NonNegative := by
  cases x with
  | nan => trivial
  | infinite negative => exact hx
  | finite negative magnitude =>
      obtain rfl : negative = false := hx
      rw [F64.recip]
      split
      · rfl
      · exact nonNegative_signed _

/-- So do powers. -/
theorem NonNegative.powi {base : F64} (hbase : base.NonNegative) (rounding : Rounding)
    (exponent : ℤ) : (base.powi rounding exponent).NonNegative := by
  have hloop (digits exponent : ℕ) (result square : F64) (hresult : result.NonNegative)
      (hsquare : square.NonNegative) :
      (powLoop rounding digits exponent result square).NonNegative := by
    induction digits generalizing exponent result square with
    | zero => exact hresult
    | succ digits ih =>
        have hdigit : (if exponent % 2 = 1 then result.mul rounding square
            else result).NonNegative := by
          split
          · exact hresult.mul hsquare rounding
          · exact hresult
        rw [powLoop]
        split
        · exact hdigit
        · exact ih _ _ _ hdigit (hsquare.mul hsquare rounding)
  rw [F64.powi]
  split
  · exact (hloop _ _ (finite false 1) _ rfl hbase).recip rounding
  · exact hloop _ _ (finite false 1) _ rfl hbase

/-- A number without a sign is cut to one at the cap or below. -/
theorem NonNegative.min_finite {x : F64} (hx : x.NonNegative) (cap : ℚ≥0) :
    ∃ magnitude ≤ cap, x.min (finite false cap) = finite false magnitude := by
  cases x with
  | nan => exact ⟨cap, le_rfl, rfl⟩
  | infinite negative =>
      obtain rfl : negative = false := hx
      exact ⟨cap, le_rfl, rfl⟩
  | finite negative magnitude =>
      obtain rfl : negative = false := hx
      exact ⟨Min.min magnitude cap, min_le_right _ _, F64.min_finite _ _⟩

end F64

/-- The nearest integer is at most one half away. -/
theorem roundHalfEven_near (x : ℚ≥0) :
    (roundHalfEven x : ℚ) ≤ x + 1 / 2 ∧ (x : ℚ) - 1 / 2 ≤ roundHalfEven x := by
  have hbelow : (⌊x⌋₊ : ℚ≥0) ≤ x := Nat.floor_le zero_le
  have habove : x < ⌊x⌋₊ + 1 := Nat.lt_floor_add_one x
  have hrest : ((x - ⌊x⌋₊ : ℚ≥0) : ℚ) = x - ⌊x⌋₊ := by
    rw [NNRat.coe_sub hbelow, NNRat.cast_natCast]
  have hbelow' : (⌊x⌋₊ : ℚ) ≤ x := by exact_mod_cast hbelow
  have habove' : (x : ℚ) < ⌊x⌋₊ + 1 := by exact_mod_cast habove
  have hhalf : ((1 / 2 : ℚ≥0) : ℚ) = 1 / 2 := by norm_num
  rw [roundHalfEven]
  split
  · rename_i hless
    rw [← NNRat.coe_lt_coe, hrest, hhalf] at hless
    constructor <;> linarith
  · rename_i hless
    rw [not_lt, ← NNRat.coe_le_coe, hrest, hhalf] at hless
    split
    · rename_i hmore
      rw [← NNRat.coe_lt_coe, hrest, hhalf] at hmore
      push_cast
      constructor <;> linarith
    · rename_i hmore
      rw [not_lt, ← NNRat.coe_le_coe, hrest, hhalf] at hmore
      split
      · constructor <;> linarith
      · push_cast
        constructor <;> linarith

/-- A larger number has no smaller nearest integer. -/
theorem roundHalfEven_mono {x y : ℚ≥0} (h : x ≤ y) : roundHalfEven x ≤ roundHalfEven y := by
  rcases h.eq_or_lt with rfl | hlt
  · rfl
  by_contra hnot
  have hstep : roundHalfEven y + 1 ≤ roundHalfEven x := by omega
  have hstep' : (roundHalfEven y : ℚ) + 1 ≤ roundHalfEven x := by exact_mod_cast hstep
  have hlt' : (x : ℚ) < y := by exact_mod_cast hlt
  have hx := (roundHalfEven_near x).1
  have hy := (roundHalfEven_near y).2
  linarith

end Numeric

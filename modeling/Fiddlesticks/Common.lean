import Mathlib.Data.List.DropRight
import Mathlib.Tactic

/-!
# Shared values

The `fcommon` crate: session identifiers, metadata maps and generation options, with the string
trimming of the standard library that validation relies on.
-/

namespace Fiddlesticks

/-! ## Lists -/

/-- An item of a list with one more item at its end is that one or one of the others. -/
theorem snoc_eq_append_cons {α : Type} {list before after : List α} {last item : α} :
    list ++ [last] = before ++ item :: after ↔
      (after = [] ∧ last = item ∧ list = before) ∨
      ∃ init, after = init ++ [last] ∧ list = before ++ item :: init := by
  constructor
  · intro h
    rcases after.eq_nil_or_concat with rfl | ⟨init, final, rfl⟩
    · obtain ⟨hlist, hlast⟩ := List.append_inj' h rfl
      exact .inl ⟨rfl, by simpa using hlast, hlist⟩
    · rw [List.concat_eq_append, ← List.cons_append, ← List.append_assoc] at h
      obtain ⟨hlist, hlast⟩ := List.append_inj' h rfl
      obtain rfl : last = final := by simpa using hlast
      exact .inr ⟨init, List.concat_eq_append, hlist⟩
  · rintro (⟨rfl, rfl, rfl⟩ | ⟨init, rfl, rfl⟩) <;> simp

/-! ## Strings -/

/-- `char::is_whitespace`: the characters of the Unicode `White_Space` property. -/
def isWhitespace (c : Char) : Bool :=
  let code := c.toNat
  (0x09 ≤ code && code ≤ 0x0D) || code == 0x20 || code == 0x85 || code == 0xA0 ||
    code == 0x1680 || (0x2000 ≤ code && code ≤ 0x200A) || code == 0x2028 || code == 0x2029 ||
    code == 0x202F || code == 0x205F || code == 0x3000

/-- `str::trim` on a list of characters. -/
def trimChars (text : List Char) : List Char :=
  (text.dropWhile isWhitespace).rdropWhile isWhitespace

/-- `str::trim`. -/
def trim (text : String) : String :=
  String.ofList (trimChars text.toList)

/-! ## Times -/

/-- `SystemTime`: whole seconds relative to the Unix epoch and the nanoseconds after them. -/
structure SystemTime where
  secs : Int64
  nanos : Fin 1000000000
  deriving DecidableEq, Repr

/-- `0` is a number of nanoseconds. -/
instance neZero_nanosPerSecond : NeZero 1000000000 := ⟨by decide⟩

/-- The time is not before the Unix epoch. -/
def SystemTime.AfterEpoch (time : SystemTime) : Prop :=
  0 ≤ time.secs

instance (time : SystemTime) : Decidable time.AfterEpoch :=
  inferInstanceAs (Decidable (0 ≤ time.secs))

/-- The nanoseconds from the Unix epoch. -/
def SystemTime.total (time : SystemTime) : Int :=
  time.secs.toInt * 1000000000 + time.nanos

instance : LE SystemTime := ⟨fun first second => first.total ≤ second.total⟩

instance (first second : SystemTime) : Decidable (first ≤ second) :=
  inferInstanceAs (Decidable (first.total ≤ second.total))

/-- Times are ordered transitively. -/
theorem SystemTime.le_trans {first second third : SystemTime} (h : first ≤ second)
    (h' : second ≤ third) : first ≤ third :=
  Int.le_trans (show first.total ≤ second.total from h) h'

/-- `SystemTime::checked_add`, for a duration in nanoseconds. -/
def SystemTime.checkedAdd (time : SystemTime) (nanos : Nat) : Option SystemTime :=
  let total := time.total + nanos
  if total / 1000000000 < 2 ^ 63 then
    some ⟨Int64.ofInt (total / 1000000000), ⟨(total % 1000000000).toNat, by omega⟩⟩
  else none

/-! ## Identifiers, metadata and options -/

/-- `SessionId`, a newtype over a string. -/
structure SessionId where
  value : String
  deriving DecidableEq, Repr

/-- `MetadataMap`, a finite map from strings to strings. Two maps with the same entries are
equal. -/
abbrev MetadataMap := Std.ExtTreeMap String String

/-- An `f32`, given by its IEEE 754 encoding. -/
structure F32 where
  bits : UInt32
  deriving DecidableEq, Repr

/-- `(0.0..=2.0).contains`: the encodings of `0.0` up to `2.0`, and that of `-0.0`. NaN and every
other negative number lie above. -/
def F32.inZeroTwo (value : F32) : Bool :=
  value.bits ≤ 0x40000000 || value.bits == 0x80000000

/-- `f32::is_finite`: the exponent is not the largest one. -/
def F32.isFinite (value : F32) : Bool :=
  value.bits &&& 0x7F800000 != 0x7F800000

/-- `GenerationOptions`. -/
structure GenerationOptions where
  temperature : Option F32 := none
  maxTokens : Option UInt32 := none
  stream : Bool := false
  deriving DecidableEq, Repr

end Fiddlesticks

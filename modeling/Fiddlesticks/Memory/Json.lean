import Fiddlesticks.Memory.Codec

/-!
# The JSON of string lists

The compact JSON that `serde_json::to_string` writes for a list of strings, and a reader for it.
What is written is read back.
-/

namespace Fiddlesticks.Memory.Json

/-! ## Characters -/

/-- A hexadecimal digit. -/
def hexDigit (n : Nat) : Char :=
  Char.ofNat (if n < 10 then 48 + n else 87 + n)

/-- The value of a hexadecimal digit. -/
def hexValue (c : Char) : Option Nat :=
  if 48 ≤ c.toNat ∧ c.toNat ≤ 57 then some (c.toNat - 48)
  else if 97 ≤ c.toNat ∧ c.toNat ≤ 102 then some (c.toNat - 87)
  else none

/-- Reading a hexadecimal digit inverts writing it. -/
theorem hexValue_hexDigit : ∀ n < 16, hexValue (hexDigit n) = some n := by
  decide

/-- The letter that stands for a character after a backslash, if there is one. -/
def shortEscape (c : Char) : Option Char :=
  match c.toNat with
  | 0x22 => some '"'
  | 0x5C => some '\\'
  | 0x08 => some 'b'
  | 0x09 => some 't'
  | 0x0A => some 'n'
  | 0x0C => some 'f'
  | 0x0D => some 'r'
  | _ => none

/-- A character inside a string. -/
def writeChar (c : Char) : List Char :=
  match shortEscape c with
  | some letter => ['\\', letter]
  | none =>
      if c.toNat < 0x20 then
        ['\\', 'u', '0', '0', hexDigit (c.toNat / 16), hexDigit (c.toNat % 16)]
      else [c]

/-- The character that a letter after a backslash stands for. -/
def readEscape : Char → Option Char
  | '"' => some '"'
  | '\\' => some '\\'
  | 'b' => some (Char.ofNat 0x08)
  | 't' => some '\t'
  | 'n' => some '\n'
  | 'f' => some (Char.ofNat 0x0C)
  | 'r' => some '\r'
  | _ => none

/-- Reading a short escape inverts writing it. -/
theorem readEscape_shortEscape {c letter : Char} (h : shortEscape c = some letter) :
    readEscape letter = some c ∧ letter ≠ 'u' := by
  unfold shortEscape at h
  have hofNat : Char.ofNat c.toNat = c := Char.ofNat_toNat c
  split at h <;> first
    | (rename_i hcode; rw [hcode] at hofNat; cases h; subst hofNat; decide)
    | cases h

/-! ## Strings -/

/-- Read the characters of a string up to the closing quote. -/
def readChars : List Char → Option (List Char × List Char)
  | [] => none
  | '"' :: rest => some ([], rest)
  | '\\' :: 'u' :: '0' :: '0' :: high :: low :: rest => do
      let high ← hexValue high
      let low ← hexValue low
      let (chars, rest) ← readChars rest
      return (Char.ofNat (high * 16 + low) :: chars, rest)
  | '\\' :: letter :: rest => do
      let c ← readEscape letter
      let (chars, rest) ← readChars rest
      return (c :: chars, rest)
  | c :: rest => do
      let (chars, rest) ← readChars rest
      return (c :: chars, rest)

/-- A written character is read back. -/
theorem readChars_writeChar (c : Char) (rest : List Char) :
    readChars (writeChar c ++ rest) =
      (readChars rest).map fun (chars, rest) => (c :: chars, rest) := by
  rw [writeChar]
  cases hshort : shortEscape c with
  | some letter =>
      obtain ⟨hletter, hu⟩ := readEscape_shortEscape hshort
      have hread : readChars ('\\' :: letter :: rest) = (do
          let c ← readEscape letter
          let (chars, rest) ← readChars rest
          return (c :: chars, rest)) := by
        rw [readChars]
        rintro _ _ _ rfl
        exact absurd rfl hu
      show readChars ('\\' :: letter :: rest) = _
      rw [hread, hletter]
      cases readChars rest <;> rfl
  | none =>
      -- A control character is written as its four hexadecimal digits, any other one as itself.
      by_cases hcontrol : c.toNat < 0x20
      · rw [if_pos hcontrol]
        show readChars ('\\' :: 'u' :: '0' :: '0' :: hexDigit (c.toNat / 16) ::
          hexDigit (c.toNat % 16) :: rest) = _
        rw [readChars, hexValue_hexDigit _ (by omega), hexValue_hexDigit _ (by omega)]
        have hcode : c.toNat / 16 * 16 + c.toNat % 16 = c.toNat := by omega
        cases readChars rest <;> simp [hcode, Char.ofNat_toNat]
      · rw [if_neg hcontrol]
        have hquote : c ≠ '"' := by
          rintro rfl
          cases hshort
        have hbackslash : c ≠ '\\' := by
          rintro rfl
          cases hshort
        show readChars (c :: rest) = _
        rw [readChars]
        · cases readChars rest <;> rfl
        · exact hquote
        · intro _ _ _ h _
          exact hbackslash h
        · intro _ _ h _
          exact hbackslash h

/-- A string. -/
def writeString (text : String) : List Char :=
  '"' :: (text.toList.flatMap writeChar ++ ['"'])

/-- Read a string. -/
def readString : List Char → Option (String × List Char)
  | '"' :: rest => (readChars rest).map fun (chars, rest) => (String.ofList chars, rest)
  | _ => none

/-- Reading a string inverts writing it. -/
theorem readString_writeString (text : String) (rest : List Char) :
    readString (writeString text ++ rest) = some (text, rest) := by
  have hchars : ∀ chars : List Char, readChars (chars.flatMap writeChar ++ '"' :: rest) =
      some (chars, rest) := by
    intro chars
    induction chars with
    | nil => rfl
    | cons c chars ih =>
        rw [List.flatMap_cons, List.append_assoc, readChars_writeChar, ih]
        rfl
  show (readChars (text.toList.flatMap writeChar ++ ['"'] ++ rest)).map _ = _
  rw [List.append_assoc]
  show (readChars (text.toList.flatMap writeChar ++ '"' :: rest)).map _ = _
  rw [hchars]
  simp

/-! ## Lists of strings -/

/-- The strings after the first one. -/
def writeRest : List String → List Char
  | [] => [']']
  | text :: texts => ',' :: (writeString text ++ writeRest texts)

/-- A list of strings. -/
def writeList : List String → List Char
  | [] => ['[', ']']
  | text :: texts => '[' :: (writeString text ++ writeRest texts)

/-- Read the strings after the first one, at most as many as there are characters. -/
def readRest : Nat → List Char → Option (List String)
  | _, [']'] => some []
  | fuel + 1, ',' :: rest => do
      let (text, rest) ← readString rest
      let texts ← readRest fuel rest
      return text :: texts
  | _, _ => none

/-- Read a list of strings. -/
def readList : List Char → Option (List String)
  | ['[', ']'] => some []
  | '[' :: rest => do
      let (text, rest) ← readString rest
      let texts ← readRest rest.length rest
      return text :: texts
  | _ => none

/-- Reading the rest of a list inverts writing it. -/
theorem readRest_writeRest (texts : List String) {fuel : Nat} (hfuel : texts.length ≤ fuel) :
    readRest fuel (writeRest texts) = some texts := by
  induction texts generalizing fuel with
  | nil => cases fuel <;> rfl
  | cons text texts ih =>
      obtain ⟨fuel, rfl⟩ : ∃ fuel', fuel = fuel' + 1 := ⟨fuel - 1, by simp at hfuel; omega⟩
      show (readString (writeString text ++ writeRest texts)).bind _ = _
      rw [readString_writeString]
      show (readRest fuel (writeRest texts)).bind _ = _
      rw [ih (Nat.le_of_succ_le_succ hfuel)]
      rfl

/-- Every string of a list takes at least a character. -/
theorem length_writeRest (texts : List String) : texts.length ≤ (writeRest texts).length := by
  induction texts with
  | nil => simp
  | cons text texts ih =>
      simp only [writeRest, List.length_cons, List.length_append]
      omega

/-- A list that is written is read back. -/
theorem readList_writeList (texts : List String) : readList (writeList texts) = some texts := by
  cases texts with
  | nil => rfl
  | cons text texts =>
      show (readString (writeString text ++ writeRest texts)).bind _ = _
      rw [readString_writeString]
      show (readRest (writeRest texts).length (writeRest texts)).bind _ = _
      rw [readRest_writeRest texts (length_writeRest texts)]
      rfl

end Fiddlesticks.Memory.Json

namespace Fiddlesticks.Memory

/-- The compact JSON of string lists. -/
def StringListJson.compact : StringListJson where
  toString texts := String.ofList (Json.writeList texts)
  fromStr text := match Json.readList text.toList with
    | some texts => .ok texts
    | none => .error "expected a list of strings"
  fromStr_toString texts := by
    simp [Json.readList_writeList]

end Fiddlesticks.Memory

import Fiddlesticks.Common

/-!
# Session files

The paths that the filesystem backend derives from a session id: the session file, named by the
hexadecimal digits of the id, and the temporary file it is written to first.
-/

namespace Fiddlesticks.Memory.Filesystem

/-! ## Hexadecimal digits -/

/-- `nibble_to_hex`. -/
def nibbleToHex (nibble : UInt8) : Char :=
  if nibble.toNat ≤ 9 then Char.ofNat ('0'.toNat + nibble.toNat)
  else if nibble.toNat ≤ 15 then Char.ofNat ('a'.toNat + (nibble.toNat - 10))
  else '0'

/-- The two digits of a byte. -/
def hexByte (byte : UInt8) : List Char :=
  [nibbleToHex (byte >>> 4), nibbleToHex (byte &&& 0x0f)]

/-- `hex_encode`. -/
def hexEncode (input : List UInt8) : String :=
  String.ofList (input.flatMap hexByte)

/-- The value of a digit. -/
def hexValue (digit : Char) : Nat :=
  if digit.toNat ≤ 57 then digit.toNat - 48 else digit.toNat - 87

/-- Reading a hexadecimal digit inverts writing it. -/
theorem hexValue_nibbleToHex {nibble : UInt8} (h : nibble.toNat < 16) :
    hexValue (nibbleToHex nibble) = nibble.toNat := by
  have hall : ∀ n < 16, hexValue (if n ≤ 9 then Char.ofNat ('0'.toNat + n)
      else if n ≤ 15 then Char.ofNat ('a'.toNat + (n - 10)) else '0') = n := by decide
  exact hall nibble.toNat h

/-- A byte is its high half times sixteen plus its low half. -/
theorem halves_of_byte (byte : UInt8) :
    16 * (byte >>> 4).toNat + (byte &&& 0x0f).toNat = byte.toNat := by
  have hhigh : (byte >>> 4).toNat = byte.toNat / 16 := by
    simpa using Nat.shiftRight_eq_div_pow byte.toNat 4
  have hlow : (byte &&& 0x0f).toNat = byte.toNat % 16 := by
    simpa using Nat.and_two_pow_sub_one_eq_mod byte.toNat 4
  omega

/-- The digits of a byte determine it. -/
theorem hexByte_injective : Function.Injective hexByte := by
  intro first second h
  obtain ⟨hhigh, hlow⟩ : nibbleToHex (first >>> 4) = nibbleToHex (second >>> 4) ∧
      nibbleToHex (first &&& 0x0f) = nibbleToHex (second &&& 0x0f) := by
    simpa [hexByte] using h
  have hfirst := halves_of_byte first
  have hsecond := halves_of_byte second
  have hbound := first.toNat_lt
  have hbound' := second.toNat_lt
  have hlow_lt (byte : UInt8) : (byte &&& 0x0f).toNat < 16 := by
    have hmod : (byte &&& 0x0f).toNat = byte.toNat % 16 := by
      simpa using Nat.and_two_pow_sub_one_eq_mod byte.toNat 4
    omega
  have hvalue := congrArg hexValue hhigh
  have hvalue' := congrArg hexValue hlow
  rw [hexValue_nibbleToHex (by omega), hexValue_nibbleToHex (by omega)] at hvalue
  rw [hexValue_nibbleToHex (hlow_lt first), hexValue_nibbleToHex (hlow_lt second)] at hvalue'
  exact UInt8.toNat_inj.mp (by omega)

/-- The digits of bytes determine them. -/
theorem hexEncode_injective : Function.Injective hexEncode := by
  intro first second h
  have hdigits : first.flatMap hexByte = second.flatMap hexByte := String.ofList_injective h
  clear h
  induction first generalizing second with
  | nil =>
      cases second with
      | nil => rfl
      | cons byte second => simp [hexByte] at hdigits
  | cons byte first ih =>
      cases second with
      | nil => simp [hexByte] at hdigits
      | cons byte' second =>
          rw [List.flatMap_cons, List.flatMap_cons] at hdigits
          obtain ⟨hbyte, hrest⟩ := List.append_inj hdigits rfl
          rw [hexByte_injective hbyte, ih hrest]

/-! ## Paths -/

/-- A path, by its components. -/
abbrev Path := List String

/-- `Path::file_stem` of a last component: the name up to its last dot, unless the name has no
other dot than one at its start. -/
def fileStem (name : String) : String :=
  match name.toList.reverse.span (· ≠ '.') with
  | (_, []) => name
  | (_, [_]) => name
  | (_, _ :: before) => String.ofList before.reverse

/-- `Path::with_extension`. -/
def withExtension (path : Path) (extension : String) : Path :=
  match path.getLast? with
  | none => path
  | some name => path.dropLast ++ [fileStem name ++ "." ++ extension]

/-- The file name of a session. -/
def sessionName (sessionId : SessionId) : String :=
  hexEncode sessionId.value.toUTF8.data.toList ++ ".json"

/-- `FilesystemMemoryBackend::session_path`. -/
def sessionPath (root : Path) (sessionId : SessionId) : Path :=
  root ++ ["sessions"] ++ [sessionName sessionId]

/-- The temporary path that `write_atomic` derives from a path. -/
def temporaryPath (path : Path) : Path :=
  withExtension path "json.tmp"

/-- Session ids have different session files. -/
theorem sessionName_injective : Function.Injective sessionName := by
  intro first second h
  have hbytes := hexEncode_injective ((String.append_left_inj ".json").mp h)
  have hvalue : first.value = second.value :=
    String.toByteArray_inj.mp (ByteArray.ext (Array.toList_inj.mp hbytes))
  cases first
  cases second
  exact congrArg SessionId.mk hvalue

/-- Different sessions have different files. -/
theorem sessionPath_injective (root : Path) : Function.Injective (sessionPath root) := by
  intro first second h
  exact sessionName_injective (List.cons.inj (List.append_cancel_left h)).1

/-- The name of the temporary file of a session. -/
theorem temporaryPath_sessionPath (root : Path) (sessionId : SessionId) :
    temporaryPath (sessionPath root sessionId) =
      root ++ ["sessions"] ++ [fileStem (sessionName sessionId) ++ ".json.tmp"] := by
  simp [temporaryPath, withExtension, sessionPath, String.append_assoc]

/-- A temporary file is not a session file. -/
theorem temporaryPath_ne_sessionPath (root : Path) (sessionId other : SessionId) :
    temporaryPath (sessionPath root sessionId) ≠ sessionPath root other := by
  rw [temporaryPath_sessionPath]
  intro h
  have hname := (List.cons.inj (List.append_cancel_left h)).1
  have hlast := congrArg (fun name : String => name.toList.getLast?) hname
  simp [sessionName] at hlast

end Fiddlesticks.Memory.Filesystem

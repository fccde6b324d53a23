import Mathlib.Tactic.Common

/-!
# UTF-8

Strict decoding of UTF-8 with the errors of `std::str::from_utf8`. A text that decodes can be cut
off its bytes: what follows it decodes on its own.
-/

namespace Utf8

/-- `Utf8Error`: the length of the valid text before the error, and the length of the invalid
sequence unless the input ends inside it. -/
structure Utf8Error where
  validUpTo : Nat
  errorLen : Option Nat
  deriving DecidableEq, Repr

/-- `Display for Utf8Error`. -/
def Utf8Error.toString (error : Utf8Error) : String :=
  match error.errorLen with
  | some length =>
      s!"invalid utf-8 sequence of {length} bytes from index {error.validUpTo}"
  | none => s!"incomplete utf-8 byte sequence from index {error.validUpTo}"

/-- The length of the sequence that a byte starts, or 0. -/
def width (first : UInt8) : Nat :=
  if first < 0x80 then 1
  else if 0xC2 ≤ first ∧ first ≤ 0xDF then 2
  else if 0xE0 ≤ first ∧ first ≤ 0xEF then 3
  else if 0xF0 ≤ first ∧ first ≤ 0xF4 then 4
  else 0

/-- The byte continues a sequence. -/
def continues (byte : UInt8) : Bool :=
  0x80 ≤ byte && byte ≤ 0xBF

/-- The byte may be the second one after a byte that starts three or four: no overlong encodings,
no surrogates and nothing above U+10FFFF. -/
def second (first byte : UInt8) : Bool :=
  continues byte &&
    (if first = 0xE0 then 0xA0 ≤ byte
    else if first = 0xED then byte ≤ 0x9F
    else if first = 0xF0 then 0x90 ≤ byte
    else if first = 0xF4 then byte ≤ 0x8F
    else true)

/-- The character of a sequence, from the bits of its first byte and of the following ones. -/
def character (lead : Nat) (rest : List UInt8) : Char :=
  Char.ofNat (rest.foldl (fun code byte => code * 64 + byte.toNat % 64) lead)

/-- `run_utf8_validation`, with the decoded characters. -/
def decodeFrom (index : Nat) : List UInt8 → Except Utf8Error (List Char)
  | [] => .ok []
  | first :: rest =>
      match width first with
      | 1 => (character first.toNat [] :: ·) <$> decodeFrom (index + 1) rest
      | 2 =>
          match rest with
          | [] => .error ⟨index, none⟩
          | b :: rest =>
              if continues b then
                (character (first.toNat % 32) [b] :: ·) <$> decodeFrom (index + 2) rest
              else .error ⟨index, some 1⟩
      | 3 =>
          match rest with
          | [] => .error ⟨index, none⟩
          | b :: rest =>
              if second first b then
                match rest with
                | [] => .error ⟨index, none⟩
                | c :: rest =>
                    if continues c then
                      (character (first.toNat % 16) [b, c] :: ·) <$> decodeFrom (index + 3) rest
                    else .error ⟨index, some 2⟩
              else .error ⟨index, some 1⟩
      | 4 =>
          match rest with
          | [] => .error ⟨index, none⟩
          | b :: rest =>
              if second first b then
                match rest with
                | [] => .error ⟨index, none⟩
                | c :: rest =>
                    if continues c then
                      match rest with
                      | [] => .error ⟨index, none⟩
                      | d :: rest =>
                          if continues d then
                            (character (first.toNat % 8) [b, c, d] :: ·) <$>
                              decodeFrom (index + 4) rest
                          else .error ⟨index, some 3⟩
                    else .error ⟨index, some 2⟩
              else .error ⟨index, some 1⟩
      | _ => .error ⟨index, some 1⟩

/-- `std::str::from_utf8`. -/
def decode (bytes : List UInt8) : Except Utf8Error (List Char) :=
  decodeFrom 0 bytes

example : decode [0x68, 0xC3, 0xA9, 0xE2, 0x82, 0xAC] = .ok ['h', 'é', '€'] := by decide

example : decode [0x68, 0xC3] = .error ⟨1, none⟩ := by decide

/-! ## Decoding in pieces -/

/-- A character goes before what follows it. -/
theorem map_cons_append {character : Char} {text : List Char}
    {head tail rest : Except Utf8Error (List Char)}
    (ih : ∀ {text}, head = .ok text → tail = (text ++ ·) <$> rest)
    (h : (character :: ·) <$> head = .ok text) :
    (character :: ·) <$> tail = (text ++ ·) <$> rest := by
  cases head with
  | error error => cases h
  | ok value =>
      cases h
      rw [ih rfl]
      cases rest <;> rfl

/-- What follows a text that decodes is decoded on its own. The index only appears in errors. -/
theorem decodeFrom_append {index : Nat} {first rest : List UInt8} {text : List Char}
    (h : decodeFrom index first = .ok text) (start : Nat) :
    decodeFrom start (first ++ rest) =
      (text ++ ·) <$> decodeFrom (start + first.length) rest := by
  fun_induction decodeFrom index first generalizing text start with
  | case1 =>
      cases h
      cases hrest : decodeFrom start rest <;> simp_all
  | case2 index first bytes hwidth ih =>
      rw [List.cons_append, decodeFrom.eq_def]
      simp only [hwidth]
      rw [show start + (first :: bytes).length = start + 1 + bytes.length by
        simp only [List.length_cons]; omega]
      exact map_cons_append (fun hbytes => ih hbytes (start + 1)) h
  | case4 index first hwidth b bytes hb ih =>
      rw [List.cons_append, decodeFrom.eq_def]
      simp only [hwidth, List.cons_append, hb, if_true]
      rw [show start + (first :: b :: bytes).length = start + 2 + bytes.length by
        simp only [List.length_cons]; omega]
      exact map_cons_append (fun hbytes => ih hbytes (start + 2)) h
  | case8 index first hwidth b hb c bytes hc ih =>
      rw [List.cons_append, decodeFrom.eq_def]
      simp only [hwidth, List.cons_append, hb, hc, if_true]
      rw [show start + (first :: b :: c :: bytes).length = start + 3 + bytes.length by
        simp only [List.length_cons]; omega]
      exact map_cons_append (fun hbytes => ih hbytes (start + 3)) h
  | case14 index first hwidth b hb c hc d bytes hd ih =>
      rw [List.cons_append, decodeFrom.eq_def]
      simp only [hwidth, List.cons_append, hb, hc, hd, if_true]
      rw [show start + (first :: b :: c :: d :: bytes).length = start + 4 + bytes.length by
        simp only [List.length_cons]; omega]
      exact map_cons_append (fun hbytes => ih hbytes (start + 4)) h
  | _ => cases h

/-- Where decoding begins only matters for the place of an error. -/
theorem decodeFrom_index {index : Nat} {bytes : List UInt8} {text : List Char}
    (h : decodeFrom index bytes = .ok text) (start : Nat) : decodeFrom start bytes = .ok text := by
  have happend : decodeFrom start (bytes ++ []) = _ := decodeFrom_append h start
  rw [List.append_nil, decodeFrom.eq_def _ []] at happend
  rw [happend]
  simp

/-- A text that decodes is followed by bytes that decode exactly when all of them do. -/
theorem decode_append {first rest : List UInt8} {text : List Char}
    (h : decode first = .ok text) (whole : List Char) :
    decode (first ++ rest) = .ok whole ↔ ∃ more, decode rest = .ok more ∧ whole = text ++ more := by
  rw [decode, decodeFrom_append h]
  constructor
  · intro hwhole
    cases hrest : decodeFrom (0 + first.length) rest with
    | error error => rw [hrest] at hwhole; cases hwhole
    | ok more =>
        rw [hrest] at hwhole
        cases hwhole
        exact ⟨more, decodeFrom_index hrest 0, rfl⟩
  · rintro ⟨more, hmore, rfl⟩
    rw [decodeFrom_index hmore]
    rfl

/-- Texts that are put together decode. -/
theorem decode_flatten {chunks : List (List UInt8)}
    (h : ∀ chunk ∈ chunks, ∃ text, decode chunk = .ok text) :
    ∃ text, decode chunks.flatten = .ok text := by
  induction chunks with
  | nil => exact ⟨[], rfl⟩
  | cons chunk chunks ih =>
      obtain ⟨⟨text, htext⟩, hchunks⟩ := List.forall_mem_cons.1 h
      obtain ⟨more, hmore⟩ := ih hchunks
      exact ⟨_, (decode_append htext _).2 ⟨more, hmore, rfl⟩⟩

end Utf8

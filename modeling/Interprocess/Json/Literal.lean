import Interprocess.Text.Utf8

/-!
# Literals of JSON

A number literal and a string literal as they stand in a JSON text, before anyone decides
what they mean.  Many literals have no meaning that a program can use, such as `-0` as an
integer or half of a surrogate pair as text; they are grammatical all the same, and a
reader that skips them must accept them.

**Results.**  `StringLiteral.text?_ofText`: the literal written for a text means that text.
`NumberLiteral.toInt?_ofInt`: the literal written for an integer means that integer.
-/

namespace Interprocess
namespace Json

/-- A number literal. -/
structure NumberLiteral where
  /-- Whether a minus sign stands before it. -/
  isNegative : Bool
  /-- The number that its digits before any point and exponent spell. -/
  whole : Nat
  /-- Whether it has neither a point nor an exponent. -/
  isWhole : Bool
deriving DecidableEq

namespace NumberLiteral

/-- The integer that a literal means.  With a point or an exponent it means none, and
neither does a zero with a minus sign. -/
def toInt? (n : NumberLiteral) : Option Int :=
  if n.isWhole then
    if n.isNegative then
      if n.whole = 0 then none else some (-(n.whole : Int))
    else some n.whole
  else none

/-- The literal written for an integer. -/
def ofInt (i : Int) : NumberLiteral :=
  { isNegative := decide (i < 0), whole := i.natAbs, isWhole := true }

theorem toInt?_ofInt (i : Int) : (ofInt i).toInt? = some i := by
  by_cases h : i < 0
  · have h0 : i ≠ 0 := by omega
    have : -(i.natAbs : Int) = i := by omega
    simp only [toInt?, ofInt, h, decide_true, if_true, Int.natAbs_eq_zero, if_neg h0, this]
  · have : (i.natAbs : Int) = i := by omega
    simp only [toInt?, ofInt, h, decide_false, if_true, Bool.false_eq_true, if_false, this]

end NumberLiteral

/-- A piece of a string literal. -/
inductive StringPart
  /-- A byte that stands for itself. -/
  | byte (b : UInt8)
  /-- A 16-bit code unit that is written as an escape. -/
  | codeUnit (u : UInt16)
deriving DecidableEq

/-- A string literal without its quotes. -/
abbrev StringLiteral := List StringPart

namespace StringLiteral

/-- Whether a code unit is the first half of a pair. -/
def isHighSurrogate (u : UInt16) : Bool := decide (0xD800 ≤ u) && decide (u < 0xDC00)

/-- Whether a code unit is the second half of a pair. -/
def isLowSurrogate (u : UInt16) : Bool := decide (0xDC00 ≤ u) && decide (u < 0xE000)

/-- The character that two halves spell. -/
def joinSurrogates (high low : UInt16) : Char :=
  Char.ofNat (0x10000 + (high.toNat - 0xD800) * 0x400 + (low.toNat - 0xDC00))

/-- The bytes read so far, last one first, and the half of a pair that waits for the other. -/
abbrev Progress := Bytes × Option UInt16

/-- Read one more piece. -/
def extend? : Progress → StringPart → Option Progress
  | (done, none), .byte b => some (b :: done, none)
  | (done, none), .codeUnit u =>
      if isHighSurrogate u then some (done, some u)
      else if isLowSurrogate u then none
      else some ((String.utf8EncodeChar (Char.ofNat u.toNat)).reverse ++ done, none)
  | (done, some high), .codeUnit u =>
      if isLowSurrogate u then
        some ((String.utf8EncodeChar (joinSurrogates high u)).reverse ++ done, none)
      else none
  | (_, some _), .byte _ => none

/-- The bytes that a literal spells, if the escaped halves of pairs come in pairs. -/
def bytes? (literal : StringLiteral) : Option Bytes :=
  match literal.foldlM extend? ([], none) with
  | some (done, none) => some done.reverse
  | _ => none

/-- The text that a literal spells, if there is one. -/
def text? (literal : StringLiteral) : Option String := literal.bytes?.bind Utf8.decode?

/-- Whether a byte has to be escaped: a quote, a backslash or a control character. -/
def needsEscape (b : UInt8) : Bool := decide (b < 0x20) || b == 0x22 || b == 0x5C

/-- The piece written for a byte of UTF-8. -/
def ofByte (b : UInt8) : StringPart :=
  if needsEscape b then .codeUnit b.toUInt16 else .byte b

/-- The literal written for a text. -/
def ofText (s : String) : StringLiteral := (Utf8.encode s).map ofByte

theorem toNat_lt_of_needsEscape {b : UInt8} (h : needsEscape b = true) : b.toNat < 0x80 := by
  simp only [needsEscape, Bool.or_eq_true, decide_eq_true_eq, beq_iff_eq] at h
  rcases h with (hcontrol | rfl) | rfl
  · exact Nat.lt_trans (UInt8.lt_iff_toNat_lt.1 hcontrol) (by decide)
  · decide
  · decide

/-- A code unit below the surrogates is no half of a pair. -/
theorem not_surrogate_of_lt {u : UInt16} (h : u.toNat < 0xD800) :
    isHighSurrogate u = false ∧ isLowSurrogate u = false := by
  have hhigh : ¬ (0xD800 : UInt16) ≤ u := fun hle =>
    Nat.not_le.2 h (UInt16.le_iff_toNat_le.1 hle)
  have hlow : ¬ (0xDC00 : UInt16) ≤ u := fun hle =>
    Nat.not_le.2 (Nat.lt_trans h (by decide)) (UInt16.le_iff_toNat_le.1 hle)
  simp [isHighSurrogate, isLowSurrogate, hhigh, hlow]

/-- A character of ASCII is one byte of UTF-8. -/
theorem utf8EncodeChar_of_ascii {b : UInt8} (h : b.toNat < 0x80) :
    String.utf8EncodeChar (Char.ofNat b.toNat) = [b] := by
  have hvalid : b.toNat.isValidChar := Or.inl (Nat.lt_trans h (by decide))
  have hval : (Char.ofNat b.toNat).val.toNat = b.toNat := by
    rw [Char.ofNat, dif_pos hvalid]
    rfl
  have hone : b.toNat ≤ 0x7F := Nat.le_of_lt_succ h
  simp only [String.utf8EncodeChar, hval, if_pos hone, UInt8.ofNat_toNat]

theorem extend?_ofByte (done : Bytes) (b : UInt8) :
    extend? (done, none) (ofByte b) = some (b :: done, none) := by
  unfold ofByte
  split
  · next hescape =>
      have hascii := toNat_lt_of_needsEscape hescape
      have hunit : b.toUInt16.toNat < 0xD800 := Nat.lt_trans hascii (by decide)
      obtain ⟨hhigh, hlow⟩ := not_surrogate_of_lt hunit
      simp only [extend?, hhigh, hlow, UInt8.toNat_toUInt16, utf8EncodeChar_of_ascii hascii]
      rfl
  · rfl

theorem foldlM_extend?_map_ofByte (bytes done : Bytes) :
    (bytes.map ofByte).foldlM extend? (done, none) = some (bytes.reverse ++ done, none) := by
  induction bytes generalizing done with
  | nil => rfl
  | cons b bytes ih =>
      simp only [List.map_cons, List.foldlM_cons, extend?_ofByte]
      simpa using ih (b :: done)

theorem bytes?_map_ofByte (bytes : Bytes) : bytes? (bytes.map ofByte) = some bytes := by
  simp [bytes?, foldlM_extend?_map_ofByte]

theorem text?_ofText (s : String) : (ofText s).text? = some s := by
  simp [text?, ofText, bytes?_map_ofByte, Utf8.decode?_encode]

end StringLiteral

end Json
end Interprocess

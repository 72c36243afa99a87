import Interprocess.Text.Utf8

/-!
# Numerals

How numbers are written in log lines and payloads: decimal, hexadecimal with lower-case
digits, and little-endian bytes.
-/

namespace Interprocess
namespace Text

/-- The decimal numeral of `n`, without leading zeros. -/
def decimal (n : Nat) : String := String.ofList (Nat.toDigits 10 n)

/-- The decimal numeral of an integer. -/
def signedDecimal (i : Int) : String := (if i < 0 then "-" else "") ++ decimal i.natAbs

/-- The hexadecimal numeral of `n`, in lower case and without leading zeros. -/
def hex (n : Nat) : String := String.ofList (Nat.toDigits 16 n)

/-- The hexadecimal numeral of `n`, filled with zeros to at least `places` digits. -/
def hexPadded (places n : Nat) : String :=
  let digits := Nat.toDigits 16 n
  String.ofList (List.replicate (places - digits.length) '0' ++ digits)

/-- Whether `c` is one of the ten decimal digits. -/
def isDecimalDigit (c : Char) : Bool := decide ('0' ≤ c) && decide (c ≤ '9')

/-- The number that a non-empty run of decimal digits spells.  Leading zeros are allowed. -/
def ofDecimal? (digits : List Char) : Option Nat :=
  if digits.isEmpty then none
  else if digits.all isDecimalDigit then some (Nat.ofDigitChars 10 digits 0)
  else none

end Text

/-- The `width` lowest bytes of `n`, lowest first. -/
def littleEndian : Nat → Nat → Bytes
  | 0, _ => []
  | width + 1, n => UInt8.ofNat n :: littleEndian width (n / 256)

@[simp] theorem length_littleEndian (width n : Nat) : (littleEndian width n).length = width := by
  induction width generalizing n with
  | zero => rfl
  | succ width ih => simp [littleEndian, ih]

end Interprocess

import Interprocess.Text.Numeral
import Mathlib.Algebra.Group.Nat.Defs

/-!
# Digits

Numerals are written with `Nat.toDigits`.  This module says which bytes and characters they
consist of, so that a reader of numerals can be followed digit by digit.

**Results.**
* `encode_decimal_step`: a decimal numeral grows at its end.
* `encode_hexPadded_four`: the four hexadecimal digits of a 16-bit number.
* `length_decimal_le`: how long a decimal numeral is at most.
* `ofDecimal?_decimal`: what is written for a number is read as that number.
-/

namespace Interprocess

theorem Utf8.encode_ofList (cs : List Char) :
    Utf8.encode (String.ofList cs) = cs.flatMap String.utf8EncodeChar := by
  rw [Utf8.encode, String.toByteArray_ofList]
  simp [List.utf8Encode]

namespace Text

/-- The byte of a decimal digit. -/
def digitByte (digit : Nat) : UInt8 := UInt8.ofNat (0x30 + digit)

/-- The byte of a hexadecimal digit in lower case. -/
def hexByte (digit : Nat) : UInt8 :=
  if digit < 10 then digitByte digit else UInt8.ofNat (0x57 + digit)

theorem utf8EncodeChar_digitChar {digit : Nat} (h : digit < 16) :
    String.utf8EncodeChar digit.digitChar = [hexByte digit] := by
  have hall : ∀ d : Fin 16, String.utf8EncodeChar (Nat.digitChar d) = [hexByte d] := by decide
  exact hall ⟨digit, h⟩

theorem hexByte_of_lt {digit : Nat} (h : digit < 10) : hexByte digit = digitByte digit :=
  if_pos h

/-- A number of more than one digit takes more than one place. -/
theorem places_pos {base places n : Nat} (hbase : 0 < base) (hlarge : base ≤ n)
    (h : n / base < base ^ places) :
    0 < places := by
  rcases Nat.eq_zero_or_pos places with rfl | hpos
  · have hfirst : 0 < n / base := Nat.div_pos hlarge hbase
    rw [Nat.pow_zero] at h
    omega
  · exact hpos

/-! ## Decimal numerals -/

theorem encode_decimal_digit {digit : Nat} (h : digit < 10) :
    Utf8.encode (decimal digit) = [digitByte digit] := by
  rw [decimal, Utf8.encode_ofList, Nat.toDigits_of_lt_base h, List.flatMap_singleton,
    utf8EncodeChar_digitChar (by omega), hexByte_of_lt h]

/-- The last digit of a numeral stands alone. -/
theorem encode_decimal_step {n : Nat} (h : 10 ≤ n) :
    Utf8.encode (decimal n) = Utf8.encode (decimal (n / 10)) ++ [digitByte (n % 10)] := by
  have hlast : n % 10 < 10 := Nat.mod_lt n (by decide)
  rw [decimal, decimal, Utf8.encode_ofList, Utf8.encode_ofList,
    Nat.toDigits_of_base_le (by decide) h, List.flatMap_append, List.flatMap_singleton,
    utf8EncodeChar_digitChar (by omega), hexByte_of_lt hlast]

/-- A numeral has no more digits than its number takes places. -/
theorem length_decimal_le {places n : Nat} (hplaces : 0 < places) (h : n < 10 ^ places) :
    (Utf8.encode (decimal n)).length ≤ places := by
  induction places generalizing n with
  | zero => exact absurd hplaces (Nat.lt_irrefl 0)
  | succ places ih =>
      rcases Nat.lt_or_ge n 10 with hdigit | hlarge
      · rw [encode_decimal_digit hdigit, List.length_singleton]
        exact hplaces
      · have hrest : n / 10 < 10 ^ places := by
          rw [Nat.pow_succ] at h
          omega
        have hmore : 0 < places := places_pos (by decide) hlarge hrest
        rw [encode_decimal_step hlarge, List.length_append, List.length_singleton]
        exact Nat.succ_le_succ (ih hmore hrest)

theorem ofDecimal?_decimal (n : Nat) : ofDecimal? (decimal n).toList = some n := by
  have hdigits : (Nat.toDigits 10 n).all isDecimalDigit = true := by
    refine List.all_eq_true.2 fun c hc => ?_
    have hdigit := Nat.isDigit_of_mem_toDigits (by decide) (by decide) hc
    simpa [isDecimalDigit, Char.isDigit, Char.le_def] using hdigit
  rw [decimal, String.toList_ofList, ofDecimal?, if_neg (by simp [Nat.toDigits_ne_nil]),
    if_pos hdigits, Nat.ofDigitChars_ten_toDigits]

/-! ## Hexadecimal numerals -/

/-- The last hexadecimal digits of a number, as many as there are `places`. -/
def hexDigits : Nat → Nat → List Char
  | 0, _ => []
  | places + 1, n => hexDigits places (n / 16) ++ [(n % 16).digitChar]

theorem hexDigits_zero (places : Nat) : hexDigits places 0 = List.replicate places '0' := by
  induction places with
  | zero => rfl
  | succ places ih =>
      rw [hexDigits, Nat.zero_div, ih, List.replicate_succ']
      rfl

/-- A number that fits into its places is written with all of its digits. -/
theorem padded_toDigits {places n : Nat} (hplaces : 0 < places) (h : n < 16 ^ places) :
    List.replicate (places - (Nat.toDigits 16 n).length) '0' ++ Nat.toDigits 16 n =
      hexDigits places n := by
  induction places generalizing n with
  | zero => exact absurd hplaces (Nat.lt_irrefl 0)
  | succ places ih =>
      rcases Nat.lt_or_ge n 16 with hsmall | hlarge
      · rw [Nat.toDigits_of_lt_base hsmall, hexDigits, Nat.div_eq_of_lt hsmall, hexDigits_zero,
          Nat.mod_eq_of_lt hsmall]
        rfl
      · have hrest : n / 16 < 16 ^ places := by
          rw [Nat.pow_succ] at h
          exact Nat.div_lt_of_lt_mul (by omega)
        have hmore : 0 < places := places_pos (by decide) hlarge hrest
        rw [Nat.toDigits_of_base_le (by decide) hlarge, hexDigits, ← ih hmore hrest,
          List.length_append, List.length_singleton, Nat.add_sub_add_right, List.append_assoc]

/-- The four hexadecimal digits of a 16-bit number. -/
theorem encode_hexPadded_four {n : Nat} (h : n < 0x10000) :
    Utf8.encode (hexPadded 4 n) =
      [hexByte (n / 0x1000), hexByte (n / 0x100 % 16), hexByte (n / 0x10 % 16),
        hexByte (n % 16)] := by
  have hfour : hexDigits 4 n = [(n / 0x1000).digitChar, (n / 0x100 % 16).digitChar,
      (n / 0x10 % 16).digitChar, (n % 16).digitChar] := by
    have hfirst : n / 0x1000 % 16 = n / 0x1000 := Nat.mod_eq_of_lt (by omega)
    simp only [hexDigits, List.nil_append, List.cons_append, Nat.div_div_eq_div_mul,
      Nat.reduceMul, hfirst]
  have hbyte : ∀ m : Nat, m < 16 → String.utf8EncodeChar m.digitChar = [hexByte m] :=
    fun m => utf8EncodeChar_digitChar
  rw [hexPadded, Utf8.encode_ofList, padded_toDigits (by decide) (by simpa using h), hfour]
  simp only [List.flatMap_cons, List.flatMap_nil]
  rw [hbyte _ (by omega), hbyte _ (by omega), hbyte _ (by omega), hbyte _ (by omega)]
  rfl

end Text

end Interprocess

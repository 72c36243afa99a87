import Interprocess.Json.Lexeme
import Interprocess.Proofs.Text.Digits
import Mathlib.Data.List.Chain

/-!
# Lexemes are read as they are written

**Plain lexemes.**  Not every lexeme can be written: a number is written without its fraction, and
a byte that needs an escape does not stand for itself in a string.  The others are *plain*.

**Separation.**  A number ends where a byte comes that cannot belong to it.  So two lexemes may
follow each other without a blank if the first is no number, or if the second one is a comma or
closes an array or an object.

**Results.**
* `foldlM_step?_decimal`: a decimal numeral is read digit by digit.
* `foldlM_step?_render`: each plain lexeme is read back.
* `scan?_render`: so is a list of them, if it is separated.
-/

namespace Interprocess
namespace Json

/-! ## Machines that read a list -/

section Folding

variable {α β : Type} {f : β → α → Option β} {b c : β} {a : α} {first rest : List α}

theorem foldlM_cons_of_step (h : f b a = some c) : (a :: rest).foldlM f b = rest.foldlM f c := by
  rw [List.foldlM_cons, h]
  rfl

theorem foldlM_append_of_run (h : first.foldlM f b = some c) :
    (first ++ rest).foldlM f b = rest.foldlM f c := by
  rw [List.foldlM_append, h]
  rfl

end Folding

/-! ## Plain lexemes -/

/-- Whether a piece of a string is read as it is written. -/
def StringPart.IsPlain : StringPart → Prop
  | .byte b => StringLiteral.needsEscape b = false
  | .codeUnit _ => True

namespace Lexeme

/-- Whether a lexeme is read as it is written. -/
def IsPlain : Lexeme → Prop
  | number literal => literal.isWhole = true
  | string literal => ∀ part ∈ literal, part.IsPlain
  | _ => True

/-- Whether a lexeme has no closing mark. -/
def isNumber : Lexeme → Bool
  | number _ => true
  | _ => false

/-- Whether a lexeme ends a number before it. -/
def isDelimiter : Lexeme → Bool
  | arrayClose | objectClose | comma => true
  | _ => false

/-- Whether every number in a list is followed by what ends it. -/
def Separated : List Lexeme → Prop :=
  List.IsChain fun first second => first.isNumber = true → second.isDelimiter = true

end Lexeme

namespace Scanner

variable {found : List Lexeme}

/-- Whether a scanner has found these lexemes, last one first, and may be told so by the end of
the input or by the byte of a delimiter. -/
structure Rests (s : Scanner) (found : List Lexeme) : Prop where
  finish : s.finish? = some found.reverse
  step : ∀ b, b = 0x5D ∨ b = 0x7D ∨ b = 0x2C → s.step? b = begin? found b

theorem rests_between (found : List Lexeme) : Rests ⟨.between, found⟩ found :=
  ⟨rfl, fun _ _ => rfl⟩

/-! ## Numbers -/

theorem isDigit_digitByte {digit : Nat} (h : digit < 10) :
    isDigit (Text.digitByte digit) = true ∧ (Text.digitByte digit).toNat - 0x30 = digit := by
  have hall : ∀ d : Fin 10, isDigit (Text.digitByte d) = true ∧
      (Text.digitByte d).toNat - 0x30 = d := by decide
  exact hall ⟨digit, h⟩

theorem digitByte_ne_zero {digit : Nat} (hpos : 0 < digit) (h : digit < 10) :
    Text.digitByte digit ≠ 0x30 ∧ Text.digitByte digit ≠ 0x2D := by
  have hall : ∀ d : Fin 10, 0 < d.val →
      Text.digitByte d ≠ 0x30 ∧ Text.digitByte d ≠ 0x2D := by decide
  exact hall ⟨digit, h⟩ hpos

/-- A number that is being read takes in one more digit. -/
theorem step?_digit (isNegative : Bool) (n : Nat) {digit : Nat} (h : digit < 10) :
    step? ⟨.number ⟨isNegative, n, .whole⟩, found⟩ (Text.digitByte digit) =
      some ⟨.number ⟨isNegative, 10 * n + digit, .whole⟩, found⟩ := by
  obtain ⟨hdigit, hvalue⟩ := isDigit_digitByte h
  have hnext : NumberPhase.whole.next? (Text.digitByte digit) = some .whole := by
    rw [NumberPhase.next?, if_pos hdigit]
  simp only [step?, NumberDraft.extend?, hnext, Option.map_some, NumberPhase.isInWhole, if_true,
    hvalue]

/-- **A numeral is read digit by digit**, once its first digit was understood. -/
theorem foldlM_step?_decimal {s : Scanner} {isNegative : Bool}
    (hfirst : ∀ digit, 0 < digit → digit < 10 →
      s.step? (Text.digitByte digit) = some ⟨.number ⟨isNegative, digit, .whole⟩, found⟩)
    {n : Nat} (hn : 0 < n) :
    (Utf8.encode (Text.decimal n)).foldlM step? s =
      some ⟨.number ⟨isNegative, n, .whole⟩, found⟩ := by
  induction n using Nat.strongRecOn with
  | ind n ih =>
      rcases Nat.lt_or_ge n 10 with hsmall | hlarge
      · rw [Text.encode_decimal_digit hsmall, foldlM_cons_of_step (hfirst n hn hsmall)]
        rfl
      · -- The numeral without its last digit is that of a smaller number.
        have hbefore := ih (n / 10) (Nat.div_lt_self hn (by decide))
          (Nat.div_pos hlarge (by decide))
        rw [Text.encode_decimal_step hlarge, foldlM_append_of_run hbefore,
          foldlM_cons_of_step (step?_digit isNegative (n / 10) (Nat.mod_lt n (by decide))),
          Nat.div_add_mod]
        rfl

/-- After its whole part a number is complete, and a delimiter ends it. -/
theorem rests_number (isNegative : Bool) (n : Nat) {phase : NumberPhase}
    (hphase : phase = .zero ∨ phase = .whole) :
    Rests ⟨.number ⟨isNegative, n, phase⟩, found⟩
      (.number { isNegative, whole := n, isWhole := true } :: found) := by
  constructor
  · rcases hphase with rfl | rfl <;> rfl
  · rintro b (rfl | rfl | rfl) <;> rcases hphase with rfl | rfl <;> rfl

theorem step?_first (found : List Lexeme) {digit : Nat} (hpos : 0 < digit) (h : digit < 10) :
    step? ⟨.between, found⟩ (Text.digitByte digit) =
      some ⟨.number ⟨false, digit, .whole⟩, found⟩ := by
  have hall : ∀ d : Fin 10, 0 < d.val →
      begin? found (Text.digitByte d) = some ⟨.number ⟨false, d, .whole⟩, found⟩ := by
    intro d hd
    match d, hd with
    | 1, _ | 2, _ | 3, _ | 4, _ | 5, _ | 6, _ | 7, _ | 8, _ | 9, _ => rfl
  exact hall ⟨digit, h⟩ hpos

theorem step?_afterMinus (found : List Lexeme) {digit : Nat} (hpos : 0 < digit)
    (h : digit < 10) :
    step? ⟨.number ⟨true, 0, .minus⟩, found⟩ (Text.digitByte digit) =
      some ⟨.number ⟨true, digit, .whole⟩, found⟩ := by
  obtain ⟨hdigit, hvalue⟩ := isDigit_digitByte h
  have hnext : NumberPhase.minus.next? (Text.digitByte digit) = some .whole := by
    rw [NumberPhase.next?, if_neg (digitByte_ne_zero hpos h).1, if_pos hdigit]
  simp only [step?, NumberDraft.extend?, hnext, Option.map_some, NumberPhase.isInWhole, if_true,
    hvalue, Nat.mul_zero, Nat.zero_add]

theorem foldlM_step?_number (literal : NumberLiteral) (hwhole : literal.isWhole = true)
    (found : List Lexeme) :
    ∃ s, (Lexeme.renderNumber literal).foldlM step? ⟨.between, found⟩ = some s ∧
      s.Rests (.number literal :: found) := by
  obtain ⟨isNegative, n, isWhole⟩ := literal
  obtain rfl : isWhole = true := hwhole
  have hread : ∀ phase, phase = .zero ∨ phase = .whole →
      (Lexeme.renderNumber ⟨isNegative, n, true⟩).foldlM step? ⟨.between, found⟩ =
        some ⟨.number ⟨isNegative, n, phase⟩, found⟩ →
      ∃ s, (Lexeme.renderNumber ⟨isNegative, n, true⟩).foldlM step? ⟨.between, found⟩ = some s ∧
        s.Rests (.number ⟨isNegative, n, true⟩ :: found) :=
    fun phase hphase heq => ⟨_, heq, rests_number isNegative n hphase⟩
  have hminus : step? ⟨.between, found⟩ 0x2D = some ⟨.number ⟨true, 0, .minus⟩, found⟩ := rfl
  rcases Nat.eq_zero_or_pos n with rfl | hpos
  · -- A zero is a numeral of its own, which no digit may follow.
    refine hread .zero (Or.inl rfl) ?_
    have hzero : Utf8.encode (Text.decimal 0) = [0x30] := Text.encode_decimal_digit (by decide)
    simp only [Lexeme.renderNumber, hzero]
    cases isNegative <;> rfl
  · refine hread .whole (Or.inr rfl) ?_
    cases isNegative with
    | false =>
        exact foldlM_step?_decimal (fun digit => step?_first found) hpos
    | true =>
        rw [Lexeme.renderNumber, if_pos rfl, List.singleton_append, foldlM_cons_of_step hminus]
        exact foldlM_step?_decimal (fun digit => step?_afterMinus found) hpos

/-! ## Strings -/

theorem hexDigit?_hexByte {digit : Nat} (h : digit < 16) :
    hexDigit? (Text.hexByte digit) = some digit := by
  have hall : ∀ d : Fin 16, hexDigit? (Text.hexByte d) = some d.val := by decide
  exact hall ⟨digit, h⟩

/-- The four digits of a code unit are read back. -/
theorem foldlM_step?_codeUnitDigits (parts : StringLiteral) (u : UInt16)
    (found : List Lexeme) :
    (Lexeme.codeUnitDigits u).foldlM step? ⟨.codeUnit parts 4 0, found⟩ =
      some ⟨.string (.codeUnit u :: parts), found⟩ := by
  have hu : u.toNat < 0x10000 := u.toNat_lt
  have hvalue : 16 * (16 * (16 * (16 * 0 + u.toNat / 0x1000) + u.toNat / 0x100 % 16) +
      u.toNat / 0x10 % 16) + u.toNat % 16 = u.toNat := by omega
  rw [Lexeme.codeUnitDigits, Text.encode_hexPadded_four hu]
  simp only [List.foldlM_cons, List.foldlM_nil, step?,
    hexDigit?_hexByte (show u.toNat / 0x1000 < 16 by omega),
    hexDigit?_hexByte (show u.toNat / 0x100 % 16 < 16 by omega),
    hexDigit?_hexByte (show u.toNat / 0x10 % 16 < 16 by omega),
    hexDigit?_hexByte (show u.toNat % 16 < 16 by omega), Option.map_some, Nat.reduceLeDiff,
    Nat.reduceSub, if_true, if_false, Option.bind_eq_bind, Option.bind_some, hvalue,
    UInt16.ofNat_toNat]
  rfl

/-- A piece of a string is read back. -/
theorem foldlM_step?_renderPart {part : StringPart} (h : part.IsPlain) (parts : StringLiteral)
    (found : List Lexeme) :
    (Lexeme.renderPart part).foldlM step? ⟨.string parts, found⟩ =
      some ⟨.string (part :: parts), found⟩ := by
  cases part with
  | byte b =>
      have hplain : b ≥ 0x20 ∧ b ≠ 0x22 ∧ b ≠ 0x5C := by
        simpa [StringPart.IsPlain, StringLiteral.needsEscape, and_assoc] using h
      obtain ⟨hlow, hquote, hslash⟩ := hplain
      simp [Lexeme.renderPart, step?, hquote, hslash, UInt8.not_lt.2 hlow]
  | codeUnit u =>
      have hdigits := foldlM_step?_codeUnitDigits parts u found
      simp only [Lexeme.renderPart, Lexeme.renderCodeUnit]
      -- The short escapes first; each of them is a code unit of its own.
      iterate 7 (split; · next hu => subst hu; rfl)
      exact hdigits

theorem foldlM_step?_parts {literal : StringLiteral} (h : ∀ part ∈ literal, part.IsPlain)
    (parts : StringLiteral) (found : List Lexeme) :
    (literal.flatMap Lexeme.renderPart).foldlM step? ⟨.string parts, found⟩ =
      some ⟨.string (literal.reverse ++ parts), found⟩ := by
  induction literal generalizing parts with
  | nil => rfl
  | cons part rest ih =>
      obtain ⟨hpart, hrest⟩ := List.forall_mem_cons.1 h
      rw [List.flatMap_cons, foldlM_append_of_run (foldlM_step?_renderPart hpart parts found),
        ih hrest, List.reverse_cons, List.append_assoc]
      rfl

/-! ## Lexemes -/

/-- **A plain lexeme is read back.**  Only a number is not complete before its end is seen. -/
theorem foldlM_step?_render {lexeme : Lexeme} (h : lexeme.IsPlain) (found : List Lexeme) :
    ∃ s, lexeme.render.foldlM step? ⟨.between, found⟩ = some s ∧ s.Rests (lexeme :: found) ∧
      (lexeme.isNumber = false → s = ⟨.between, lexeme :: found⟩) := by
  have hword : ∀ {l : Lexeme}, l.render.foldlM step? ⟨.between, found⟩ =
      some ⟨.between, l :: found⟩ →
      ∃ s, l.render.foldlM step? ⟨.between, found⟩ = some s ∧ s.Rests (l :: found) ∧
        (l.isNumber = false → s = ⟨.between, l :: found⟩) :=
    fun heq => ⟨_, heq, rests_between _, fun _ => rfl⟩
  have htext : ∀ text bytes, Utf8.encode text = bytes → bytes.foldlM step? ⟨.between, found⟩ =
      (Utf8.encode text).foldlM step? ⟨.between, found⟩ := fun _ _ heq => heq ▸ rfl
  cases lexeme with
  | number literal =>
      obtain ⟨s, hs, hrests⟩ := foldlM_step?_number literal h found
      exact ⟨s, hs, hrests, fun hnone => Bool.noConfusion hnone⟩
  | string literal =>
      refine hword ?_
      have hopen : step? ⟨.between, found⟩ 0x22 = some ⟨.string [], found⟩ := rfl
      have hclose : ∀ parts, step? ⟨.string parts, found⟩ 0x22 =
          some ⟨.between, .string parts.reverse :: found⟩ := fun _ => rfl
      rw [Lexeme.render, List.cons_append, foldlM_cons_of_step hopen,
        foldlM_append_of_run (foldlM_step?_parts h [] found), List.append_nil,
        foldlM_cons_of_step (hclose _), List.reverse_reverse]
      rfl
  | null => exact hword (htext "null" [0x6E, 0x75, 0x6C, 0x6C] (by decide +kernel) ▸ rfl)
  | boolean value =>
      refine hword ?_
      cases value with
      | true => exact htext "true" [0x74, 0x72, 0x75, 0x65] (by decide +kernel) ▸ rfl
      | false => exact htext "false" [0x66, 0x61, 0x6C, 0x73, 0x65] (by decide +kernel) ▸ rfl
  | arrayOpen | arrayClose | objectOpen | objectClose | comma | colon => exact hword rfl

/-- A delimiter may come wherever a lexeme may. -/
theorem Rests.delimiter {s : Scanner} (h : s.Rests found) {lexeme : Lexeme}
    (hdelimiter : lexeme.isDelimiter = true) :
    lexeme.render.foldlM step? s = lexeme.render.foldlM step? ⟨.between, found⟩ := by
  have hbyte : ∀ b, b = 0x5D ∨ b = 0x7D ∨ b = 0x2C →
      [b].foldlM step? s = [b].foldlM step? ⟨.between, found⟩ := by
    intro b hb
    rw [List.foldlM_cons, List.foldlM_cons, h.step b hb]
    rfl
  cases lexeme with
  | arrayClose => exact hbyte 0x5D (Or.inl rfl)
  | objectClose => exact hbyte 0x7D (Or.inr (Or.inl rfl))
  | comma => exact hbyte 0x2C (Or.inr (Or.inr rfl))
  | _ => cases hdelimiter

theorem foldlM_step?_flatMap {lexemes : List Lexeme} (hplain : ∀ l ∈ lexemes, l.IsPlain)
    (hseparated : Lexeme.Separated lexemes) {s : Scanner} (hs : s.Rests found)
    (hready : s = ⟨.between, found⟩ ∨ ∀ l ∈ lexemes.head?, l.isDelimiter = true) :
    ∃ t, (lexemes.flatMap Lexeme.render).foldlM step? s = some t ∧
      t.Rests (lexemes.reverse ++ found) := by
  induction lexemes generalizing s found with
  | nil => exact ⟨s, rfl, hs⟩
  | cons lexeme rest ih =>
      obtain ⟨hlexeme, hrest⟩ := List.forall_mem_cons.1 hplain
      obtain ⟨t, ht, hrests, hbetween⟩ := foldlM_step?_render hlexeme found
      have hread : lexeme.render.foldlM step? s = some t := by
        rcases hready with rfl | hdelimiter
        · exact ht
        · exact (hs.delimiter (hdelimiter lexeme rfl)).trans ht
      have hnext : t = ⟨.between, lexeme :: found⟩ ∨ ∀ l ∈ rest.head?, l.isDelimiter = true := by
        cases hnumber : lexeme.isNumber with
        | false => exact Or.inl (hbetween hnumber)
        | true => exact Or.inr fun l hl => (List.isChain_cons.1 hseparated).1 l hl hnumber
      obtain ⟨u, hu, hfound⟩ := ih hrest (List.isChain_cons.1 hseparated).2 hrests hnext
      refine ⟨u, ?_, ?_⟩
      · rw [List.flatMap_cons, foldlM_append_of_run hread]
        exact hu
      · simpa using hfound

end Scanner

/-- **Lexemes are read as they are written.** -/
theorem Lexeme.scan?_render {lexemes : List Lexeme} (hplain : ∀ l ∈ lexemes, l.IsPlain)
    (hseparated : Separated lexemes) :
    scan? (lexemes.flatMap render) = some lexemes := by
  obtain ⟨s, hs, hrests⟩ := Scanner.foldlM_step?_flatMap hplain hseparated
    (Scanner.rests_between []) (Or.inl rfl)
  have hfinish := hrests.finish
  rw [List.append_nil, List.reverse_reverse] at hfinish
  rw [scan?, Scanner.start, hs]
  exact hfinish

end Json
end Interprocess

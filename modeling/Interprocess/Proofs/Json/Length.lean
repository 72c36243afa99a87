import Interprocess.Json.Record
import Interprocess.Proofs.Json.Parsing
import Interprocess.Proofs.Text.Digits
import Mathlib.Algebra.GroupWithZero.Nat

/-!
# How long a record is as text

A byte of a text is written as itself, as two bytes, or as an escape of six bytes.  So the text of
a record is bounded by the sizes of its strings and the places of its numbers, whatever characters
the strings contain.

**Results.**
* `length_renderPart_le`: no piece of a string takes more than six bytes.
* `length_render_ofFields_le`: a record is bounded by the sum over its fields.
-/

namespace Interprocess

namespace Json

namespace Lexeme

/-- No piece of a string takes more than six bytes. -/
theorem length_renderPart_le (part : StringPart) : (renderPart part).length ≤ 6 := by
  cases part with
  | byte b => simp [renderPart]
  | codeUnit u =>
      have hdigits : (codeUnitDigits u).length = 4 := by
        rw [codeUnitDigits, Text.encode_hexPadded_four u.toNat_lt]
        rfl
      simp only [renderPart, renderCodeUnit]
      split_ifs <;> simp [hdigits]

theorem length_flatMap_renderPart_le (literal : StringLiteral) :
    (literal.flatMap renderPart).length ≤ 6 * literal.length := by
  induction literal with
  | nil => exact Nat.zero_le _
  | cons part rest ih =>
      have hpart := length_renderPart_le part
      rw [List.flatMap_cons, List.length_append, List.length_cons]
      omega

theorem length_render_text_le (s : String) :
    (render (.string (StringLiteral.ofText s))).length ≤ 6 * s.utf8ByteSize + 2 := by
  have hparts := length_flatMap_renderPart_le (StringLiteral.ofText s)
  rw [StringLiteral.ofText, List.length_map, Utf8.length_encode] at hparts
  simp only [render, StringLiteral.ofText, List.length_append, List.length_cons, List.length_nil]
  omega

end Lexeme

theorem length_render_ofText_le (s : String) :
    (render (ofText s)).length ≤ 6 * s.utf8ByteSize + 2 := by
  have hrender : render (ofText s) = Lexeme.render (.string (StringLiteral.ofText s)) :=
    List.flatMap_singleton ..
  rw [hrender]
  exact Lexeme.length_render_text_le s

theorem length_render_ofWord_le (w : UInt32) : (render (ofWord w)).length ≤ 10 := by
  have hplaces : w.toNat < 10 ^ 10 := Nat.lt_trans w.toNat_lt (by decide)
  have hrender : render (ofWord w) = Utf8.encode (Text.decimal w.toNat) := by
    simp [render, ofWord, ofNat, ofInt, lexemes, Lexeme.render, Lexeme.renderNumber,
      NumberLiteral.ofInt]
  rw [hrender]
  exact Text.length_decimal_le (by decide) hplaces

/-- How many bytes a field takes at most, with its name, a colon and a comma. -/
def fieldBound (field : String × Json) : Nat :=
  6 * field.1.utf8ByteSize + field.2.render.length + 4

theorem length_memberLexemes_le (fields : List (String × Json)) :
    ((memberLexemes (fields.map fun field => (StringLiteral.ofText field.1, field.2))).flatMap
      Lexeme.render).length ≤ (fields.map fieldBound).sum := by
  induction fields with
  | nil => exact Nat.zero_le _
  | cons field rest ih =>
      obtain ⟨name, value⟩ := field
      have hname := Lexeme.length_render_text_le name
      have hvalue : (value.lexemes.flatMap Lexeme.render).length = value.render.length := rfl
      rw [List.map_cons, List.map_cons, List.sum_cons, fieldBound]
      cases rest with
      | nil =>
          simp only [List.map_nil, memberLexemes, List.flatMap_cons, List.length_append,
            List.sum_nil, hvalue, Lexeme.render, List.length_cons, List.length_nil] at hname ⊢
          omega
      | cons other later =>
          rw [memberLexemes_cons _ _ (by simp)]
          simp only [List.flatMap_cons, List.flatMap_append, List.length_append, hvalue]
          simp only [Lexeme.render, List.length_append, List.length_cons, List.length_nil]
            at hname ⊢
          omega

/-- A record is bounded by the sum over its fields. -/
theorem length_render_ofFields_le (fields : List (String × Json)) :
    (render (ofFields fields)).length ≤ (fields.map fieldBound).sum + 2 := by
  have hmembers := length_memberLexemes_le fields
  simp only [render, ofFields, lexemes, List.flatMap_cons, List.flatMap_append, List.flatMap_nil,
    List.length_append, Lexeme.render, List.length_cons, List.length_nil]
  omega

end Json

end Interprocess

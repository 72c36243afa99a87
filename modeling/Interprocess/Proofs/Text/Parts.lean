import Interprocess.Text.Cut
import Interprocess.Text.Field
import Interprocess.Proofs.Text.Digits

/-!
# Parts of a text

A text is cut to its longest head that takes no more bytes than it may, and it is taken apart at
the first place where a separator stands.

**Results.**
* `isLongestHead_cut`: no head of the text that fits is longer than its cut.
* `splitAtFirst?_append`: a text is taken apart where it was put together, if what comes before the
  separator does not hold the first character of it.
* `append_of_splitAtFirst?`: the parts make up the text.
* `eq_of_append_mark`: the last mark of a text parts it in one way.
-/

namespace Interprocess
namespace Text

/-! ## Heads -/

/-- Whether `head` is the longest head of a text, character by character, that takes at most `max`
bytes. -/
def IsLongestHead (max : Nat) (text head : String) : Prop :=
  head.toList <+: text.toList ∧ head.utf8ByteSize ≤ max ∧
    ∀ other : String, other.toList <+: text.toList → other.utf8ByteSize ≤ max →
      other.toList <+: head.toList

theorem width_toList (s : String) : width s.toList = s.utf8ByteSize := by
  have hwidth : ∀ cs : List Char, width cs = (Utf8.encode (String.ofList cs)).length := by
    intro cs
    rw [Utf8.encode_ofList]
    induction cs with
    | nil => rfl
    | cons c rest ih =>
        rw [width, List.flatMap_cons, List.length_append, ih, String.length_utf8EncodeChar]
  rw [hwidth, String.ofList_toList, Utf8.length_encode]

theorem isHead_headWithin (budget : Nat) (cs : List Char) : headWithin budget cs <+: cs := by
  induction cs generalizing budget with
  | nil => exact List.prefix_rfl
  | cons c rest ih =>
      unfold headWithin
      split
      · exact (List.cons_prefix_cons).2 ⟨rfl, ih _⟩
      · exact List.nil_prefix

/-- A head that fits is a head of what is kept. -/
theorem prefix_headWithin {budget : Nat} {cs head : List Char} (h : head <+: cs)
    (hfits : width head ≤ budget) :
    head <+: headWithin budget cs := by
  induction cs generalizing budget head with
  | nil =>
      rw [List.prefix_nil.1 h]
      exact List.nil_prefix
  | cons c rest ih =>
      cases head with
      | nil => exact List.nil_prefix
      | cons d tail =>
          obtain ⟨rfl, htail⟩ := List.cons_prefix_cons.1 h
          rw [width] at hfits
          rw [headWithin, if_pos (by omega)]
          exact List.cons_prefix_cons.2 ⟨rfl, ih htail (by omega)⟩

/-- A text is cut to its longest head that fits. -/
theorem isLongestHead_cut (max : Nat) (text : String) : IsLongestHead max text (cut max text) := by
  rw [IsLongestHead, cut, String.toList_ofList]
  refine ⟨isHead_headWithin max _, ?_, fun other hother hfits => ?_⟩
  · rw [← width_toList, String.toList_ofList]
    exact width_headWithin_le max _
  · exact prefix_headWithin hother (Nat.le_trans (Nat.le_of_eq (width_toList other)) hfits)

/-! ## Fields -/

theorem splitFrom?_append {c : Char} {separator before : List Char} (h : c ∉ before)
    (passed after : List Char) :
    splitFrom? (c :: separator) passed (before ++ (c :: separator ++ after)) =
      some (passed.reverse ++ before, after) := by
  induction before generalizing passed with
  | nil =>
      rw [List.nil_append, List.append_nil, List.cons_append, splitFrom?, ← List.cons_append,
        afterHead?_append]
  | cons d rest ih =>
      have hne : c ≠ d := fun heq => h (heq ▸ List.mem_cons_self)
      have hrest : c ∉ rest := fun hmem => h (List.mem_cons_of_mem d hmem)
      rw [List.cons_append, splitFrom?, afterHead?, if_neg hne]
      simp only
      rw [ih hrest, List.reverse_cons, List.append_assoc]
      rfl

theorem splitAtFirst?_append {c : Char} {separator before : List Char} (h : c ∉ before)
    (after : List Char) :
    splitAtFirst? (c :: separator) (before ++ (c :: separator ++ after)) = some (before, after) :=
  splitFrom?_append h [] after

theorem append_of_splitFrom? {separator passed text before after : List Char}
    (h : splitFrom? separator passed text = some (before, after)) :
    passed.reverse ++ text = before ++ (separator ++ after) := by
  induction text generalizing passed with
  | nil =>
      rw [splitFrom?, Option.map_eq_some_iff] at h
      obtain ⟨rest, hrest, heq⟩ := h
      cases heq
      rw [append_of_afterHead? hrest]
  | cons c text ih =>
      rw [splitFrom?] at h
      split at h
      · next rest hrest =>
          cases h
          rw [append_of_afterHead? hrest]
      · rw [← ih h, List.reverse_cons, List.append_assoc]
        rfl

/-- The parts of a text make up the text. -/
theorem append_of_splitAtFirst? {separator text before after : List Char}
    (h : splitAtFirst? separator text = some (before, after)) :
    text = before ++ (separator ++ after) :=
  append_of_splitFrom? h

/-- A text is parted at its last mark in one way. -/
theorem eq_of_append_mark {c : Char} {before before' after after' : List Char} (h : c ∉ after)
    (h' : c ∉ after') (heq : before ++ c :: after = before' ++ c :: after') :
    before = before' ∧ after = after' := by
  -- If one of the heads were longer, its mark would stand in the tail of the other text.
  rcases List.append_eq_append_iff.1 heq with ⟨more, rfl, hmark⟩ | ⟨more, rfl, hmark⟩
  · cases more with
    | nil => exact ⟨(List.append_nil before).symm, (List.cons.inj hmark).2⟩
    | cons d rest => exact absurd (by simp [(List.cons.inj hmark).2]) h
  · cases more with
    | nil => exact ⟨List.append_nil before', ((List.cons.inj hmark).2).symm⟩
    | cons d rest => exact absurd (by simp [(List.cons.inj hmark).2]) h'

end Text
end Interprocess

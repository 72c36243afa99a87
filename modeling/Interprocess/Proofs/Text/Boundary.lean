import Interprocess.Proofs.Text.Parts
import Mathlib.Order.Bounds.Defs

/-!
# Where a text may be cut

A text may be cut at a byte offset if a character begins there, or if the text ends there.
`Text.cut` finds such an offset from the front, character by character.  It can be found from the
back as well: one begins at the most bytes that may be kept, and goes back byte by byte until a
character begins.

**Input.**  Any text and any number of bytes.  A character takes one to four bytes.

**Going back.**  `boundaryBack?` has no answer if it would have to go back behind the beginning, and
`cutBack?` has none if the bytes before the offset are no text.  Neither ever happens.

**Results.**
* `isBoundary_iff`: the boundaries of a text are the ends of its heads.
* `isGreatest_cut`: a cut ends at the last boundary that is not too late.
* `cutBack?_eq_some`: who goes back comes to the same cut.
* `cut_eq_self_iff`, `lt_size_cut_add_four`: how much is kept.
* `cut_cut`: two cuts are one, to the smaller size.
-/

namespace Interprocess
namespace Text

/-! ## Boundaries -/

/-- Whether a character of `s` begins at a byte offset, or `s` ends there. -/
def IsBoundary (s : String) (offset : Nat) : Prop := String.Pos.Raw.IsValid s ⟨offset⟩

instance (s : String) (offset : Nat) : Decidable (IsBoundary s offset) :=
  inferInstanceAs (Decidable (String.Pos.Raw.IsValid s ⟨offset⟩))

/-- What a head leaves of a text. -/
theorem exists_eq_append {head text : String} (h : head.toList <+: text.toList) :
    ∃ rest, text = head ++ rest := by
  obtain ⟨rest, hrest⟩ := h
  refine ⟨String.ofList rest, String.toList_inj.1 ?_⟩
  rw [String.toList_append, String.toList_ofList, hrest]

theorem size_le_of_isHead {head text : String} (h : head.toList <+: text.toList) :
    head.utf8ByteSize ≤ text.utf8ByteSize := by
  obtain ⟨rest, rfl⟩ := exists_eq_append h
  rw [String.utf8ByteSize_append]
  exact Nat.le_add_right _ _

/-- The boundaries of a text are the ends of its heads. -/
theorem isBoundary_iff {s : String} {offset : Nat} :
    IsBoundary s offset ↔
      ∃ head : String, head.toList <+: s.toList ∧ head.utf8ByteSize = offset := by
  rw [IsBoundary, String.Pos.Raw.isValid_iff_exists_append]
  constructor
  · rintro ⟨head, rest, rfl, hoffset⟩
    refine ⟨head, ?_, (congrArg String.Pos.Raw.byteIdx hoffset).symm⟩
    rw [String.toList_append]
    exact List.prefix_append _ _
  · rintro ⟨head, hhead, rfl⟩
    obtain ⟨rest, rfl⟩ := exists_eq_append hhead
    exact ⟨head, rest, rfl, rfl⟩

/-- A cut ends at the last boundary that is not too late. -/
theorem isGreatest_cut (max : Nat) (s : String) :
    IsGreatest {offset | offset ≤ max ∧ IsBoundary s offset} (cut max s).utf8ByteSize := by
  obtain ⟨hhead, hfits, hlongest⟩ := isLongestHead_cut max s
  refine ⟨⟨hfits, isBoundary_iff.2 ⟨_, hhead, rfl⟩⟩, ?_⟩
  rintro offset ⟨hoffset, hboundary⟩
  obtain ⟨head, hother, rfl⟩ := isBoundary_iff.1 hboundary
  exact size_le_of_isHead (hlongest head hother hoffset)

/-! ## Going back -/

/-- Go back from a byte offset to a boundary.  There is no answer if none comes down to the
beginning. -/
def boundaryBack? (s : String) : Nat → Option Nat
  | 0 => if IsBoundary s 0 then some 0 else none
  | offset + 1 =>
      if IsBoundary s (offset + 1) then some (offset + 1) else boundaryBack? s offset

/-- The text before the boundary that is found by going back from `max`, or all of a text that is
short enough.  There is no answer if the bytes before the boundary are no text. -/
def cutBack? (max : Nat) (s : String) : Option String :=
  if s.utf8ByteSize ≤ max then some s
  else (boundaryBack? s max).bind fun offset => Utf8.decode? ((Utf8.encode s).take offset)

/-- Who goes back stops at the last boundary. -/
theorem boundaryBack?_of_isGreatest {s : String} {max last : Nat}
    (h : IsGreatest {offset | offset ≤ max ∧ IsBoundary s offset} last) :
    boundaryBack? s max = some last := by
  obtain ⟨⟨hle, hlast⟩, hgreatest⟩ := h
  induction max with
  | zero =>
      obtain rfl := Nat.le_zero.1 hle
      exact if_pos hlast
  | succ max ih =>
      by_cases hboundary : IsBoundary s (max + 1)
      · have hhere : max + 1 ≤ last := hgreatest ⟨Nat.le_refl _, hboundary⟩
        obtain rfl := Nat.le_antisymm hle hhere
        exact if_pos hboundary
      · have hne : last ≠ max + 1 := by
          rintro rfl
          exact hboundary hlast
        have hbefore : last ≤ max := by omega
        rw [boundaryBack?, if_neg hboundary]
        refine ih ?_ hbefore
        rintro offset ⟨hoffset, hother⟩
        exact hgreatest ⟨Nat.le_succ_of_le hoffset, hother⟩

/-- The bytes before the end of a head are the head. -/
theorem decode?_take_of_isHead {head text : String} (h : head.toList <+: text.toList) :
    Utf8.decode? ((Utf8.encode text).take head.utf8ByteSize) = some head := by
  obtain ⟨rest, rfl⟩ := exists_eq_append h
  rw [Utf8.encode_append, List.take_left' (Utf8.length_encode head), Utf8.decode?_encode]

/-! ## How much is kept -/

/-- There is one longest head. -/
theorem IsLongestHead.unique {max : Nat} {text head other : String}
    (h : IsLongestHead max text head) (hother : IsLongestHead max text other) :
    head = other := by
  obtain ⟨hhead, hfits, hlongest⟩ := h
  obtain ⟨hhead', hfits', hlongest'⟩ := hother
  have hto := hlongest' head hhead hfits
  have hfrom := hlongest other hhead' hfits'
  exact String.toList_inj.1 (hto.eq_of_length (Nat.le_antisymm hto.length_le hfrom.length_le))

/-- A text is kept whole exactly if it is short enough. -/
theorem cut_eq_self_iff {max : Nat} {s : String} :
    cut max s = s ↔ s.utf8ByteSize ≤ max := by
  constructor
  · intro h
    have hfits := (isLongestHead_cut max s).2.1
    rwa [h] at hfits
  · intro hshort
    have hwhole : IsLongestHead max s s := ⟨List.prefix_rfl, hshort, fun _ hother _ => hother⟩
    exact (isLongestHead_cut max s).unique hwhole

/-- Who goes back comes to the same cut. -/
theorem cutBack?_eq_some (max : Nat) (s : String) : cutBack? max s = some (cut max s) := by
  unfold cutBack?
  split
  · next hshort => rw [cut_eq_self_iff.2 hshort]
  · rw [boundaryBack?_of_isGreatest (isGreatest_cut max s), Option.bind_some,
      decode?_take_of_isHead (isLongestHead_cut max s).1]

/-- The first character that is dropped takes four bytes at most. -/
theorem lt_width_headWithin_add_four {budget : Nat} {cs : List Char} (h : budget < width cs) :
    budget < width (headWithin budget cs) + 4 := by
  induction cs generalizing budget with
  | nil => exact absurd h (Nat.not_lt_zero _)
  | cons c rest ih =>
      rw [width] at h
      by_cases hfits : c.utf8Size ≤ budget
      · have hrest : budget - c.utf8Size < width (headWithin (budget - c.utf8Size) rest) + 4 :=
          ih (by omega)
        rw [headWithin, if_pos hfits, width]
        omega
      · have hsize := c.utf8Size_le_four
        rw [headWithin, if_neg hfits, width]
        omega

/-- A cut drops fewer than four bytes that could be kept. -/
theorem lt_size_cut_add_four {max : Nat} {s : String} (h : max < s.utf8ByteSize) :
    max < (cut max s).utf8ByteSize + 4 := by
  rw [← width_toList] at h
  rw [← width_toList, cut, String.toList_ofList]
  exact lt_width_headWithin_add_four h

/-- Two cuts are one, to the smaller size. -/
theorem cut_cut (max later : Nat) (s : String) :
    cut later (cut max s) = cut (min max later) s := by
  obtain ⟨hhead, hfits, hlongest⟩ := isLongestHead_cut max s
  obtain ⟨hhead', hfits', hlongest'⟩ := isLongestHead_cut later (cut max s)
  have hboth : IsLongestHead (min max later) s (cut later (cut max s)) := by
    refine ⟨hhead'.trans hhead, ?_, fun other hother hsize => ?_⟩
    · exact Nat.le_min.2 ⟨Nat.le_trans (size_le_of_isHead hhead') hfits, hfits'⟩
    · obtain ⟨hmax, hlater⟩ := Nat.le_min.1 hsize
      exact hlongest' other (hlongest other hother hmax) hlater
  exact hboth.unique (isLongestHead_cut _ s)

/-- Four bytes would end within the second `é`. -/
example : cutBack? 4 "aéé" = some "aé" ∧ cut 2 "aéé" = "a" := by decide +kernel

end Text
end Interprocess

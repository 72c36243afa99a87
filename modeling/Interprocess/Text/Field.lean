/-!
# Fields of a line of text

Announcements are lines such as `KIND:reason=5:message=any text`.  They are taken apart
from the left: `Text.afterHead?` strips a fixed opening, and `Text.splitAtFirst?` splits
at the first place where a separator stands.  Both work on lists of characters, so that
they recurse on the text itself.
-/

namespace Interprocess
namespace Text

/-- What follows `head` in a text that opens with it. -/
def afterHead? : List Char → List Char → Option (List Char)
  | [], text => some text
  | _ :: _, [] => none
  | h :: head, c :: text => if h = c then afterHead? head text else none

/-- Search for `separator`, with the characters passed so far in reverse order. -/
def splitFrom? (separator : List Char) (passed : List Char) :
    List Char → Option (List Char × List Char)
  | [] => (afterHead? separator []).map fun rest => (passed.reverse, rest)
  | c :: text =>
      match afterHead? separator (c :: text) with
      | some rest => some (passed.reverse, rest)
      | none => splitFrom? separator (c :: passed) text

/-- The parts of a text before and after the first occurrence of `separator`. -/
def splitAtFirst? (separator text : List Char) : Option (List Char × List Char) :=
  splitFrom? separator [] text

/-- Whether `part` occurs somewhere in a text. -/
def occursIn (part text : List Char) : Bool :=
  (splitAtFirst? part text).isSome

theorem afterHead?_append (head text : List Char) :
    afterHead? head (head ++ text) = some text := by
  induction head with
  | nil => rfl
  | cons h head ih => simp [afterHead?, ih]

theorem append_of_afterHead? {head text rest : List Char}
    (h : afterHead? head text = some rest) : text = head ++ rest := by
  induction head generalizing text with
  | nil => simpa [afterHead?] using h
  | cons c head ih =>
      cases text with
      | nil => simp [afterHead?] at h
      | cons d text =>
          simp only [afterHead?] at h
          split at h
          · next hcd => subst hcd; simp [ih h]
          · simp at h

end Text
end Interprocess

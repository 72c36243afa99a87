/-!
# Cutting text to a byte budget

`Text.cut max s` is the longest head of `s` that ends between two characters and takes
at most `max` bytes.  A character is kept whole or dropped together with everything
after it, so a cut never leaves half a character behind.
-/

namespace Interprocess
namespace Text

/-- The bytes that the characters of `cs` take. -/
def width : List Char → Nat
  | [] => 0
  | c :: cs => c.utf8Size + width cs

/-- The characters at the head of a list that fit into `budget` bytes. -/
def headWithin (budget : Nat) : List Char → List Char
  | [] => []
  | c :: cs =>
      if c.utf8Size ≤ budget then c :: headWithin (budget - c.utf8Size) cs else []

/-- The longest head of `s` of at most `max` bytes, on a character boundary. -/
def cut (max : Nat) (s : String) : String :=
  String.ofList (headWithin max s.toList)

theorem width_headWithin_le (budget : Nat) (cs : List Char) :
    width (headWithin budget cs) ≤ budget := by
  induction cs generalizing budget with
  | nil => simp [headWithin, width]
  | cons c cs ih =>
      have := ih (budget - c.utf8Size)
      simp only [headWithin]
      split
      · simp only [width]; omega
      · simp [width]

end Text
end Interprocess

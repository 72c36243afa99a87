import Interprocess.Proofs.Endpoint.OperationWalk
import Interprocess.Proofs.Text.Boundary

/-!
# Descriptions of tokens

A description is cut twice on its way: before the grant authority sees it, and when the authority
hands the token out, since it may have put any other text there.

**Input.**  Any kernel, so any authority, and any description.

**Results.**
* `Endpoint.run_acquire`: a request for a token is one request to the authority.
* `Endpoint.cut_and_acquire`: what a cut keeps of a text, and that both descriptions are cuts.
-/

namespace Interprocess
namespace Endpoint

variable {σ : Type} (e : Endpoint σ)

/-- What a process holds of a token that the authority handed out. -/
def held (granted : Token) : Token :=
  { granted with
    owner := e.pid, description := Text.cut maxDescriptionLength granted.description }

/-- A request for a token is one request to the authority, and perhaps some lines. -/
theorem run_acquire (capabilities : UInt32) (text : String) (seconds : Nat) (s : Session σ) :
    let granted := e.kernel.acquire capabilities (Text.cut maxDescriptionLength text) seconds
      s.kernel
    ∃ lines, (e.acquire capabilities text seconds).run s =
      (granted.1.map e.held, { s with kernel := e.kernel.logAll lines granted.2 }) := by
  unfold acquire
  simp only [Act.run_bind, Act.run_onKernel]
  rcases e.kernel.acquire capabilities (Text.cut maxDescriptionLength text) seconds s.kernel with
    ⟨token, k⟩
  cases token with
  | none => exact ⟨[_], rfl⟩
  | some token =>
      simp only
      split
      · exact ⟨[_], rfl⟩
      · exact ⟨[], rfl⟩

/-- Going back from the most bytes that may be kept comes to a cut of a text, which is its longest
head that fits and ends at the last boundary that is not too late; it is the text itself exactly if
that fits, and ends within four bytes of what could be kept otherwise; and two cuts are one, to the
smaller size.  The description that goes to the authority and the one of the token that a process
comes to hold are such cuts, whatever the authority wrote. -/
theorem cut_and_acquire (max later : Nat) (text : String) (capabilities : UInt32)
    (seconds : Nat) (s : Session σ) :
    (Text.cutBack? max text = some (Text.cut max text) ∧
      Text.IsLongestHead max text (Text.cut max text) ∧
      IsGreatest {offset | offset ≤ max ∧ Text.IsBoundary text offset}
        (Text.cut max text).utf8ByteSize ∧
      (Text.cut max text = text ↔ text.utf8ByteSize ≤ max) ∧
      (Text.cut max text ≠ text → max < (Text.cut max text).utf8ByteSize + 4) ∧
      Text.cut later (Text.cut max text) = Text.cut (min max later) text) ∧
    ∃ asked : String, Text.IsLongestHead 64 text asked ∧
      let granted := e.kernel.acquire capabilities asked seconds s.kernel
      (∃ lines, (e.acquire capabilities text seconds).run s =
        (granted.1.map e.held, { s with kernel := e.kernel.logAll lines granted.2 })) ∧
      ∀ token : Token, Text.IsLongestHead 64 token.description (e.held token).description := by
  refine ⟨⟨Text.cutBack?_eq_some max text, Text.isLongestHead_cut max text,
    Text.isGreatest_cut max text, Text.cut_eq_self_iff, fun h => ?_,
    Text.cut_cut max later text⟩, ?_⟩
  · have hlong : max < text.utf8ByteSize := by
      rw [Ne, Text.cut_eq_self_iff] at h
      exact Nat.lt_of_not_le h
    exact Text.lt_size_cut_add_four hlong
  · exact ⟨Text.cut maxDescriptionLength text, Text.isLongestHead_cut _ text,
      e.run_acquire capabilities text seconds s,
      fun token => Text.isLongestHead_cut _ token.description⟩

end Endpoint
end Interprocess

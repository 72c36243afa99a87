import Interprocess.Endpoint.Session

/-!
# Receiving

The notices that a process queued for itself come first, then the envelopes that wait at
the kernel.  Counting, looking and clearing treat both as one queue.
-/

namespace Interprocess

namespace Endpoint

variable {σ : Type} (e : Endpoint σ)

/-- Wait for a message, for `timeout` milliseconds at most.  One from the kernel that has no
timestamp gets the current one. -/
def receive (timeout : Nat) : Attempt σ Envelope := do
  match ← (Act.onProcess Process.nextNotice : Act σ (Option Envelope)) with
  | some notice => pure notice
  | none =>
      match ← Attempt.onKernel (e.kernel.receive timeout) with
      | some envelope => return envelope.stamped (← e.now)
      | none => throw .timeout

/-- How many messages wait. -/
def queueLength : Attempt σ Nat := do
  let here ← (Act.ofProcess fun p => p.inbox.waiting.length : Act σ Nat)
  let there ← Attempt.ofKernel e.kernel.pending
  return here + there

/-- Kind and sender of the message that comes next. -/
def peek : Attempt σ (Option (MessageKind × Pid)) := do
  match ← (Act.ofProcess fun p => p.inbox.waiting.head? : Act σ (Option Envelope)) with
  | some notice => pure (some (notice.kind, notice.sender))
  | none => Attempt.ofKernel e.kernel.peek

/-- Drop every message that waits. -/
def clearQueue : Attempt σ Unit := do
  (Act.changeProcess Process.dropNotices : Act σ Unit)
  Attempt.onKernel e.kernel.clear

end Endpoint

end Interprocess

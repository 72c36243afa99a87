import Interprocess.Proofs.Kernel.Journal

/-!
# Kernels that mirror another one

A kernel may do what another one does and keep something more in its state, such as a journal.

**Mirrors.**  `K'.Mirrors plain K` says that `K'` answers every request as `K` does, and leaves what
`K` leaves, seen through `plain`.

**Result.**
* `mirrors_noting`: a kernel is mirrored by the same kernel with a journal.
-/

namespace Interprocess

variable {σ τ ν α : Type}

/-- Whether a request does what another one does, seen through `plain`. -/
def Kernel.Passes (plain : τ → σ) (f' : τ → α × τ) (f : σ → α × σ) : Prop :=
  ∀ k, f (plain k) = ((f' k).1, plain (f' k).2)

/-- Whether a kernel answers every request as another one does, and leaves what that leaves. -/
structure Kernel.Mirrors (K' : Kernel τ) (plain : τ → σ) (K : Kernel σ) : Prop where
  now : ∀ k, K'.now k = K.now (plain k)
  wallclock : ∀ k, K'.wallclock k = K.wallclock (plain k)
  sleep : ∀ ms k, plain (K'.sleep ms k) = K.sleep ms (plain k)
  log : ∀ line k, plain (K'.log line k) = K.log line (plain k)
  send : ∀ envelope wantsFeedback sequence,
    Passes plain (K'.send envelope wantsFeedback sequence) (K.send envelope wantsFeedback sequence)
  broadcast : ∀ envelope, Passes plain (K'.broadcast envelope) (K.broadcast envelope)
  receive : ∀ timeout, Passes plain (K'.receive timeout) (K.receive timeout)
  reports : ∀ sequence, Passes plain (K'.reports sequence) (K.reports sequence)
  pending : ∀ k, K'.pending k = K.pending (plain k)
  peek : ∀ k, K'.peek k = K.peek (plain k)
  clear : Passes plain K'.clear K.clear
  protectChildren : ∀ emergencyOk,
    Passes plain (K'.protectChildren emergencyOk) (K.protectChildren emergencyOk)
  acquire : ∀ capabilities description seconds,
    Passes plain (K'.acquire capabilities description seconds)
      (K.acquire capabilities description seconds)
  release : ∀ token, Passes plain (K'.release token) (K.release token)
  renew : ∀ token seconds, Passes plain (K'.renew token seconds) (K.renew token seconds)
  grantsOf : ∀ pid k, K'.grantsOf pid k = K.grantsOf pid (plain k)
  portSend : ∀ token, Passes plain (K'.portSend token) (K.portSend token)
  portReceive : Passes plain K'.portReceive K.portReceive
  portClear : Passes plain K'.portClear K.portClear
  powerOff : ∀ kind reason flags message,
    Passes plain (K'.powerOff kind reason flags message) (K.powerOff kind reason flags message)
  powerState : ∀ k, K'.powerState k = K.powerState (plain k)
  cancelPowerOff : Passes plain K'.cancelPowerOff K.cancelPowerOff

theorem Kernel.mirrors_noting (K : Kernel σ) (note? : KernelEvent → Option ν) :
    (K.noting note?).Mirrors Journaled.kernel K := by
  constructor <;> intros <;> first | rfl | exact fun _ => rfl

end Interprocess

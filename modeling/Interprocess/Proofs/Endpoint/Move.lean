import Interprocess.Operation
import Interprocess.Proofs.Endpoint.Running
import Mathlib.Logic.Relation

/-!
# Operations as walks of moves

Every operation of a process is made of a few kinds of *moves*: a send, a query, the end of
a record, a change of the inbox, of the handlers or of the save window, and the uses of the
kernel that concern no sequence.  A property that each move keeps is kept by every
operation, and a property of two points in time follows from what one move does.

**Input.**  An operation, and the session in which it begins.

**Which moves.**  `Operation.permits` says which moves an operation makes.  An operation
that waits for an answer queries and forgets one sequence, the one that it owns: the first
that was given out after it began.

**Results.**
* `nextSequence_post`, `eq_nextSequence_of_post`: a send gives out the next sequence.
* `nextSequence_le_apply`: no move takes a sequence back.
-/

namespace Interprocess

/-! ## Moves -/

/-- A use of the kernel that concerns no sequence. -/
inductive KernelUse
  | sleep (ms : Nat)
  | log (line : String)
  | broadcast (envelope : Envelope)
  | receive (timeout : Nat)
  | clear
  | protectChildren (emergencyOk : Bool)
  | acquire (capabilities : UInt32) (description : String) (seconds : Nat)
  | release (token : Token)
  | renew (token : Token) (seconds : Nat)
  | portSend (token : Token)
  | portReceive
  | portClear
  | powerOff (kind : PowerKind) (reason : Nat) (flags : UInt32) (message : String)
  | cancelPowerOff

/-- What a use does to the kernel. -/
def KernelUse.effect {σ : Type} (K : Kernel σ) : KernelUse → σ → σ
  | sleep ms, k => K.sleep ms k
  | log line, k => K.log line k
  | broadcast envelope, k => (K.broadcast envelope k).2
  | receive timeout, k => (K.receive timeout k).2
  | clear, k => (K.clear k).2
  | protectChildren emergencyOk, k => (K.protectChildren emergencyOk k).2
  | acquire capabilities description seconds, k =>
      (K.acquire capabilities description seconds k).2
  | release token, k => (K.release token k).2
  | renew token seconds, k => (K.renew token seconds k).2
  | portSend token, k => (K.portSend token k).2
  | portReceive, k => (K.portReceive k).2
  | portClear, k => (K.portClear k).2
  | powerOff kind reason flags message, k => (K.powerOff kind reason flags message k).2
  | cancelPowerOff, k => (K.cancelPowerOff k).2

/-- A piece of an operation.  `post` gives out a sequence, enters a record and hands an
envelope to the kernel; `query` takes in the reports about a sequence and settles what is
overdue; `forget` takes a record out of the ledger, and `shutdownLedger` drops every record
and every notice. -/
inductive Move
  | post (receiver : Pid) (kind : MessageKind) (payload : Bytes) (wantsFeedback : Bool)
      (timeout : Nat)
  | query (sequence : Sequence)
  | forget (sequence : Sequence)
  | shutdownLedger
  | takeNotice
  | dropNotices
  | registerHandler (handler : HandlerId) (userData : Nat)
  | unregisterHandler (handler : HandlerId)
  | openWindow
  | closeWindow
  | useKernel (use : KernelUse)

namespace Operation

/-- Whether an operation waits for an answer to a message that it sends. -/
def awaits : Operation → Bool
  | call .. | lookup .. | registerSelf .. | register .. | unregister .. => true
  | protectChildren .. | requestExemption .. | beginSave => true
  | _ => false

/-- Whether an operation sends messages to single processes. -/
def sends : Operation → Bool
  | send .. | saveComplete => true
  | operation => operation.awaits

/-- Whether an operation makes a move, if `first` was the next sequence when it began. -/
def permits (operation : Operation) (first : Sequence) : Move → Prop
  | .post .. => operation.sends = true
  | .query sequence =>
      operation = .state sequence ∨ (operation.awaits = true ∧ sequence = first)
  | .forget sequence =>
      operation = .forget sequence ∨ (operation.awaits = true ∧ sequence = first)
  | .shutdownLedger => operation = .shutdownLedger
  | .takeNotice => ∃ timeout, operation = .receive timeout
  | .dropNotices => operation = .clearQueue
  | .registerHandler handler userData => operation = .registerHandler handler userData
  | .unregisterHandler handler => operation = .unregisterHandler handler
  | .openWindow => operation = .beginSave
  | .closeWindow => operation = .saveComplete
  | .useKernel _ => True

theorem sends_of_awaits {operation : Operation} (h : operation.awaits = true) :
    operation.sends = true := by
  cases operation <;> simp_all [awaits, sends]

end Operation

namespace Endpoint

variable {σ : Type} (e : Endpoint σ)

/-- What a move does to a session. -/
def apply : Move → Session σ → Session σ
  | .post receiver kind payload wantsFeedback timeout, s =>
      ((e.post receiver kind payload wantsFeedback timeout).run.run s).2
  | .query sequence, s => ((e.state sequence).run s).2
  | .forget sequence, s => { s with process := (s.process.forget sequence).2 }
  | .shutdownLedger, s => ((Act.shutdownLedger : Act σ Unit).run s).2
  | .takeNotice, s => { s with process := s.process.nextNotice.2 }
  | .dropNotices, s => { s with process := s.process.dropNotices }
  | .registerHandler handler userData, s =>
      { s with process := (s.process.registerHandler handler userData).2 }
  | .unregisterHandler handler, s =>
      { s with process := (s.process.unregisterHandler handler).2 }
  | .openWindow, s => { s with
      process := { s.process with
        saveDeadline := some (timeAfter (e.kernel.now s.kernel) e.config.saveGrace) } }
  | .closeWindow, s => { s with process := { s.process with saveDeadline := none } }
  | .useKernel use, s => { s with kernel := use.effect e.kernel s.kernel }

/-- Whether a session comes from another by moves of one kind. -/
def Walk (allowed : Move → Prop) : Session σ → Session σ → Prop :=
  Relation.ReflTransGen fun s t => ∃ move, allowed move ∧ t = e.apply move s

theorem Walk.single {e : Endpoint σ} {allowed : Move → Prop} {move : Move}
    (h : allowed move) (s : Session σ) :
    e.Walk allowed s (e.apply move s) :=
  Relation.ReflTransGen.single ⟨move, h, rfl⟩

/-! ## Sequences are given out once -/

theorem nextSequence_enroll (receiver : Pid) (kind : MessageKind) (now timeout : Nat)
    (p : Process) :
    (p.enroll receiver kind now timeout).1.1 = p.nextSequence ∧
      (p.enroll receiver kind now timeout).2.nextSequence = p.nextSequence + 1 := by
  unfold Process.enroll
  simp only
  split <;> exact ⟨rfl, rfl⟩

theorem nextSequence_notify (notice : Envelope) (p : Process) :
    (p.notify notice).2.nextSequence = p.nextSequence := by
  unfold Process.notify
  split <;> rfl

theorem nextSequence_refused (s : Session σ) (envelope : Envelope)
    (wantsFeedback tracked : Bool) (fault : SendFault) :
    (e.refused s envelope wantsFeedback tracked fault).2.nextSequence =
      s.process.nextSequence := by
  unfold refused
  cases wantsFeedback <;> cases tracked <;> simp [nextSequence_notify, Process.mark]

/-- A send gives out the next sequence, whatever the kernel answers. -/
theorem nextSequence_post (receiver : Pid) (kind : MessageKind) (payload : Bytes)
    (wantsFeedback : Bool) (timeout : Nat) (s : Session σ) :
    ((e.post receiver kind payload wantsFeedback timeout).run.run s).2.process.nextSequence =
      s.process.nextSequence + 1 := by
  obtain ⟨_, hnext⟩ :=
    nextSequence_enroll receiver kind (e.kernel.now s.kernel) timeout s.process
  rw [run_post]
  simp only
  split
  · split <;> exact hnext
  · rw [run_refuse]
    exact (e.nextSequence_refused _ _ _ _ _).trans hnext

/-- What a send answers is the sequence that it gave out. -/
theorem eq_nextSequence_of_post {receiver : Pid} {kind : MessageKind} {payload : Bytes}
    {wantsFeedback : Bool} {timeout : Nat} {s : Session σ} {sequence : Sequence}
    (h : ((e.post receiver kind payload wantsFeedback timeout).run.run s).1 = .ok sequence) :
    sequence = s.process.nextSequence := by
  obtain ⟨hfirst, _⟩ :=
    nextSequence_enroll receiver kind (e.kernel.now s.kernel) timeout s.process
  rw [run_post] at h
  simp only at h
  split at h
  · cases h
    exact hfirst
  · simp at h

/-- No move takes a sequence back. -/
theorem nextSequence_le_apply (move : Move) (s : Session σ) :
    s.process.nextSequence ≤ (e.apply move s).process.nextSequence := by
  cases move with
  | post receiver kind payload wantsFeedback timeout =>
      have hpost := e.nextSequence_post receiver kind payload wantsFeedback timeout s
      exact Nat.le_of_lt (Nat.lt_of_lt_of_eq (Nat.lt_succ_self _) hpost.symm)
  | query sequence =>
      simp only [apply, run_state]
      exact Nat.le_refl _
  | takeNotice =>
      simp only [apply, Process.nextNotice]
      split <;> exact Nat.le_refl _
  | registerHandler handler userData =>
      simp only [apply, Process.registerHandler]
      split <;> exact Nat.le_refl _
  | unregisterHandler handler =>
      simp only [apply, Process.unregisterHandler]
      split <;> exact Nat.le_refl _
  | forget | shutdownLedger | dropNotices | openWindow | closeWindow | useKernel =>
      exact Nat.le_refl _

theorem Walk.nextSequence_le {e : Endpoint σ} {allowed : Move → Prop} {s t : Session σ}
    (h : e.Walk allowed s t) :
    s.process.nextSequence ≤ t.process.nextSequence := by
  induction h with
  | refl => exact Nat.le_refl _
  | tail _ hmove ih =>
      obtain ⟨move, _, rfl⟩ := hmove
      exact Nat.le_trans ih (e.nextSequence_le_apply move _)

end Endpoint

end Interprocess

import Interprocess.Proofs.Endpoint.Move
import Interprocess.Simulation.World

/-!
# Kernels that keep a journal

What a process asks of its kernel is told by the kernel that it asks.  This module equips any kernel
with a journal, and says what it takes to note every envelope.

**Journals.**  `K.noting note?` is `K` with a list.  Of each request it enters there what `note?`
makes of it, if anything, and otherwise it answers as `K` does.

**Transfers.**  `K.journaled` enters what concerns envelopes: in which order a process sent,
broadcast, received and cleared, and what the kernel answered each time.

**Notes.**  `K.Notes sent` says that `sent` lists every envelope that `K` was handed for a single
process, refused ones included: a send adds one at the end, and no other request changes the list.

**Results.**
* `KernelUse.effect_journaled`: what the uses of a kernel add to its journal.
* `notes_journaled`: a journaled kernel notes every envelope for a single process.
-/

namespace Interprocess

variable {σ ν α : Type}

/-- Whether `sent` lists every envelope that a kernel was handed for a single process. -/
structure Kernel.Notes (K : Kernel σ) (sent : σ → List Submission) : Prop where
  send : ∀ envelope wantsFeedback sequence k,
    sent (K.send envelope wantsFeedback sequence k).2 =
      sent k ++ [{ envelope := envelope, wantsFeedback, sequence }]
  reports : ∀ sequence k, sent (K.reports sequence k).2 = sent k
  use : ∀ (use : KernelUse) k, sent (use.effect K k) = sent k

/-! ## Journals -/

/-- A request to a kernel that concerns envelopes, and its answer. -/
inductive Transfer
  /-- An envelope for a single process.  The clock showed `time` after the answer. -/
  | send (submission : Submission) (answer : Except SendFault Unit) (time : Nat)
  /-- An envelope for every process. -/
  | broadcast (envelope : Envelope) (answer : Except SendFault Unit)
  /-- A request for the next envelope. -/
  | receive (answer : Except KernelFault (Option Envelope))
  /-- A request to drop the envelopes that wait. -/
  | clear (answer : Except KernelFault Unit)

/-- A request to a kernel that may be entered in a journal. -/
inductive KernelEvent
  /-- One that concerns envelopes. -/
  | transfer (transfer : Transfer)
  /-- One for the reports about a sequence. -/
  | poll (sequence : Sequence)
  /-- One for sleep. -/
  | nap (ms : Nat)

/-- The state of a kernel with a journal. -/
structure Journaled (ν σ : Type) where
  /-- The state of the kernel. -/
  kernel : σ
  /-- What was entered, in order. -/
  journal : List ν

namespace Journaled

/-- A kernel with an empty journal. -/
def fresh (k : σ) : Journaled ν σ := { kernel := k, journal := [] }

/-- Enter something in the journal, if there is anything to enter. -/
def enter (note? : Option ν) (j : Journaled ν σ) : Journaled ν σ where
  kernel := j.kernel
  -- By cases, so that a request that is not noted leaves the journal alone by definition.
  journal := match note? with
    | some entry => j.journal ++ [entry]
    | none => j.journal

theorem journal_enter (note? : Option ν) (j : Journaled ν σ) :
    (j.enter note?).journal = j.journal ++ note?.toList := by
  cases note? with
  | none => exact (List.append_nil _).symm
  | some entry => rfl

/-- Pass a request on to the kernel. -/
def pass (f : σ → α × σ) (j : Journaled ν σ) : α × Journaled ν σ :=
  ((f j.kernel).1, { j with kernel := (f j.kernel).2 })

/-- Pass a request on to the kernel, and enter what its answer makes of it. -/
def passNoting (note? : α → σ → Option ν) (f : σ → α × σ) (j : Journaled ν σ) :
    α × Journaled ν σ :=
  let (answer, j) := j.pass f
  (answer, j.enter (note? answer j.kernel))

end Journaled

/-- A kernel with a journal, in which `note?` says what is entered. -/
def Kernel.noting (K : Kernel σ) (note? : KernelEvent → Option ν) : Kernel (Journaled ν σ) where
  pid := K.pid
  now := fun j => K.now j.kernel
  wallclock := fun j => K.wallclock j.kernel
  sleep := fun ms j => { j with kernel := K.sleep ms j.kernel }.enter (note? (.nap ms))
  log := fun line j => { j with kernel := K.log line j.kernel }
  send := fun envelope wantsFeedback sequence =>
    Journaled.passNoting
      (fun answer k =>
        note? (.transfer (.send ⟨envelope, wantsFeedback, sequence⟩ answer (K.now k))))
      (K.send envelope wantsFeedback sequence)
  broadcast := fun envelope =>
    Journaled.passNoting (fun answer _ => note? (.transfer (.broadcast envelope answer)))
      (K.broadcast envelope)
  receive := fun timeout =>
    Journaled.passNoting (fun answer _ => note? (.transfer (.receive answer)))
      (K.receive timeout)
  reports := fun sequence =>
    Journaled.passNoting (fun _ _ => note? (.poll sequence)) (K.reports sequence)
  pending := fun j => K.pending j.kernel
  peek := fun j => K.peek j.kernel
  clear := Journaled.passNoting (fun answer _ => note? (.transfer (.clear answer))) K.clear
  protectChildren := fun emergencyOk => Journaled.pass (K.protectChildren emergencyOk)
  acquire := fun capabilities description seconds =>
    Journaled.pass (K.acquire capabilities description seconds)
  release := fun token => Journaled.pass (K.release token)
  renew := fun token seconds => Journaled.pass (K.renew token seconds)
  grantsOf := fun pid j => K.grantsOf pid j.kernel
  portSend := fun token => Journaled.pass (K.portSend token)
  portReceive := Journaled.pass K.portReceive
  portClear := Journaled.pass K.portClear
  powerOff := fun kind reason flags message =>
    Journaled.pass (K.powerOff kind reason flags message)
  powerState := fun j => K.powerState j.kernel
  cancelPowerOff := Journaled.pass K.cancelPowerOff

namespace Endpoint

/-- An endpoint whose kernel keeps a journal, in which `note?` says what is entered. -/
def noting (e : Endpoint σ) (note? : KernelEvent → Option ν) : Endpoint (Journaled ν σ) :=
  { kernel := e.kernel.noting note?, config := e.config }

/-- A session whose kernel has an empty journal. -/
def journalBegun (s : Session σ) : Session (Journaled ν σ) :=
  { kernel := Journaled.fresh s.kernel, process := s.process }

end Endpoint

/-! ## Transfers -/

/-- What concerns envelopes. -/
def KernelEvent.transfer? : KernelEvent → Option Transfer
  | .transfer entry => some entry
  | .poll _ | .nap _ => none

/-- A kernel with a journal of what concerns envelopes. -/
def Kernel.journaled (K : Kernel σ) : Kernel (Journaled Transfer σ) :=
  K.noting KernelEvent.transfer?

/-- An endpoint whose kernel keeps a journal of what concerns envelopes. -/
def Endpoint.journaled (e : Endpoint σ) : Endpoint (Journaled Transfer σ) :=
  e.noting KernelEvent.transfer?

namespace Transfer

/-- The envelope that is handed over for a single process. -/
def submission? : Transfer → Option Submission
  | send submission _ _ => some submission
  | _ => none

/-- The envelope that is handed over for every process, and whether the kernel took it. -/
def broadcast? : Transfer → Option (Envelope × Except SendFault Unit)
  | broadcast envelope answer => some (envelope, answer)
  | _ => none

/-- The envelope that is broadcast, if the kernel takes it. -/
def announcement? : Transfer → Option Envelope
  | broadcast envelope (.ok _) => some envelope
  | _ => none

end Transfer

/-- What a use of a kernel adds to its journal. -/
def KernelUse.transfers (K : Kernel σ) (k : σ) : KernelUse → List Transfer
  | .broadcast envelope => [.broadcast envelope (K.broadcast envelope k).1]
  | .receive timeout => [.receive (K.receive timeout k).1]
  | .clear => [.clear (K.clear k).1]
  | _ => []

theorem KernelUse.effect_journaled (K : Kernel σ) (use : KernelUse) (j : Journaled Transfer σ) :
    use.effect K.journaled j =
      { kernel := use.effect K j.kernel
        journal := j.journal ++ use.transfers K j.kernel } := by
  cases use with
  | broadcast | receive | clear => rfl
  | _ => simp only [transfers, List.append_nil]; rfl

namespace Journaled

/-- The envelopes that were handed over for single processes. -/
def sent (j : Journaled Transfer σ) : List Submission := j.journal.filterMap Transfer.submission?

/-- The envelopes that were handed over for every process, and whether the kernel took them. -/
def broadcasts (j : Journaled Transfer σ) : List (Envelope × Except SendFault Unit) :=
  j.journal.filterMap Transfer.broadcast?

end Journaled

theorem Endpoint.notes_journaled (e : Endpoint σ) : e.journaled.kernel.Notes Journaled.sent where
  send := fun _ _ _ _ => List.filterMap_append ..
  reports := fun _ _ => rfl
  use := by
    intro use j
    change (use.effect e.kernel.journaled j).sent = j.sent
    rw [use.effect_journaled]
    cases use <;>
      simp [Journaled.sent, KernelUse.transfers, Transfer.submission?]

namespace Endpoint

variable {e : Endpoint σ}

theorem broadcasts_broadcast (envelope : Envelope) (j : Journaled Transfer σ) :
    (e.journaled.kernel.broadcast envelope j).2.broadcasts =
      j.broadcasts ++ [(envelope, (e.kernel.broadcast envelope j.kernel).1)] :=
  List.filterMap_append ..

theorem broadcasts_send (envelope : Envelope) (wantsFeedback : Bool) (sequence : Sequence)
    (j : Journaled Transfer σ) :
    (e.journaled.kernel.send envelope wantsFeedback sequence j).2.broadcasts = j.broadcasts := by
  change (j.journal ++ [_]).filterMap Transfer.broadcast? = _
  rw [List.filterMap_append]
  exact List.append_nil _

end Endpoint

end Interprocess

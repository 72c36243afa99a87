import Interprocess.Proofs.Kernel.Clock
import Interprocess.Proofs.Kernel.Journal
import Interprocess.Simulation.KernelCall

/-!
# What a process does to its world

The kernel of a simulated process passes most requests on to the world.  This module says what
they do there, and which parts of the world they leave alone.

**Exchange.**  Envelopes and answers go through four parts of a kernel state: the list of what
was sent, the reports that are due, the late ones, and the peers (`KernelState.exchange`).

**Results.**
* `Adjustments.effect_kernel`: a use of the kernel is refused, or is one change of the world.
* `World.frame_onWorld`: which uses touch the grants, which ones the machine.
* `exchange_effect`: no use of the kernel touches the exchange.
* `notes_kernel`: the world notes every envelope that it is handed.
-/

namespace Interprocess

/-- What a use of the kernel of process `pid` does to the world, if it is not refused. -/
def KernelUse.onWorld (pid : Pid) (oversleep : Nat) : KernelUse → World → World
  | .sleep ms, w => w.advance (ms + oversleep)
  | .log line, w => w.log line
  | .broadcast envelope, w => (w.broadcast pid envelope).2
  | .receive timeout, w => (w.receive pid timeout).2
  | .clear, w => w.clearMailbox pid
  | .protectChildren emergencyOk, w => (w.protectChildren pid emergencyOk).2
  | .acquire capabilities description seconds, w =>
      (w.acquire pid capabilities description seconds).2
  | .release token, w => (w.release pid token).2
  | .renew token seconds, w => (w.renew pid token seconds).2
  | .portSend token, w => w.portSend token
  | .portReceive, w => w.portReceive.2
  | .portClear, w => w.portClear pid
  | .powerOff kind reason flags message, w => w.powerOff pid kind reason flags message
  | .cancelPowerOff, w => w.cancelPowerOff.2

namespace Adjustments

variable {pid : Pid} {a : Adjustments}

theorem guarded_snd {α : Type} (request : KernelRequest)
    (f : KernelState → Except KernelFault α × KernelState) (k : KernelState) :
    (a.guarded request f k).2 = k ∨ (a.guarded request f k).2 = (f k).2 := by
  unfold guarded
  split
  · exact Or.inl rfl
  · exact Or.inr rfl

/-- A request that is refused does nothing, and every other one goes to the world. -/
theorem guarded_fromWorld {α : Type} (a : Adjustments) (request : KernelRequest)
    (f : World → Except KernelFault α × World) (k : KernelState) :
    (∃ fault, a.guarded request (KernelState.fromWorld f) k = (.error fault, k)) ∨
      a.guarded request (KernelState.fromWorld f) k =
        ((f k.world).1, { k with world := (f k.world).2 }) := by
  unfold guarded
  split
  · exact Or.inl ⟨_, rfl⟩
  · exact Or.inr rfl

/-- A use of the kernel is refused, or is one change of the world. -/
theorem effect_kernel (pid : Pid) (a : Adjustments) (use : KernelUse) (k : KernelState) :
    use.effect (a.kernel pid) k = k ∨
      use.effect (a.kernel pid) k =
        { k with world := use.onWorld pid a.oversleep k.world } := by
  cases use with
  | sleep | log | broadcast | acquire => exact Or.inr rfl
  | _ => exact guarded_snd _ _ k

/-- What every change of the world keeps is kept by every use of the kernel. -/
theorem keeps_effect {Q : World → Prop} {use : KernelUse} {k : KernelState}
    (h : Q k.world → Q (use.onWorld pid a.oversleep k.world)) (hk : Q k.world) :
    Q (use.effect (a.kernel pid) k).world := by
  rcases effect_kernel pid a use k with heq | heq
  · rw [heq]
    exact hk
  · rw [heq]
    exact h hk

end Adjustments

/-! ## The exchange of envelopes and answers -/

/-- The parts of a world through which envelopes and answers go. -/
def World.exchange (w : World) :
    List Submission × Table (Pid × Sequence) (List Feedback) × Table Pid Responder :=
  (w.sent, w.reports, w.responders)

/-- The parts of a kernel through which envelopes and answers go. -/
def KernelState.exchange (k : KernelState) :
    (List Submission × Table (Pid × Sequence) (List Feedback) × Table Pid Responder) ×
      Table Sequence Timetable :=
  (k.world.exchange, k.late)

/-- The parts of a world that say what happens to the machine. -/
def World.machine (w : World) : List PowerCall × Option PowerState := (w.powerCalls, w.power)

/-- Whether a use of the kernel changes what is granted. -/
def KernelUse.isGrant : KernelUse → Bool
  | acquire .. | release .. | renew .. => true
  | _ => false

/-- Whether a use of the kernel changes what the machine does. -/
def KernelUse.isPower : KernelUse → Bool
  | powerOff .. | cancelPowerOff => true
  | _ => false

/-- What the uses of a kernel leave alone in the world. -/
theorem World.frame_onWorld (use : KernelUse) (pid : Pid) (oversleep : Nat) (w : World) :
    (use.onWorld pid oversleep w).exchange = w.exchange ∧
      (use.isGrant = false → (use.onWorld pid oversleep w).grants = w.grants) ∧
      (use.isPower = false → (use.onWorld pid oversleep w).machine = w.machine) := by
  cases use with
  | broadcast envelope =>
      simp only [KernelUse.onWorld, broadcast]
      split <;> exact ⟨rfl, fun _ => rfl, fun _ => rfl⟩
  | receive timeout =>
      simp only [KernelUse.onWorld, receive]
      split <;> exact ⟨rfl, fun _ => rfl, fun _ => rfl⟩
  | clear =>
      simp only [KernelUse.onWorld, clearMailbox]
      split <;> exact ⟨rfl, fun _ => rfl, fun _ => rfl⟩
  | protectChildren emergencyOk =>
      simp only [KernelUse.onWorld, protectChildren]
      split <;> exact ⟨rfl, fun _ => rfl, fun _ => rfl⟩
  | acquire capabilities description seconds =>
      simp only [KernelUse.onWorld, acquire]
      split <;> exact ⟨rfl, fun h => Bool.noConfusion h, fun _ => rfl⟩
  | release token =>
      simp only [KernelUse.onWorld, release]
      split <;> exact ⟨rfl, fun h => Bool.noConfusion h, fun _ => rfl⟩
  | renew token seconds =>
      simp only [KernelUse.onWorld, renew]
      split <;> exact ⟨rfl, fun h => Bool.noConfusion h, fun _ => rfl⟩
  | portReceive =>
      simp only [KernelUse.onWorld, portReceive]
      split <;> exact ⟨rfl, fun _ => rfl, fun _ => rfl⟩
  | cancelPowerOff =>
      simp only [KernelUse.onWorld, cancelPowerOff]
      split <;> exact ⟨rfl, fun _ => rfl, fun h => Bool.noConfusion h⟩
  | powerOff => exact ⟨rfl, fun _ => rfl, fun h => Bool.noConfusion h⟩
  | sleep | log | portSend | portClear => exact ⟨rfl, fun _ => rfl, fun _ => rfl⟩

namespace World

theorem respond_snd (envelope : Envelope) (w : World) :
    ∃ responders, (w.respond envelope).2 = { w with responders } := by
  unfold respond
  split
  · exact ⟨_, rfl⟩
  · exact ⟨w.responders, rfl⟩

/-- The answer of a peer depends on the peers only. -/
theorem respond_fst_congr {w w' : World} (h : w.responders = w'.responders)
    (envelope : Envelope) :
    (w.respond envelope).1 = (w'.respond envelope).1 := by
  unfold respond
  rw [h]
  split <;> rfl

/-- The world with a note of one more envelope. -/
def note (submission : Submission) (w : World) : World :=
  { w with sent := w.sent ++ [submission] }

theorem send_eq (sender : Pid) (envelope : Envelope) (wantsFeedback : Bool)
    (sequence : Sequence) (w : World) :
    w.send sender envelope wantsFeedback sequence =
      let noted := w.note ⟨envelope, wantsFeedback, sequence⟩
      match w.sendFaults.find? envelope.receiver with
      | some fault => (.error fault, noted)
      | none =>
          let (reports, answered) := noted.respond envelope
          let delivered := answered.deliver envelope.receiver envelope
          (.ok (),
            if wantsFeedback then delivered.setReports sender sequence reports
            else delivered) := by
  unfold send
  simp only
  cases w.sendFaults.find? envelope.receiver with
  | some fault => rfl
  | none => cases wantsFeedback <;> rfl

/-- All that a send changes. -/
theorem send_changes (sender : Pid) (envelope : Envelope) (wantsFeedback : Bool)
    (sequence : Sequence) (w : World) :
    ∃ responders reports mailboxes,
      (w.send sender envelope wantsFeedback sequence).2 =
        { w with
          sent := w.sent ++ [⟨envelope, wantsFeedback, sequence⟩]
          responders, reports, mailboxes } := by
  obtain ⟨responders, hrespond⟩ :=
    respond_snd envelope (w.note ⟨envelope, wantsFeedback, sequence⟩)
  rw [send_eq]
  simp only [hrespond]
  split
  · exact ⟨_, _, _, rfl⟩
  · split <;> exact ⟨_, _, _, rfl⟩

/-- All that handing out reports changes. -/
theorem takeReports_changes (sender : Pid) (sequence : Sequence) (w : World) :
    ∃ reports, (w.takeReports sender sequence).2 = { w with reports } := by
  unfold takeReports
  split
  · exact ⟨_, rfl⟩
  · exact ⟨_, rfl⟩

theorem find?_deliverAll (sender pid : Pid) (e : Envelope) (w : World) :
    (w.deliverAll sender e).mailboxes.find? pid = (w.mailboxes.find? pid).map fun waiting =>
      if pid = sender then waiting else waiting ++ [e] :=
  Table.find?_mapValues
    (fun pid waiting => if pid = sender then waiting else waiting ++ [e]) pid w.mailboxes

/-- The reports that are due after a send were due before, or are the answer to it. -/
theorem mem_dueReports_send {sender pid : Pid} {envelope : Envelope} {wantsFeedback : Bool}
    {sequence n : Sequence} {w : World} {report : Feedback}
    (h : report ∈ (w.send sender envelope wantsFeedback sequence).2.dueReports pid n) :
    report ∈ w.dueReports pid n ∨
      wantsFeedback = true ∧ (pid, n) = (sender, sequence) ∧
        report ∈ (w.respond envelope).1 := by
  have hpeers : (w.note ⟨envelope, wantsFeedback, sequence⟩).responders = w.responders := rfl
  have hpeer := respond_fst_congr hpeers envelope
  obtain ⟨responders, hrespond⟩ :=
    respond_snd envelope (w.note ⟨envelope, wantsFeedback, sequence⟩)
  rw [send_eq] at h
  simp only [hrespond, hpeer] at h
  split at h
  · exact Or.inl h
  · split at h
    · next hfeedback =>
        by_cases hkey : (pid, n) = (sender, sequence)
        · rw [dueReports, setReports, hkey, Table.find?_insert_same] at h
          exact Or.inr ⟨hfeedback, hkey, h⟩
        · rw [dueReports, setReports, Table.find?_insert_of_ne hkey] at h
          exact Or.inl h
    · exact Or.inl h

end World

namespace KernelState

/-- The reports that wait for a sequence of process `pid`, due or late. -/
def waiting (pid : Pid) (sequence : Sequence) (k : KernelState) : List Feedback :=
  k.world.dueReports pid sequence ++ (k.lateReports sequence).map Prod.snd

end KernelState

namespace Timetable

/-- What is due and what is left make up a timetable. -/
theorem takeDue_append (now : Nat) (timetable : Timetable) :
    (takeDue now timetable).1 ++ (takeDue now timetable).2.map Prod.snd =
      timetable.map Prod.snd := by
  induction timetable with
  | nil => rfl
  | cons entry rest ih =>
      obtain ⟨due, report⟩ := entry
      unfold takeDue
      split
      · simpa using ih
      · rfl

end Timetable

namespace World

theorem mem_dueReports_setReports {sender pid : Pid} {sequence n : Sequence}
    {reports : List Feedback} {w : World} {report : Feedback}
    (hfrom : ∀ report ∈ reports, report ∈ w.dueReports sender sequence)
    (h : report ∈ (w.setReports sender sequence reports).dueReports pid n) :
    report ∈ w.dueReports pid n := by
  by_cases hkey : (pid, n) = (sender, sequence)
  · obtain ⟨rfl, rfl⟩ := Prod.mk.inj hkey
    rw [dueReports, setReports, Table.find?_insert_same] at h
    exact hfrom report h
  · rw [dueReports, setReports, Table.find?_insert_of_ne hkey] at h
    exact h

theorem mem_dueReports_takeReports {sender pid : Pid} {sequence n : Sequence} {w : World}
    {report : Feedback} (h : report ∈ (w.takeReports sender sequence).2.dueReports pid n) :
    report ∈ w.dueReports pid n := by
  unfold takeReports at h
  split at h
  · exact h
  · exact mem_dueReports_setReports (by simp) h

end World

namespace KernelState

theorem mem_lateReports_insert {sequence n : Sequence} {left : Timetable} {k : KernelState}
    {report : Feedback}
    (hfrom : ∀ report ∈ left.map Prod.snd, report ∈ (k.lateReports sequence).map Prod.snd)
    (h : report ∈ (lateReports n { k with late := k.late.insert sequence left }).map
      Prod.snd) :
    report ∈ (k.lateReports n).map Prod.snd := by
  by_cases hn : n = sequence
  · subst hn
    rw [lateReports, Table.find?_insert_same] at h
    exact hfrom report h
  · rw [lateReports, Table.find?_insert_of_ne hn] at h
    exact h

/-- The reports that are handed out waited before. -/
theorem mem_waiting_of_takeReports {pid : Pid} {sequence : Sequence} {k : KernelState}
    {report : Feedback} (h : report ∈ (k.takeReports pid sequence).1) :
    report ∈ k.waiting pid sequence := by
  rw [takeReports_fst] at h
  rcases List.mem_append.1 h with h | h
  · exact List.mem_append_left _ h
  · have hall := Timetable.takeDue_append k.world.clock (k.lateReports sequence)
    rw [waiting, ← hall]
    exact List.mem_append_right _ (List.mem_append_left _ h)

/-- Whether nothing was sent between two states of a kernel, and nothing new waits. -/
structure Drains (k after : KernelState) : Prop where
  sent : after.world.sent = k.world.sent
  due : ∀ pid n report, report ∈ after.world.dueReports pid n →
    report ∈ k.world.dueReports pid n
  late : ∀ n report, report ∈ (after.lateReports n).map Prod.snd →
    report ∈ (k.lateReports n).map Prod.snd

theorem Drains.waiting {k after : KernelState} (h : Drains k after) {pid : Pid}
    {n : Sequence} {report : Feedback} (hmem : report ∈ after.waiting pid n) :
    report ∈ k.waiting pid n := by
  rcases List.mem_append.1 hmem with hdue | hlate
  · exact List.mem_append_left _ (h.due pid n report hdue)
  · exact List.mem_append_right _ (h.late n report hlate)

theorem drains_of_exchange {k after : KernelState} (h : after.exchange = k.exchange) :
    Drains k after where
  sent := congrArg (fun x => x.1.1) h
  due := by
    intro pid n report hmem
    have hreports : after.world.reports = k.world.reports := congrArg (fun x => x.1.2.1) h
    rwa [World.dueReports, hreports] at hmem
  late := by
    intro n report hmem
    have hlate : after.late = k.late := congrArg Prod.snd h
    rwa [lateReports, hlate] at hmem

theorem drains_takeReports (pid : Pid) (sequence : Sequence) (k : KernelState) :
    Drains k (k.takeReports pid sequence).2 where
  sent := by
    obtain ⟨reports, hchanges⟩ := World.takeReports_changes pid sequence k.world
    rw [world_takeReports, hchanges]
  due := by
    intro other n report hmem
    rw [world_takeReports] at hmem
    exact World.mem_dueReports_takeReports hmem
  late := by
    intro n report hmem
    unfold takeReports fromWorld at hmem
    simp only at hmem
    split at hmem
    · exact hmem
    · next due left _ hdue =>
        refine mem_lateReports_insert ?_ hmem
        intro report hleft
        have hall := Timetable.takeDue_append (k.world.takeReports pid sequence).2.clock
          (k.lateReports sequence)
        have hdue' : Timetable.takeDue (k.world.takeReports pid sequence).2.clock
            (k.lateReports sequence) = (due, left) := hdue
        rw [← hall, hdue']
        exact List.mem_append_right _ hleft

theorem drains_takeReport (pid : Pid) (sequence : Sequence) (k : KernelState) :
    Drains k (k.takeReport pid sequence).2 := by
  unfold takeReport
  split
  · next first rest hdue =>
      refine ⟨rfl, fun other n report hmem => ?_, fun _ _ hmem => hmem⟩
      refine World.mem_dueReports_setReports (fun report hrest => ?_) hmem
      rw [hdue]
      exact List.mem_cons_of_mem first hrest
  · split
    · next due first rest hlate =>
        split
        · refine ⟨rfl, fun _ _ _ hmem => hmem, fun n report hmem => ?_⟩
          refine mem_lateReports_insert (fun report hrest => ?_) hmem
          rw [hlate]
          exact List.mem_cons_of_mem first hrest
        · exact ⟨rfl, fun _ _ _ hmem => hmem, fun _ _ hmem => hmem⟩
    · exact ⟨rfl, fun _ _ _ hmem => hmem, fun _ _ hmem => hmem⟩

theorem responders_takeReports (pid : Pid) (sequence : Sequence) (k : KernelState) :
    (k.takeReports pid sequence).2.world.responders = k.world.responders := by
  obtain ⟨reports, hchanges⟩ := World.takeReports_changes pid sequence k.world
  rw [world_takeReports, hchanges]

end KernelState

namespace Adjustments

variable {pid : Pid} {a : Adjustments}

theorem exchange_effect (pid : Pid) (a : Adjustments) (use : KernelUse) (k : KernelState) :
    (use.effect (a.kernel pid) k).exchange = k.exchange := by
  rcases effect_kernel pid a use k with heq | heq
  · rw [heq]
  · rw [heq]
    exact congrArg (·, k.late) (World.frame_onWorld use pid a.oversleep k.world).1

theorem world_send (envelope : Envelope) (wantsFeedback : Bool) (sequence : Sequence)
    (k : KernelState) :
    (a.send pid envelope wantsFeedback sequence k).2.world =
      (k.world.send pid envelope wantsFeedback sequence).2 := by
  unfold send KernelState.fromWorld
  rcases k.world.send pid envelope wantsFeedback sequence with ⟨result, w⟩
  cases result with
  | error fault => rfl
  | ok =>
      simp only
      split
      · split <;> rfl
      · rfl

/-- Whether a report is an answer to an envelope: the peer at the receiving address causes it at
once, or reports from there come by a timetable that holds it. -/
def Answers (a : Adjustments) (w : World) (envelope : Envelope) (report : Feedback) : Prop :=
  report ∈ (w.respond envelope).1 ∨
    ∃ delays, a.delays.find? envelope.receiver = some delays ∧ report ∈ delays.map Prod.snd

theorem mem_lateReports_send {envelope : Envelope} {wantsFeedback : Bool}
    {sequence n : Sequence} {k : KernelState} {report : Feedback}
    (h : report ∈
      ((a.send pid envelope wantsFeedback sequence k).2.lateReports n).map Prod.snd) :
    report ∈ (k.lateReports n).map Prod.snd ∨
      wantsFeedback = true ∧ n = sequence ∧
        ∃ delays, a.delays.find? envelope.receiver = some delays ∧
          report ∈ delays.map Prod.snd := by
  revert h
  unfold send KernelState.fromWorld
  rcases k.world.send pid envelope wantsFeedback sequence with ⟨result, w⟩
  intro h
  cases result with
  | error fault => exact Or.inl h
  | ok =>
      simp only at h
      split at h
      · next hfeedback =>
          split at h
          · next delays hdelays =>
              by_cases hn : n = sequence
              · rw [KernelState.lateReports, hn, Table.find?_insert_same] at h
                refine Or.inr ⟨hfeedback, hn, delays, hdelays, ?_⟩
                simpa [Timetable.startingAt] using h
              · rw [KernelState.lateReports, Table.find?_insert_of_ne hn] at h
                exact Or.inl h
          · exact Or.inl h
      · exact Or.inl h

/-- The reports that wait after a send waited before, or are the answer to it. -/
theorem mem_waiting_send {envelope : Envelope} {wantsFeedback : Bool}
    {sequence n : Sequence} {k : KernelState} {report : Feedback}
    (h : report ∈ (a.send pid envelope wantsFeedback sequence k).2.waiting pid n) :
    report ∈ k.waiting pid n ∨
      wantsFeedback = true ∧ n = sequence ∧ a.Answers k.world envelope report := by
  rcases List.mem_append.1 h with h | h
  · rw [world_send] at h
    rcases World.mem_dueReports_send h with h | ⟨hfeedback, hkey, h⟩
    · exact Or.inl (List.mem_append_left _ h)
    · exact Or.inr ⟨hfeedback, congrArg Prod.snd hkey, Or.inl h⟩
  · rcases mem_lateReports_send h with h | ⟨hfeedback, hn, h⟩
    · exact Or.inl (List.mem_append_right _ h)
    · exact Or.inr ⟨hfeedback, hn, Or.inr h⟩

theorem drains_effect (pid : Pid) (a : Adjustments) (use : KernelUse) (k : KernelState) :
    k.Drains (use.effect (a.kernel pid) k) :=
  KernelState.drains_of_exchange (exchange_effect pid a use k)

theorem notes_kernel : (a.kernel pid).Notes fun k => k.world.sent where
  send := by
    intro envelope wantsFeedback sequence k
    simp only [kernel, world_send]
    obtain ⟨_, _, _, hchanges⟩ :=
      World.send_changes pid envelope wantsFeedback sequence k.world
    rw [hchanges]
  reports := fun sequence k => (KernelState.drains_takeReports pid sequence k).sent
  use := fun use k => (drains_effect pid a use k).sent

end Adjustments

/-! ## Calls past the library -/

namespace KernelCall

/-- Whether a call hands an envelope to the kernel. -/
def isSend : KernelCall → Bool
  | send .. => true
  | _ => false

/-- A call that sends nothing looks at the kernel, uses it, or takes a report. -/
theorem drains_perform {call : KernelCall} (h : call.isSend = false) (pid : Pid)
    (a : Adjustments) (k : KernelState) :
    k.Drains (call.perform pid a k).2 := by
  have huse := fun use : KernelUse => Adjustments.drains_effect pid a use k
  cases call with
  | send => cases h
  | report sequence => exact KernelState.drains_takeReport pid sequence k
  | pending | peek | grantsOf | powerState => exact KernelState.drains_of_exchange rfl
  | receive timeout => exact huse (.receive timeout)
  | clear => exact huse .clear
  | sleep ms => exact huse (.sleep ms)
  | log line => exact huse (.log line)
  | acquire capabilities description seconds =>
      exact huse (.acquire capabilities description seconds)
  | release token => exact huse (.release token)
  | renew token seconds => exact huse (.renew token seconds)
  | portSend token => exact huse (.portSend token)
  | protectChildren emergencyOk => exact huse (.protectChildren emergencyOk)
  | powerOff kind reason flags message => exact huse (.powerOff kind reason flags message)
  | cancelPowerOff => exact huse .cancelPowerOff

end KernelCall

end Interprocess

import Interprocess.Proofs.Endpoint.Footprint
import Interprocess.Proofs.Endpoint.Query
import Interprocess.Proofs.Power.SaveWindow
import Interprocess.Proofs.Simulation.WorldEffect

/-!
# The budget of an exemption

A process that asks for an exemption is ready to poll for it many times and to sleep in between.
But the kernel has taken the request before the first poll, and then a poll always finds something.

**Input.**  A reachable session, of any kernel, and any budget that allows for one poll.

**Idea.**  Once a message was handed over, its record is neither pending nor sending, and without a
record the state is unknown.  So every poll decides (`exemptionOutcome_ne_undecided`).

**Results.**
* `run_awaitExemption`: the wait is one poll.
* `run_perform_of_exemption?`: what asking for an exemption comes to.
* `meter_of_exemption?`: how often it polls, and that it does not sleep.
* `exemption_ignores_budget`: the budget does not matter, and what decides instead.
-/

namespace Interprocess

variable {σ : Type}

/-! ## Time -/

/-- Whether a use of the kernel waits. -/
def KernelUse.waits : KernelUse → Bool
  | sleep _ | receive _ => true
  | _ => false

/-- Whether time passes only while a process waits. -/
structure Kernel.TimedByWaiting (K : Kernel σ) : Prop extends K.InstantSend where
  use : ∀ (use : KernelUse) k, use.waits = false → K.now (use.effect K k) = K.now k

theorem World.clock_onWorld {use : KernelUse} (h : use.waits = false) (pid : Pid)
    (oversleep : Nat) (w : World) :
    (use.onWorld pid oversleep w).clock = w.clock := by
  cases use with
  | sleep | receive => cases h
  | log | portSend | portClear | powerOff => rfl
  | broadcast | clear | protectChildren | acquire | release | renew | portReceive
  | cancelPowerOff =>
      simp only [KernelUse.onWorld, broadcast, clearMailbox, protectChildren, acquire, release,
        renew, portReceive, cancelPowerOff]
      split <;> rfl

/-- In a simulated kernel time passes only while a process waits. -/
theorem Adjustments.timedByWaiting_kernel (pid : Pid) (a : Adjustments) :
    (a.kernel pid).TimedByWaiting where
  toInstantSend := instantSend_kernel
  use := by
    intro use k h
    exact keeps_effect (Q := fun w => w.clock = k.world.clock)
      (fun _ => World.clock_onWorld h pid a.oversleep k.world) rfl

/-! ## Budgets and reports -/

/-- Whether an operation asks for an exemption, and then whether it ends in an emergency. -/
def Operation.exemption? : Operation → Option Bool
  | protectChildren emergencyOk => some emergencyOk
  | requestExemption _ => some false
  | _ => none

/-- Why a report that ends the record of a request refuses the exemption, if it does. -/
def Feedback.exemptionError? : Feedback → Option Error
  | deliveryFailed | lost => some .serviceUnavailable
  | permissionDenied => some .permissionDenied
  | _ => none

/-- What a process is told that found its request in a state. -/
def DeliveryState.exemptionVerdict (state : DeliveryState) : Except Error Unit :=
  match state.exemptionOutcome with
  | .refused error => .error error
  | .granted | .undecided => .ok ()

theorem DeliveryState.exemptionVerdict_ne_timeout (state : DeliveryState) :
    state.exemptionVerdict ≠ .error .timeout := by
  cases state <;> exact nofun

theorem Feedback.exemptionVerdict_eq_error_iff {report : Feedback} {error : Error} :
    report.reportedState.exemptionVerdict = .error error ↔
      report.exemptionError? = some error := by
  cases report <;>
    simp [reportedState, DeliveryState.exemptionVerdict, DeliveryState.exemptionOutcome,
      exemptionError?]

theorem Answer.ofDone_eq_error_iff {result : Except Error Unit} {error : Error} :
    ofDone result = .attempt (.error error) ↔ result = .error error := by
  cases result <;> simp [ofDone, ofAttempt, Except.map]

namespace Endpoint

/-- The same endpoint with another budget for exemptions. -/
def withBudget (retries poll : Nat) (e : Endpoint σ) : Endpoint σ :=
  { e with config := { e.config with exemptionRetries := retries, exemptionPoll := poll } }

variable {e : Endpoint σ} {s t : Session σ} {sequence : Sequence} {emergencyOk : Bool}

/-! ## Asking -/

section Keeps

variable {Q : σ → Prop} (hlog : ∀ line k, Q k → Q (e.kernel.log line k))
  (hbroadcast : ∀ envelope k, Q k → Q (e.kernel.broadcast envelope k).2)

include hbroadcast in
theorem keeps_broadcast (kind : MessageKind) (flags : UInt32) (payload : Bytes)
    (hs : Q s.kernel) :
    ∃ result k, Q k ∧
      (e.broadcast kind flags payload).run.run s = (result, { s with kernel := k }) := by
  unfold broadcast
  split
  · exact ⟨_, _, hs, rfl⟩
  · exact ⟨_, _, hbroadcast _ _ hs, rfl⟩

include hlog hbroadcast in
/-- What a line and a broadcast keep, an announcement keeps; and it changes nothing else. -/
theorem keeps_announceExemption (emergencyOk : Bool) (hs : Q s.kernel) :
    ∃ k, Q k ∧ (e.announceExemption emergencyOk).run s = ((), { s with kernel := k }) := by
  obtain ⟨result, k, hk, hrun⟩ := keeps_broadcast hbroadcast MessageKind.doNotKill 0
    (Utf8.encode (Announcement.doNotKillText emergencyOk e.pid)) hs
  unfold announceExemption
  rw [Act.run_bind, hrun]
  cases result with
  | ok => exact ⟨k, hk, rfl⟩
  | error error => exact ⟨_, hlog _ k hk, rfl⟩

end Keeps

/-! ## One poll -/

/-- A poll finds a record that was handed over, or none. -/
theorem exemptionOutcome_ne_undecided (h : e.InOrder s) (sequence : Sequence) :
    ((e.state sequence).run s).1.exemptionOutcome ≠ .undecided := by
  cases hfound : (e.apply (.query sequence) s).process.ledger.find? sequence with
  | none =>
      rw [e.state_eq_stateOf, Ledger.stateOf, hfound]
      exact ExemptionOutcome.noConfusion
  | some r =>
      have hsound := (e.inOrder_apply h (.query sequence)).sound
      obtain ⟨hpending, hsending⟩ :=
        (hsound.coherent r (hsound.find?_eq_some_iff.1 hfound).1).handed
      rw [e.state_eq_of_find? hfound]
      cases hstate : r.state with
      | pending => exact absurd hstate hpending
      | sending => exact absurd hstate hsending
      | _ => exact ExemptionOutcome.noConfusion

/-- The line that tells how a wait ended. -/
def exemptionLine (e : Endpoint σ) (emergencyOk : Bool) (state : DeliveryState) : String :=
  "[eclib] " ++ match state.exemptionOutcome with
    | .refused _ => "do-not-kill: refused state=" ++ state.name
    | .granted | .undecided => "do-not-kill: granted pid=" ++ Text.decimal e.pid.toNat ++
        " emergency_ok=" ++ (if emergencyOk then "true" else "false")

/-- One poll of a request: its record is looked at and dropped, and a line is written. -/
def pollOnce (e : Endpoint σ) (sequence : Sequence) (emergencyOk : Bool) (s : Session σ) :
    Except Error Unit × Session σ :=
  let looked := (e.state sequence).run s
  (looked.1.exemptionVerdict,
    { kernel := e.kernel.log (e.exemptionLine emergencyOk looked.1) looked.2.kernel
      process := (looked.2.process.forget sequence).2 })

/-- The wait for an exemption is one poll, however many are allowed. -/
theorem run_awaitExemption (h : e.InOrder s) (sequence : Sequence) (emergencyOk : Bool)
    (polls left : Nat) :
    (e.awaitExemption sequence emergencyOk polls (left + 1)).run.run s =
      e.pollOnce sequence emergencyOk s := by
  have hfound := exemptionOutcome_ne_undecided h sequence
  unfold awaitExemption pollOnce exemptionLine DeliveryState.exemptionVerdict
  rw [Attempt.run_bind, Attempt.run_lift]
  simp only
  cases houtcome : ((e.state sequence).run s).1.exemptionOutcome with
  | granted => rfl
  | refused error => rfl
  | undecided => exact absurd houtcome hfound

/-! ## The whole request -/

/-- The request for an exemption that is sent. -/
def sendExemption (e : Endpoint σ) : Attempt σ Sequence :=
  e.send e.config.kernelPid MessageKind.doNotKill (littleEndian 4 e.pid.toNat) true

/-- The session in which a taken request is polled for: all that came after the send is the
announcement. -/
def announced (e : Endpoint σ) (emergencyOk : Bool) (posted : Session σ) : Session σ :=
  ((e.announceExemption emergencyOk).run posted).2

theorem process_announced (e : Endpoint σ) (emergencyOk : Bool) (posted : Session σ) :
    (e.announced emergencyOk posted).process = posted.process := by
  obtain ⟨k, -, hrun⟩ := keeps_announceExemption (e := e) (s := posted) (Q := fun _ => True)
    (fun _ _ _ => trivial) (fun _ _ _ => trivial) emergencyOk trivial
  rw [announced, hrun]

/-- A request that was taken leaves a session in order. -/
theorem inOrder_announced (h : e.InOrder s)
    (hsent : e.sendExemption.run.run s = (.ok sequence, t)) (emergencyOk : Bool) :
    e.InOrder (e.announced emergencyOk t) := by
  have hposted := inOrder_posted h hsent
  have hprocess := process_announced e emergencyOk t
  exact ⟨hprocess ▸ hposted.sound, hprocess ▸ hposted.capacity⟩

/-- Asking goes through three steps, of which the first two may fail. -/
theorem run_askExemption (e : Endpoint σ) (emergencyOk : Bool) (s : Session σ) :
    (e.askExemption emergencyOk).run.run s =
      match e.kernel.protectChildren emergencyOk s.kernel with
      | (.error fault, k) => (.error (Error.ofKernelFault fault), { s with kernel := k })
      | (.ok (), k) =>
          match e.sendExemption.run.run { s with kernel := k } with
          | (.error error, t) => (.error error, t)
          | (.ok sequence, t) => (.ok sequence, e.announced emergencyOk t) := by
  unfold askExemption
  rw [Attempt.run_bind, Attempt.run_onKernel]
  rcases e.kernel.protectChildren emergencyOk s.kernel with ⟨fault | _, k⟩
  · rfl
  · simp only [Except.mapError]
    rw [Attempt.run_bind, sendExemption]
    rcases (e.send e.config.kernelPid MessageKind.doNotKill (littleEndian 4 e.pid.toNat)
      true).run.run { s with kernel := k } with ⟨error | sequence, t⟩ <;> rfl

section Asked

variable {k : σ}

theorem asked_of_fault {fault : KernelFault}
    (hprotect : e.kernel.protectChildren emergencyOk s.kernel = (.error fault, k)) :
    (e.askExemption emergencyOk).run.run s =
      (.error (.ofKernelFault fault), { s with kernel := k }) := by
  rw [run_askExemption, hprotect]

theorem asked_of_refused {error : Error}
    (hprotect : e.kernel.protectChildren emergencyOk s.kernel = (.ok (), k))
    (hsent : e.sendExemption.run.run { s with kernel := k } = (.error error, t)) :
    (e.askExemption emergencyOk).run.run s = (.error error, t) := by
  rw [run_askExemption, hprotect]
  simp only [hsent]

theorem asked_of_taken (hprotect : e.kernel.protectChildren emergencyOk s.kernel = (.ok (), k))
    (hsent : e.sendExemption.run.run { s with kernel := k } = (.ok sequence, t)) :
    (e.askExemption emergencyOk).run.run s = (.ok sequence, e.announced emergencyOk t) := by
  rw [run_askExemption, hprotect]
  simp only [hsent]

end Asked

/-- What asks with success went through all three steps. -/
theorem taken_of_askExemption
    (h : (e.askExemption emergencyOk).run.run s = (.ok sequence, t)) :
    ∃ k posted, e.kernel.protectChildren emergencyOk s.kernel = (.ok (), k) ∧
      e.sendExemption.run.run { s with kernel := k } = (.ok sequence, posted) ∧
      t = e.announced emergencyOk posted := by
  rw [run_askExemption] at h
  rcases hprotect : e.kernel.protectChildren emergencyOk s.kernel with ⟨fault | _, k⟩
  · rw [hprotect] at h
    cases h
  · rw [hprotect] at h
    simp only at h
    rcases hsent : e.sendExemption.run.run { s with kernel := k } with ⟨error | number, posted⟩
    · rw [hsent] at h
      cases h
    · rw [hsent] at h
      obtain ⟨hnumber, rfl⟩ := Prod.mk.inj h
      obtain rfl := Except.ok.inj hnumber
      exact ⟨k, posted, rfl, hsent, rfl⟩

/-- What asking for an exemption comes to, whatever its budget. -/
def exempted (e : Endpoint σ) (emergencyOk : Bool) (s : Session σ) :
    Except Error Unit × Session σ :=
  match (e.askExemption emergencyOk).run.run s with
  | (.error error, t) => (.error error, t)
  | (.ok sequence, t) => e.pollOnce sequence emergencyOk t

theorem inOrder_of_askExemption (h : e.InOrder s)
    (hasked : (e.askExemption emergencyOk).run.run s = (.ok sequence, t)) :
    e.InOrder t := by
  obtain ⟨k, posted, -, hsent, rfl⟩ := taken_of_askExemption hasked
  exact inOrder_announced (s := { s with kernel := k }) ⟨h.sound, h.capacity⟩ hsent emergencyOk

theorem run_obtainExemption (h : e.InOrder s) (emergencyOk : Bool) (polls : Nat) :
    (e.obtainExemption emergencyOk (polls + 1)).run.run s = e.exempted emergencyOk s := by
  rw [obtainExemption_eq, Attempt.run_bind, exempted]
  rcases hasked : (e.askExemption emergencyOk).run.run s with ⟨error | sequence, t⟩
  · rfl
  · exact run_awaitExemption (inOrder_of_askExemption h hasked) sequence emergencyOk _ polls

/-- An operation that asks for an exemption comes to the same with every budget. -/
theorem run_perform_of_exemption? (h : e.InOrder s) (hretries : 0 < e.config.exemptionRetries)
    {operation : Operation} (hoperation : operation.exemption? = some emergencyOk) :
    (e.perform operation).run s =
      (.ofDone (e.exempted emergencyOk s).1, (e.exempted emergencyOk s).2) := by
  have hobtained : ∀ polls, 0 < polls →
      (answeringDone (e.obtainExemption emergencyOk polls)).run s =
        (.ofDone (e.exempted emergencyOk s).1, (e.exempted emergencyOk s).2) := by
    intro polls hpolls
    refine run_answering_of_run ?_
    obtain ⟨polls, rfl⟩ := Nat.exists_eq_succ_of_ne_zero (Nat.ne_of_gt hpolls)
    exact run_obtainExemption h emergencyOk polls
  cases operation with
  | protectChildren emergencyOk =>
      obtain rfl := Option.some.inj hoperation
      exact hobtained _ hretries
  | requestExemption timeout =>
      obtain rfl := Option.some.inj hoperation
      exact hobtained _ (Nat.lt_of_lt_of_le Nat.zero_lt_one (Nat.le_max_left ..))
  | _ => cases hoperation

/-! ## What a request keeps -/

/-- What all requests of an exemption keep until the poll, and after it, the exemption keeps. -/
theorem keeps_exempted {Q : σ → Prop} {R : Sequence → σ → Prop} (emergencyOk : Bool)
    (hlog : ∀ line k, Q k → Q (e.kernel.log line k))
    (hprotect : ∀ k, Q k → Q (e.kernel.protectChildren emergencyOk k).2)
    (hsend : ∀ envelope wantsFeedback sequence k, Q k →
      Q (e.kernel.send envelope wantsFeedback sequence k).2)
    (hbroadcast : ∀ envelope k, Q k → Q (e.kernel.broadcast envelope k).2)
    (hreports : ∀ sequence k, Q k → R sequence (e.kernel.reports sequence k).2)
    (hlater : ∀ sequence line k, R sequence k → R sequence (e.kernel.log line k))
    (hs : Q s.kernel) :
    match ((e.askExemption emergencyOk).run.run s).1 with
    | .error _ => Q (e.exempted emergencyOk s).2.kernel
    | .ok sequence => R sequence (e.exempted emergencyOk s).2.kernel := by
  have hasked : Q ((e.askExemption emergencyOk).run.run s).2.kernel := by
    rw [run_askExemption]
    have hprotected := hprotect s.kernel hs
    revert hprotected
    rcases e.kernel.protectChildren emergencyOk s.kernel with ⟨fault | _, k⟩
    · exact id
    · intro hk
      have hsent : Q (e.sendExemption.run.run { s with kernel := k }).2.kernel :=
        keeps_sendWithTimeout hlog hsend _ _ _ _ _ hk
      revert hsent
      simp only
      rcases e.sendExemption.run.run { s with kernel := k } with ⟨error | number, posted⟩
      · exact id
      · intro hposted
        obtain ⟨k', hk', hannounced⟩ :=
          keeps_announceExemption (s := posted) hlog hbroadcast emergencyOk hposted
        have hsame : (e.announced emergencyOk posted).kernel = k' :=
          congrArg (fun r => r.2.kernel) hannounced
        exact hsame ▸ hk'
  unfold exempted
  revert hasked
  rcases (e.askExemption emergencyOk).run.run s with ⟨error | sequence, t⟩
  · exact id
  · intro ht
    refine hlater sequence _ _ ?_
    rw [run_state]
    exact keeps_logAll (hlater sequence) _ (hreports sequence _ ht)

/-- Asking follows, too. -/
theorem follows_askExemption {τ : Type} {plain : τ → σ} {K' : Kernel τ}
    (h : K'.Mirrors plain e.kernel) (emergencyOk : Bool) :
    Attempt.Follows plain ((e.withKernel K').askExemption emergencyOk)
      (e.askExemption emergencyOk) := by
  unfold askExemption
  refine (Attempt.follows_onKernel (h.protectChildren emergencyOk)).bind fun _ => ?_
  refine (follows_sendWithTimeout h _ _ _ _ _).bind fun sequence => ?_
  refine Attempt.Follows.bind ?_ fun _ => Attempt.follows_pure _
  exact Attempt.follows_lift (follows_announcement h fun _ => follows_log h _)

/-- All that a journal without transfers tells of a request for an exemption is that it polls once,
if it is taken. -/
theorem trace_of_exemption? {ν : Type} {note? : KernelEvent → Option ν}
    (hquiet : ∀ transfer, note? (.transfer transfer) = none) (h : e.InOrder s)
    (hretries : 0 < e.config.exemptionRetries) {operation : Operation}
    (hoperation : operation.exemption? = some emergencyOk) :
    e.trace note? operation s =
      match ((e.askExemption emergencyOk).run.run s).1 with
      | .error _ => []
      | .ok sequence => (note? (.poll sequence)).toList := by
  have hunnoted : ∀ {transfer : Transfer} (j : Journaled ν σ), j.journal = [] →
      (j.enter (note? (.transfer transfer))).journal = [] := by
    intro transfer j hj
    rw [hquiet]
    exact hj
  have hrun := run_perform_of_exemption? (e := e.noting note?) (s := journalBegun s)
    ⟨h.sound, h.capacity⟩ hretries hoperation
  have hkept := keeps_exempted (e := e.noting note?) (s := journalBegun s) emergencyOk
    (Q := fun j => j.journal = [])
    (R := fun sequence j => j.journal = (note? (.poll sequence)).toList)
    (fun _ _ hj => hj) (fun _ hj => hj) (fun _ _ _ _ hj => hunnoted _ hj)
    (fun _ _ hj => hunnoted _ hj)
    (fun sequence _ hj => (Journaled.journal_enter _ _).trans (congrArg (· ++ _) hj))
    (fun _ _ _ hj => hj) rfl
  have hasked : ((e.askExemption emergencyOk).run.run s).1 =
      (((e.noting note?).askExemption emergencyOk).run.run (journalBegun s)).1 :=
    congrArg Prod.fst
      (follows_askExemption (e.kernel.mirrors_noting note?) emergencyOk (journalBegun s))
  rw [trace, hrun, hasked]
  revert hkept
  rcases (((e.noting note?).askExemption emergencyOk).run.run (journalBegun s)).1 with
    error | sequence <;> exact id

/-- A request for an exemption polls once if it is taken, and does not sleep. -/
theorem meter_of_exemption? (h : e.InOrder s) (hretries : 0 < e.config.exemptionRetries)
    {operation : Operation} (hoperation : operation.exemption? = some emergencyOk) :
    e.naps operation s = [] ∧
      e.polls operation s =
        match ((e.askExemption emergencyOk).run.run s).1 with
        | .error _ => []
        | .ok sequence => [sequence] := by
  constructor
  · refine (trace_of_exemption? (fun _ => rfl) h hretries hoperation).trans ?_
    split <;> rfl
  · exact trace_of_exemption? (fun _ => rfl) h hretries hoperation

/-- No time passes while an exemption is asked for. -/
theorem now_exempted (hkernel : e.kernel.TimedByWaiting) (emergencyOk : Bool) (s : Session σ) :
    e.kernel.now (e.exempted emergencyOk s).2.kernel = e.kernel.now s.kernel := by
  have hkept := keeps_exempted (e := e) (s := s) emergencyOk
    (Q := fun k => e.kernel.now k = e.kernel.now s.kernel)
    (R := fun _ k => e.kernel.now k = e.kernel.now s.kernel)
    (fun _ _ hk => (hkernel.log _ _).trans hk)
    (fun k hk => (hkernel.use (.protectChildren emergencyOk) k rfl).trans hk)
    (fun _ _ _ _ hk => (hkernel.send _ _ _ _).trans hk)
    (fun envelope k hk => (hkernel.use (.broadcast envelope) k rfl).trans hk)
    (fun _ _ hk => (hkernel.reports _ _).trans hk) (fun _ _ _ hk => (hkernel.log _ _).trans hk) rfl
  revert hkept
  rcases ((e.askExemption emergencyOk).run.run s).1 with error | sequence <;> exact id

/-! ## What decides -/

/-- Whether the first of these reports that ends the record of a request refuses it. -/
def RefusedBy (reports : List Feedback) (error : Error) : Prop :=
  ∃ before report later, reports = before ++ report :: later ∧
    Feedback.Undecided .sent before ∧ report.IsDecisive .sent before ∧
    report.exemptionError? = some error

/-- A request is refused by the reports that its poll finds, if its record was retained. -/
theorem verdict_eq_error_iff {record : SentRecord} (h : e.InOrder s)
    (hrecord : s.process.ledger.find? sequence = some record) (hsent : record.state = .sent)
    (error : Error) :
    ((e.state sequence).run s).1.exemptionVerdict = .error error ↔
      RefusedBy (e.kernel.reports sequence s.kernel).1 error := by
  have hfinds := finds_state h sequence
  constructor
  · intro hrefused
    rcases hfinds.first_or_undecided .sent with hundecided | ⟨before, report, later, hsplit,
      hbefore, hreport⟩
    · obtain ⟨-, hstate⟩ := hfinds.undecided record hrecord (Or.inl hsent)
        (hsent ▸ hundecided)
      rw [hstate] at hrefused
      revert hrefused
      split
      · exact nofun
      · split <;> exact nofun
    · obtain ⟨-, hstate⟩ := hfinds.decided record before report later hrecord (Or.inl hsent)
        hsplit (hsent ▸ hbefore) (hsent ▸ hreport)
      rw [hstate] at hrefused
      exact ⟨before, report, later, hsplit, hbefore, hreport,
        Feedback.exemptionVerdict_eq_error_iff.1 hrefused⟩
  · rintro ⟨before, report, later, hsplit, hbefore, hreport, herror⟩
    obtain ⟨-, hstate⟩ := hfinds.decided record before report later hrecord (Or.inl hsent)
      hsplit (hsent ▸ hbefore) (hsent ▸ hreport)
    rw [hstate]
    exact Feedback.exemptionVerdict_eq_error_iff.2 herror

theorem ne_timeout_of_sendWithTimeout {receiver : Pid} {kind : MessageKind} {payload : Bytes}
    {wantsFeedback : Bool} {timeout : Nat} {error : Error}
    (h : (e.sendWithTimeout receiver kind payload wantsFeedback timeout).run.run s =
      (.error error, t)) :
    error ≠ .timeout := by
  unfold sendWithTimeout at h
  split at h
  · obtain rfl := Except.error.inj (congrArg Prod.fst h)
    exact Error.noConfusion
  · split at h
    · obtain rfl := Except.error.inj (congrArg Prod.fst h)
      exact Error.noConfusion
    · rw [run_post] at h
      simp only at h
      split at h
      · cases h
      · next fault _ =>
          obtain rfl := Except.error.inj (congrArg Prod.fst h)
          cases fault <;> exact Error.noConfusion


/-- No request for an exemption runs out of time. -/
theorem exempted_ne_timeout (e : Endpoint σ) (emergencyOk : Bool) (s : Session σ) :
    (e.exempted emergencyOk s).1 ≠ .error .timeout := by
  unfold exempted
  rcases hprotect : e.kernel.protectChildren emergencyOk s.kernel with ⟨fault | _, k⟩
  · rw [asked_of_fault hprotect]
    cases fault <;> exact nofun
  · rcases hsent : e.sendExemption.run.run { s with kernel := k } with ⟨error | number, t⟩
    · rw [asked_of_refused hprotect hsent]
      intro htimeout
      exact ne_timeout_of_sendWithTimeout hsent (Except.error.inj htimeout)
    · rw [asked_of_taken hprotect hsent]
      exact DeliveryState.exemptionVerdict_ne_timeout _

/-! ## The budget -/

theorem inOrder_withBudget (h : e.InOrder s) (retries poll : Nat) :
    (e.withBudget retries poll).InOrder s :=
  ⟨h.sound, h.capacity⟩

/-- A request that was taken is polled for once, and then refused or granted. -/
theorem verdict_of_sent (h : e.InOrder s)
    (hsent : e.sendExemption.run.run s = (.ok sequence, t)) (emergencyOk : Bool) (error : Error) :
    ((e.state sequence).run (e.announced emergencyOk t)).1.exemptionVerdict = .error error ↔
      t.process.ledger.find? sequence ≠ none ∧
        RefusedBy (e.kernel.reports sequence (e.announced emergencyOk t).kernel).1 error := by
  have horder := inOrder_announced h hsent emergencyOk
  have hprocess := process_announced e emergencyOk t
  -- Without a record no report is seen: what the poll finds is granted.
  by_cases hgone : t.process.ledger.find? sequence = none
  · rw [state_eq_unknown horder (hprocess ▸ hgone)]
    constructor
    · exact nofun
    · exact fun hrefused => absurd hgone hrefused.1
  · obtain ⟨-, hrecord⟩ := tracked_posted h hsent hgone
    rw [verdict_eq_error_iff horder (hprocess ▸ hrecord) rfl error]
    exact (and_iff_right hgone).symm

/-- After its one poll nothing is known of a request. -/
theorem gone_after_pollOnce (h : e.InOrder s) (hgiven : sequence < s.process.nextSequence)
    {later : Session σ} (hlater : e.Continues (e.pollOnce sequence emergencyOk s).2 later) :
    ((e.state sequence).run later).1 = .unknown := by
  have hlooked := e.inOrder_apply h (.query sequence)
  have hpolled : e.InOrder (e.pollOnce sequence emergencyOk s).2 := by
    have hforgot := e.inOrder_apply hlooked (.forget sequence)
    exact ⟨hforgot.sound, hforgot.capacity⟩
  have hgone : (e.pollOnce sequence emergencyOk s).2.process.ledger.find? sequence = none :=
    (hlooked.sound.find?_erase sequence sequence).trans (if_pos rfl)
  have hstill : sequence < (e.pollOnce sequence emergencyOk s).2.process.nextSequence :=
    Nat.lt_of_lt_of_le hgiven (e.nextSequence_le_apply (.query sequence) s)
  exact state_eq_unknown (hlater.inOrder hpolled)
    ((hlater.lasting hpolled sequence).gone hstill hgone)

/-- **The budget of an exemption.**  In any reachable session, an operation that asks for an
exemption answers the same and leaves the same behind with every budget that allows for one poll.
It does not sleep, it does not run out of time, and no time passes if time passes in waiting only.
It fails if the kernel does not protect the children, and it fails if the request cannot be sent.
Otherwise it polls once, and fails exactly if the record of the request was retained and the
reports that the poll finds refuse it; later reports are reports about a sequence that is
unknown. -/
theorem exemption_ignores_budget (h : e.Reachable s) (hretries : 0 < e.config.exemptionRetries)
    {operation : Operation} (hoperation : operation.exemption? = some emergencyOk) :
    let ended := (e.perform operation).run s
    let protection := e.kernel.protectChildren emergencyOk s.kernel
    let sent := e.sendExemption.run.run { s with kernel := protection.2 }
    let polled := e.announced emergencyOk sent.2
    let sequence := s.process.nextSequence
    (∀ retries poll other, 0 < retries → other.exemption? = some emergencyOk →
        ((e.withBudget retries poll).perform other).run s = ended) ∧
      ended.1 ≠ .attempt (.error .timeout) ∧
      e.naps operation s = [] ∧
      (e.kernel.TimedByWaiting → e.kernel.now ended.2.kernel = e.kernel.now s.kernel) ∧
      (∀ fault, protection.1 = .error fault →
        e.polls operation s = [] ∧
          ended = (.attempt (.error (.ofKernelFault fault)), { s with kernel := protection.2 })) ∧
      (∀ error, protection.1 = .ok () → sent.1 = .error error →
        e.polls operation s = [] ∧ ended = (.attempt (.error error), sent.2)) ∧
      (∀ number, protection.1 = .ok () → sent.1 = .ok number →
        number = sequence ∧
          e.polls operation s = [sequence] ∧
          (∀ error, ended.1 = .attempt (.error error) ↔
            sent.2.process.ledger.find? sequence ≠ none ∧
              RefusedBy (e.kernel.reports sequence polled.kernel).1 error) ∧
          ((∃ error, ended.1 = .attempt (.error error)) ∨ ended.1 = .attempt (.ok .nothing)) ∧
          ∀ later, e.Continues ended.2 later → ((e.state sequence).run later).1 = .unknown) := by
  intro ended protection sent polled sequence
  have horder := h.inOrder
  have hended : ended = (.ofDone (e.exempted emergencyOk s).1, (e.exempted emergencyOk s).2) :=
    run_perform_of_exemption? horder hretries hoperation
  obtain ⟨hnaps, hpolls⟩ := meter_of_exemption? horder hretries hoperation
  have hfault : ∀ fault, protection.1 = .error fault →
      (e.askExemption emergencyOk).run.run s =
        (.error (.ofKernelFault fault), { s with kernel := protection.2 }) :=
    fun fault hprotect => asked_of_fault (Prod.ext hprotect rfl)
  have hrefused : ∀ error, protection.1 = .ok () → sent.1 = .error error →
      (e.askExemption emergencyOk).run.run s = (.error error, sent.2) :=
    fun error hprotect hsent => asked_of_refused (Prod.ext hprotect rfl) (Prod.ext hsent rfl)
  have htaken : ∀ number, protection.1 = .ok () → sent.1 = .ok number →
      (e.askExemption emergencyOk).run.run s = (.ok number, polled) :=
    fun number hprotect hsent => asked_of_taken (Prod.ext hprotect rfl) (Prod.ext hsent rfl)
  refine ⟨?_, ?_, hnaps, ?_, ?_, ?_, ?_⟩
  · intro retries poll other hpositive hother
    rw [hended]
    exact run_perform_of_exemption? (e := e.withBudget retries poll)
      (inOrder_withBudget horder retries poll) hpositive hother
  · rw [hended]
    exact mt Answer.ofDone_eq_error_iff.1 (exempted_ne_timeout e emergencyOk s)
  · intro hkernel
    rw [hended]
    exact now_exempted hkernel emergencyOk s
  · intro fault hprotect
    rw [hended, hpolls, exempted, hfault fault hprotect]
    exact ⟨rfl, rfl⟩
  · intro error hprotect hsent
    rw [hended, hpolls, exempted, hrefused error hprotect hsent]
    exact ⟨rfl, rfl⟩
  · intro number hprotect hsent
    have hsend : e.sendExemption.run.run { s with kernel := protection.2 } = (.ok number, sent.2) :=
      Prod.ext hsent rfl
    have hprotected : e.InOrder { s with kernel := protection.2 } := ⟨horder.sound, horder.capacity⟩
    have hnumber : number = sequence :=
      eq_nextSequence_of_sendWithTimeout (s := { s with kernel := protection.2 }) hsend
    rw [hnumber] at hsent hsend
    have hgiven : sequence < polled.process.nextSequence := by
      rw [process_announced, process_posted hprotected hsend]
      exact Nat.lt_succ_self sequence
    rw [hended, hpolls, exempted, htaken sequence hprotect hsent]
    refine ⟨hnumber, rfl, fun error => ?_, ?_, fun later hlater => ?_⟩
    · exact Answer.ofDone_eq_error_iff.trans
        (verdict_of_sent hprotected hsend emergencyOk error)
    · rcases (e.pollOnce sequence emergencyOk polled).1 with error | _
      · exact Or.inl ⟨error, rfl⟩
      · exact Or.inr rfl
    · exact gone_after_pollOnce (inOrder_announced hprotected hsend emergencyOk) hgiven hlater

/-- The kernel denies the exemption, but it says so after a millisecond. -/
theorem exemption_ignores_late_denial :
    let station : Station := { Station.start 7 Config.standard with
      adjustments := { Adjustments.none with delays := [(Pid.kernel, [(1, .permissionDenied)])] } }
    let e := station.endpoint
    let s := station.session { World.start with responders := [(Pid.kernel, .silent)] }
    let ended := (e.perform (.requestExemption 5000)).run s
    let denied := { ended.2 with
      kernel := { ended.2.kernel with world := { ended.2.kernel.world with clock := 1 } } }
    ((e.withBudget 1 0).perform (.requestExemption 0)).run s = ended ∧
      ended.1 = .ofDone (.ok ()) ∧ e.polls (.requestExemption 5000) s = [1] ∧
      ended.2.kernel.world.clock = s.kernel.world.clock ∧
      (e.kernel.reports 1 denied.kernel).1 = [.permissionDenied] ∧
      ((e.state 1).run denied).1 = .unknown := by
  intro station e s ended denied
  have hreachable : e.Reachable s := ⟨s.kernel, Relation.ReflTransGen.refl⟩
  have hoperation : (Operation.requestExemption 5000).exemption? = some false := rfl
  obtain ⟨hbudget, -, -, hclock, -, -, htaken⟩ :=
    exemption_ignores_budget hreachable (by decide) hoperation
  obtain ⟨-, hpolls, hrefused, hdone, hlater⟩ := htaken 1 (by decide +kernel) (by decide +kernel)
  have hgranted : ended.1 = .ofDone (.ok ()) := by
    refine hdone.resolve_left ?_
    rintro ⟨error, herror⟩
    obtain ⟨before, report, later, hreports, -⟩ := ((hrefused error).1 herror).2
    have hnothing : before ++ report :: later = [] := hreports.symm.trans (by decide +kernel)
    exact List.append_ne_nil_of_right_ne_nil before (List.cons_ne_nil report later) hnothing
  refine ⟨hbudget 1 0 (.requestExemption 0) (by decide) rfl, hgranted, hpolls,
    hclock (Adjustments.timedByWaiting_kernel 7 _), by decide +kernel, ?_⟩
  exact hlater denied (Relation.ReflTransGen.single (.outside _ _))

end Endpoint

end Interprocess

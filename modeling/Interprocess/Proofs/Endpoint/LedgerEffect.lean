import Interprocess.Proofs.Delivery.Entry
import Interprocess.Proofs.Endpoint.Move

/-!
# What a move does to the ledger

Only four kinds of moves change a ledger.  A send enters a record, a query maps every
record, and the two others drop one record or all of them.  A send changes its record three
times, once before and twice around the request to the kernel; in a sound ledger the sum of
this is a single entry.

**Input.**  A session in order (`Endpoint.InOrder`): its ledger is sound, and has the
capacity that was configured.

**Results.**
* `ledger_post`: a send enters a record that was handed over, or drops it for lack of room.
* `process_query`, `find?_query_self`: a query lets the record that it asks about absorb the
  reports, and settles every record.
* `ledgerEffect_apply`: what each move does to the ledger.
* `inOrder_apply`: a move keeps a session in order.
-/

namespace Interprocess

namespace SentRecord

/-- The record after a query of `sequence` at `now` that found `reports`. -/
def reviewed (sequence : Sequence) (reports : List Feedback) (now : Nat) (r : SentRecord) :
    SentRecord :=
  (if r.sequence = sequence then absorbAll reports r else r).settle now

theorem grows_reviewed {r : SentRecord} (h : r.Coherent) (sequence : Sequence)
    (reports : List Feedback) (now : Nat) :
    Grows r (r.reviewed sequence reports now) := by
  unfold reviewed
  split
  · have habsorbed := (h.absorbAll reports).handed
    exact (grows_absorbAll reports r).trans (grows_settle now habsorbed)
  · exact grows_settle now h.handed

theorem Coherent.reviewed {r : SentRecord} (h : r.Coherent) (sequence : Sequence)
    (reports : List Feedback) (now : Nat) :
    (r.reviewed sequence reports now).Coherent := by
  unfold SentRecord.reviewed
  split
  · exact (h.absorbAll reports).settle now
  · exact h.settle now

theorem reviewed_sequence (sequence : Sequence) (reports : List Feedback) (now : Nat)
    (r : SentRecord) :
    (r.reviewed sequence reports now).sequence = r.sequence := by
  unfold reviewed
  rw [settle_sequence]
  split
  · exact (grows_absorbAll reports r).sequence
  · rfl

/-- The response after a query was there before, or was reported. -/
theorem response_reviewed {r : SentRecord} (h : r.Coherent) {sequence : Sequence}
    {reports : List Feedback} {now : Nat} {bytes : Bytes}
    (hresponse : (r.reviewed sequence reports now).response = some bytes) :
    r.response = some bytes ∨ r.sequence = sequence ∧ .received bytes ∈ reports := by
  unfold reviewed at hresponse
  rw [response_settle] at hresponse
  split at hresponse
  · next hsequence =>
      cases hkept : r.response with
      | none => exact Or.inr ⟨hsequence, received_mem_of_absorbAll hkept hresponse⟩
      | some kept =>
          have hreceived := h.answered.1 (Option.isSome_iff_exists.2 ⟨kept, hkept⟩)
          rw [absorbAll_of_isTerminal (by rw [hreceived]; rfl), hkept] at hresponse
          exact Or.inl hresponse
  · exact Or.inl hresponse

/-- The record of a message right after its hand-over. -/
def handedOver (sequence : Sequence) (destination : Pid) (kind : MessageKind)
    (now timeout : Nat) (outcome : DeliveryState) : SentRecord :=
  { start sequence destination kind now timeout with state := outcome }

theorem coherent_handedOver {outcome : DeliveryState}
    (houtcome : outcome = .sent ∨ outcome = .sentFailed) (sequence : Sequence)
    (destination : Pid) (kind : MessageKind) (now timeout : Nat) :
    (handedOver sequence destination kind now timeout outcome).Coherent := by
  rcases houtcome with rfl | rfl
  · exact ⟨by simp [DeliveryState.IsHandedOver, handedOver], by simp [handedOver, start]⟩
  · exact ⟨by simp [DeliveryState.IsHandedOver, handedOver], by simp [handedOver, start]⟩

end SentRecord

/-- The state in which a hand-over ends. -/
def handOverState {α : Type} : Except Error α → DeliveryState
  | .ok _ => .sent
  | .error _ => .sentFailed

theorem handOverState_eq {α : Type} (result : Except Error α) :
    handOverState result = .sent ∨ handOverState result = .sentFailed := by
  cases result with
  | ok a => exact Or.inl rfl
  | error error => exact Or.inr rfl

namespace Process

variable {p : Process}

theorem ledger_notify (notice : Envelope) (p : Process) :
    (p.notify notice).2.ledger = p.ledger := by
  unfold notify
  split <;> rfl

/-- What a query does to a process. -/
theorem review_eq (h : p.ledger.Sound p.nextSequence) (sequence : Sequence)
    (reports : List Feedback) (now : Nat) :
    (p.review sequence reports now).2 =
      { p with ledger := { p.ledger with
          records := p.ledger.records.map (SentRecord.reviewed sequence reports now) } } := by
  have hreports := Ledger.applyReports_eq sequence reports p.ledger
  rw [Ledger.update, SentRecord.updateFirst_eq_map _ h.increasing] at hreports
  simp only [review, Ledger.expire, hreports, List.map_map]
  rfl

/-- To enter a record and to mark it as sent or refused is to enter the marked record. -/
theorem enroll_mark (h : p.ledger.Sound p.nextSequence) (destination : Pid)
    (kind : MessageKind) (now timeout : Nat) (outcome : DeliveryState)
    (houtcome : outcome = .sent ∨ outcome = .sentFailed) :
    let enrolled := p.enroll destination kind now timeout
    (if enrolled.1.2 then enrolled.2.mark enrolled.1.1 outcome else enrolled.2) =
      { p with
        nextSequence := p.nextSequence + 1
        ledger := p.ledger.enter
          (SentRecord.handedOver p.nextSequence destination kind now timeout outcome) now } := by
  cases hroom : p.ledger.room? now with
  | none =>
      have hfull := Ledger.insert?_eq
        (SentRecord.start p.nextSequence destination kind now timeout) now p.ledger
      rw [hroom, Option.map_none] at hfull
      rw [Ledger.enter_of_room?_eq_none hroom]
      simp [enroll, hfull]
  | some kept =>
      have hentered := Ledger.insert?_eq
        (SentRecord.start p.nextSequence destination kind now timeout) now p.ledger
      rw [hroom, Option.map_some] at hentered
      have hsum := Ledger.enter_advance h hentered houtcome
      simpa [enroll, hentered, mark, SentRecord.handedOver] using hsum

end Process

namespace Endpoint

variable {σ : Type} (e : Endpoint σ)

/-- What holds of a session between two operations: the ledger is sound, and has the capacity
that was configured. -/
structure InOrder (s : Session σ) : Prop where
  sound : s.process.ledger.Sound s.process.nextSequence
  capacity : s.process.ledger.capacity = e.config.ledgerCapacity

theorem inOrder_start (k : σ) :
    e.InOrder { kernel := k, process := Process.start e.config } where
  sound := Ledger.sound_empty e.config.ledgerCapacity 1
  capacity := rfl

theorem ledger_refused (s : Session σ) (envelope : Envelope) (wantsFeedback tracked : Bool)
    (fault : SendFault) :
    (e.refused s envelope wantsFeedback tracked fault).2.ledger =
      (if tracked then s.process.mark envelope.sequence .sentFailed else s.process).ledger := by
  unfold refused
  cases wantsFeedback with
  | true => exact Process.ledger_notify _ _
  | false => rfl

/-- **A send enters the record of a message that was handed over**, if there is room. -/
theorem ledger_post {s : Session σ} (h : s.process.ledger.Sound s.process.nextSequence)
    (receiver : Pid) (kind : MessageKind) (payload : Bytes) (wantsFeedback : Bool)
    (timeout : Nat) :
    let posted := (e.post receiver kind payload wantsFeedback timeout).run.run s
    posted.2.process.ledger =
      s.process.ledger.enter
        (SentRecord.handedOver s.process.nextSequence receiver kind
          (e.kernel.now s.kernel) timeout (handOverState posted.1))
        (e.kernel.now s.kernel) := by
  have hsum := Process.enroll_mark h receiver kind (e.kernel.now s.kernel) timeout
  rw [run_post]
  simp only
  split
  · exact congrArg Process.ledger (hsum .sent (Or.inl rfl))
  · rw [run_refuse]
    refine (e.ledger_refused _ _ _ _ _).trans ?_
    exact congrArg Process.ledger (hsum .sentFailed (Or.inr rfl))

/-- What a query does to a session. -/
theorem process_query {s : Session σ} (h : s.process.ledger.Sound s.process.nextSequence)
    (sequence : Sequence) :
    let taken := e.kernel.reports sequence s.kernel
    (e.apply (.query sequence) s).process =
      { s.process with ledger := { s.process.ledger with
          records := s.process.ledger.records.map
            (SentRecord.reviewed sequence taken.1 (e.kernel.now taken.2)) } } := by
  simp only [apply, run_state]
  exact Process.review_eq h sequence _ _

/-- What a query does to the record that it asks about. -/
theorem find?_query_self {s : Session σ} (h : s.process.ledger.Sound s.process.nextSequence)
    (sequence : Sequence) :
    let taken := e.kernel.reports sequence s.kernel
    (e.apply (.query sequence) s).process.ledger.find? sequence =
      (s.process.ledger.find? sequence).map fun r =>
        (SentRecord.absorbAll taken.1 r).settle (e.kernel.now taken.2) := by
  intro taken
  rw [e.process_query h, Ledger.find?_map (SentRecord.reviewed_sequence sequence _ _)]
  cases hfind : s.process.ledger.find? sequence with
  | none => rfl
  | some r =>
      have hsequence := Ledger.find?_eq_some_sequence hfind
      simp only [Option.map_some, SentRecord.reviewed, hsequence, if_true, taken]

/-- What a query answers is the state that the ledger then holds. -/
theorem state_eq_stateOf (sequence : Sequence) (s : Session σ) :
    ((e.state sequence).run s).1 =
      (e.apply (.query sequence) s).process.ledger.stateOf sequence := by
  simp only [apply, run_state]
  rfl

theorem state_eq_of_find? {sequence : Sequence} {s : Session σ} {r : SentRecord}
    (h : (e.apply (.query sequence) s).process.ledger.find? sequence = some r) :
    ((e.state sequence).run s).1 = r.state := by
  rw [state_eq_stateOf, Ledger.stateOf, h]

/-- What a move may do to the ledger `l` of a session, in which `next` is the next sequence
and the clock shows `now`: a send enters a record, a query maps the records, and other moves
drop one record, all or none. -/
inductive LedgerEffect (next : Sequence) (now : Nat) (l : Ledger) : Move → Ledger → Prop
  | entered (receiver : Pid) (kind : MessageKind) (payload : Bytes) (wantsFeedback : Bool)
      (timeout : Nat) {outcome : DeliveryState}
      (houtcome : outcome = .sent ∨ outcome = .sentFailed) :
      LedgerEffect next now l (.post receiver kind payload wantsFeedback timeout)
        (l.enter (SentRecord.handedOver next receiver kind now timeout outcome) now)
  | reviewed (sequence : Sequence) (reports : List Feedback) (later : Nat) :
      LedgerEffect next now l (.query sequence)
        { l with records := l.records.map (SentRecord.reviewed sequence reports later) }
  | erased (sequence : Sequence) :
      LedgerEffect next now l (.forget sequence) (l.erase sequence)
  | cleared : LedgerEffect next now l .shutdownLedger l.clear
  | kept (move : Move) : LedgerEffect next now l move l

/-- **What a move does to the ledger.** -/
theorem ledgerEffect_apply {s : Session σ}
    (h : s.process.ledger.Sound s.process.nextSequence) (move : Move) :
    LedgerEffect s.process.nextSequence (e.kernel.now s.kernel) s.process.ledger move
      (e.apply move s).process.ledger := by
  cases move with
  | post receiver kind payload wantsFeedback timeout =>
      have hledger := e.ledger_post h receiver kind payload wantsFeedback timeout
      rw [apply, hledger]
      exact .entered receiver kind payload wantsFeedback timeout (handOverState_eq _)
  | query sequence =>
      rw [e.process_query h]
      exact .reviewed sequence _ _
  | forget sequence => exact .erased sequence
  | shutdownLedger => exact .cleared
  | takeNotice =>
      simp only [apply, Process.nextNotice]
      split <;> exact .kept _
  | registerHandler handler userData =>
      simp only [apply, Process.registerHandler]
      split <;> exact .kept _
  | unregisterHandler handler =>
      simp only [apply, Process.unregisterHandler]
      split <;> exact .kept _
  | dropNotices | openWindow | closeWindow | useKernel => exact .kept _

/-- A response in the ledger was there before, or was reported to a query of its sequence. -/
theorem response_apply {s : Session σ} (h : s.process.ledger.Sound s.process.nextSequence)
    {move : Move} {r : SentRecord} (hr : r ∈ (e.apply move s).process.ledger.records)
    {bytes : Bytes} (hresponse : r.response = some bytes) :
    (∃ old ∈ s.process.ledger.records, old.sequence = r.sequence ∧
        old.response = some bytes) ∨
      move = .query r.sequence ∧
        .received bytes ∈ (e.kernel.reports r.sequence s.kernel).1 := by
  by_cases hquery : ∃ sequence, move = .query sequence
  · obtain ⟨sequence, rfl⟩ := hquery
    rw [e.process_query h] at hr
    obtain ⟨old, hold, rfl⟩ := List.mem_map.1 hr
    rw [SentRecord.reviewed_sequence]
    rcases SentRecord.response_reviewed (h.coherent old hold) hresponse with
      hkept | ⟨rfl, hreported⟩
    · exact Or.inl ⟨old, hold, rfl, hkept⟩
    · exact Or.inr ⟨rfl, hreported⟩
  · have heffect := e.ledgerEffect_apply h move
    generalize (e.apply move s).process.ledger = l at heffect hr
    refine Or.inl ⟨r, ?_, rfl, hresponse⟩
    cases heffect with
    | entered =>
        rcases Ledger.mem_enter h.within hr with hold | rfl
        · exact hold
        · cases hresponse
    | reviewed sequence => exact absurd ⟨sequence, rfl⟩ hquery
    | erased => exact List.eraseP_sublist.mem hr
    | cleared => cases hr
    | kept => exact hr

/-- **A move keeps a session in order.** -/
theorem inOrder_apply {s : Session σ} (h : e.InOrder s) (move : Move) :
    e.InOrder (e.apply move s) := by
  obtain ⟨hsound, hcapacity⟩ := h
  have hlater := e.nextSequence_le_apply move s
  have heffect := e.ledgerEffect_apply hsound move
  generalize hledger : (e.apply move s).process.ledger = l at heffect
  refine ⟨?_, ?_⟩
  · rw [hledger]
    cases heffect with
    | entered receiver kind payload wantsFeedback timeout houtcome =>
        have hcoherent := SentRecord.coherent_handedOver houtcome s.process.nextSequence
          receiver kind (e.kernel.now s.kernel) timeout
        rw [apply, nextSequence_post]
        exact hsound.enter rfl hcoherent _
    | reviewed sequence reports later =>
        refine (hsound.map ?_ ?_).mono hlater
        · exact SentRecord.reviewed_sequence sequence reports later
        · exact fun r hr => hr.reviewed sequence reports later
    | erased sequence => exact (hsound.erase sequence).mono hlater
    | cleared => exact (Ledger.sound_empty _ _).mono hlater
    | kept => exact hsound.mono hlater
  · rw [hledger, ← hcapacity]
    cases heffect with
    | entered receiver kind payload wantsFeedback timeout houtcome =>
        exact Ledger.capacity_enter _ _ _
    | reviewed | erased | cleared | kept => rfl

theorem Walk.inOrder {e : Endpoint σ} {allowed : Move → Prop} {s t : Session σ}
    (hwalk : e.Walk allowed s t) (h : e.InOrder s) :
    e.InOrder t := by
  induction hwalk with
  | refl => exact h
  | tail _ hmove ih =>
      obtain ⟨move, _, rfl⟩ := hmove
      exact e.inOrder_apply ih move

end Endpoint

end Interprocess

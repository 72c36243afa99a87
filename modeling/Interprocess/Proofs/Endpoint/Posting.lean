import Interprocess.Proofs.Endpoint.History
import Interprocess.Proofs.Endpoint.Transcript

/-!
# What a send leaves behind

A message that a process posts is handed to the kernel once.  If the kernel refuses it and reports
were asked for, a notice of that goes to the inbox, as long as there is room.  This module says so
for a journaled kernel, where what was handed over can be seen, and carries it over to whole
operations.

**Results.**
* `run_post_journaled`: what one send adds to the journal, what it answers, and what it does to the
  inbox.
* `sends_of_walk`: nothing else is a send.
* `inbox_perform`: an operation takes out of the inbox what it is there to take, and puts in the
  notices of its transcript that find room.
-/

namespace Interprocess

variable {σ : Type}

namespace Transfer

/-- Whether an envelope was handed over for a single process. -/
def isSend : Transfer → Bool
  | send .. => true
  | _ => false

/-- The notice that process `self` writes of a transfer. -/
def notice? (self : Pid) : Transfer → Option Envelope
  | send submission (.error fault) time =>
      if submission.wantsFeedback then
        some (Endpoint.failureNotice self time submission.envelope fault)
      else none
  | _ => none

theorem notice?_of_not_isSend {transfer : Transfer} (h : transfer.isSend = false) (self : Pid) :
    transfer.notice? self = none := by
  cases transfer with
  | send => exact Bool.noConfusion h
  | _ => rfl

/-- What is noticed is a refusal. -/
theorem notice?_eq_some_iff {transfer : Transfer} {self : Pid} {notice : Envelope} :
    transfer.notice? self = some notice ↔ ∃ submission fault time,
      transfer = .send submission (.error fault) time ∧ submission.wantsFeedback = true ∧
        notice = Endpoint.failureNotice self time submission.envelope fault := by
  constructor
  · intro h
    cases transfer with
    | send submission answer time =>
        cases answer with
        | ok => cases h
        | error fault =>
            rw [notice?, Option.ite_none_right_eq_some] at h
            exact ⟨submission, fault, time, rfl, h.1, (Option.some.inj h.2).symm⟩
    | broadcast | receive | clear => cases h
  · rintro ⟨submission, fault, time, rfl, hfeedback, rfl⟩
    rw [notice?, if_pos hfeedback]

end Transfer

/-- What a journal tells of envelopes for single processes. -/
def Journaled.sends (j : Journaled Transfer σ) : List Transfer := j.journal.filter Transfer.isSend

theorem KernelUse.not_isSend {K : Kernel σ} {use : KernelUse} {k : σ} {transfer : Transfer}
    (h : transfer ∈ use.transfers K k) :
    transfer.isSend = false := by
  cases use with
  | broadcast | receive | clear =>
      obtain rfl := List.mem_singleton.1 h
      rfl
  | _ => cases h

/-! ## Filling the inbox -/

namespace Inbox

/-- The inbox with as many of these notices as there is room for. -/
def fill (notices : List Envelope) (i : Inbox) : Inbox :=
  { i with waiting := i.waiting ++ notices.take (i.capacity - i.waiting.length) }

@[simp] theorem fill_nil (i : Inbox) : i.fill [] = i := by
  simp [fill]

theorem fill_append (notices more : List Envelope) (i : Inbox) :
    i.fill (notices ++ more) = (i.fill notices).fill more := by
  have hroom : i.capacity - i.waiting.length - notices.length =
      i.capacity - (i.waiting.length +
        min (i.capacity - i.waiting.length) notices.length) := by omega
  simp only [fill, List.take_append, hroom, List.append_assoc, List.length_append,
    List.length_take]

theorem fill_singleton (notice : Envelope) (i : Inbox) :
    i.fill [notice] = (i.push? notice).getD i := by
  unfold fill push?
  split
  · next hroom =>
      obtain ⟨room, hroom⟩ := Nat.exists_eq_succ_of_ne_zero (Nat.sub_ne_zero_of_lt hroom)
      simp [hroom]
  · next hfull => simp [Nat.sub_eq_zero_of_le (Nat.le_of_not_lt hfull)]

theorem length_fill_le (notices : List Envelope) {i : Inbox}
    (h : i.waiting.length ≤ i.capacity) :
    (i.fill notices).waiting.length ≤ i.capacity := by
  simp only [fill, List.length_append, List.length_take]
  omega

end Inbox

theorem Process.inbox_notify (notice : Envelope) (p : Process) :
    (p.notify notice).2.inbox = p.inbox.fill [notice] := by
  rw [Inbox.fill_singleton, notify]
  cases p.inbox.push? notice <;> rfl

/-! ## One send -/

namespace Endpoint

variable {e : Endpoint σ}

theorem logAll_journaled (K : Kernel σ) (lines : List String) (j : Journaled Transfer σ) :
    K.journaled.logAll lines j = { j with kernel := K.logAll lines j.kernel } := by
  induction lines generalizing j with
  | nil => rfl
  | cons line rest ih => exact ih _

theorem inbox_refused (s : Session σ) (envelope : Envelope) (wantsFeedback tracked : Bool)
    (fault : SendFault) :
    (e.refused s envelope wantsFeedback tracked fault).2.inbox =
      s.process.inbox.fill (if wantsFeedback then
        [failureNotice e.pid (e.kernel.now s.kernel) envelope fault] else []) := by
  have hmark : (if tracked then s.process.mark envelope.sequence .sentFailed
      else s.process).inbox = s.process.inbox := by
    cases tracked <;> rfl
  unfold refused
  cases wantsFeedback with
  | true =>
      refine (Process.inbox_notify _ _).trans ?_
      rw [hmark]
      rfl
  | false =>
      refine hmark.trans ?_
      exact (Inbox.fill_nil _).symm

/-- What a send adds to the journal, what it answers, and what it does to the inbox. -/
theorem run_post_journaled (receiver : Pid) (kind : MessageKind) (payload : Bytes)
    (wantsFeedback : Bool) (timeout : Nat) (s : Session (Journaled Transfer σ)) :
    let posted := (e.journaled.post receiver kind payload wantsFeedback timeout).run.run s
    let envelope := e.outgoing receiver kind payload s.process.nextSequence
      (e.kernel.now s.kernel.kernel)
    ∃ answer time, ∃ transfer, transfer =
        Transfer.send ⟨envelope, wantsFeedback, s.process.nextSequence⟩ answer time ∧
      posted.2.kernel.journal = s.kernel.journal ++ [transfer] ∧
      posted.2.process.inbox = s.process.inbox.fill (transfer.notice? e.pid).toList ∧
      posted.1 = (answer.map fun _ => s.process.nextSequence).mapError Error.ofSendFault := by
  intro posted envelope
  obtain ⟨hfirst, -⟩ := nextSequence_enroll receiver kind
    (e.journaled.kernel.now s.kernel) timeout s.process
  obtain ⟨-, -, hinbox⟩ := s.process.enroll_frame receiver kind
    (e.journaled.kernel.now s.kernel) timeout
  have hposted : posted = _ := e.journaled.run_post receiver kind payload wantsFeedback timeout s
  simp only [hfirst] at hposted
  rw [show e.journaled.kernel = e.kernel.journaled from rfl, logAll_journaled] at hposted
  let taken := e.kernel.send envelope wantsFeedback s.process.nextSequence
    (e.kernel.logAll (enrollLines s.process.nextSequence
      (s.process.enroll receiver kind (e.kernel.now s.kernel.kernel) timeout).1.2)
      s.kernel.kernel)
  refine ⟨taken.1, e.kernel.now taken.2, _, rfl, ?_⟩
  generalize hsend : e.kernel.journaled.send _ _ _ _ = sent at hposted
  obtain rfl : sent = (taken.1, { kernel := taken.2, journal := s.kernel.journal ++
      [.send ⟨envelope, wantsFeedback, s.process.nextSequence⟩ taken.1
        (e.kernel.now taken.2)] }) := hsend.symm.trans rfl
  rcases hanswer : taken.1 with fault | done
  · simp only [hanswer, run_refuse] at hposted
    rw [hposted]
    refine ⟨rfl, ?_, rfl⟩
    refine (inbox_refused _ _ _ _ _).trans ((congrArg (Inbox.fill _) hinbox).trans ?_)
    cases wantsFeedback <;> rfl
  · simp only [hanswer] at hposted
    rw [hposted]
    refine ⟨rfl, ?_, rfl⟩
    refine Eq.trans ?_ (Inbox.fill_nil _).symm
    rw [← hinbox]
    split <;> rfl

/-! ## Whole operations -/

variable {operation : Operation} {first : Sequence} {s t : Session σ}
  {s' t' : Session (Journaled Transfer σ)}

/-- What sends nothing adds no send to the journal. -/
theorem sends_of_walk
    (h : e.journaled.Walk (operation.makesQuietly e.pid first) s' t') :
    t'.kernel.sends = s'.kernel.sends := by
  let Q : Journaled Transfer σ → Prop := fun j => j.sends = s'.kernel.sends
  have hQ : Q t'.kernel := by
    induction h with
    | refl => rfl
    | tail _ hmove ih =>
        obtain ⟨move, hmakes, rfl⟩ := hmove
        refine keeps_quiet (Q := Q) (fun _ _ hj => hj) (fun use j _ hj => ?_) hmakes ih
        change Q (use.effect e.kernel.journaled j)
        rw [use.effect_journaled]
        have hnone : (use.transfers e.kernel j.kernel).filter Transfer.isSend = [] :=
          List.filter_eq_nil_iff.2 fun _ hmem => Bool.eq_false_iff.1 (use.not_isSend hmem)
        simpa [Q, Journaled.sends, hnone] using hj
  exact hQ

/-- The notices of what a journal holds. -/
def notices (self : Pid) (journal : List Transfer) : List Envelope :=
  journal.filterMap (Transfer.notice? self)

theorem notices_append_singleton (self : Pid) (journal : List Transfer) (transfer : Transfer) :
    notices self (journal ++ [transfer]) =
      notices self journal ++ (transfer.notice? self).toList := by
  rw [notices, List.filterMap_append]
  cases h : transfer.notice? self <;> simp [notices, h]

/-- Only sends are noticed. -/
theorem notices_filter_isSend (self : Pid) (journal : List Transfer) :
    notices self (journal.filter Transfer.isSend) = notices self journal := by
  rw [notices, List.filterMap_filter]
  refine List.filterMap_congr fun transfer _ => ?_
  cases hsend : transfer.isSend with
  | true => rfl
  | false => exact (Transfer.notice?_of_not_isSend hsend self).symm

/-- An operation that leaves the inbox to its sends fills it with their notices. -/
theorem inbox_of_course (hbegun : s'.kernel.journal = [])
    (hleaves : ∀ move, operation.makesQuietly e.pid first move → move.isInbox = false)
    (h : e.journaled.Course operation first s' t') :
    t'.process.inbox = s'.process.inbox.fill (notices e.pid t'.kernel.journal) := by
  induction h with
  | refl => simp [hbegun, notices]
  | @tail u v _ hstep ih =>
      cases hstep with
      | @quiet move hmakes =>
          have hsends := sends_of_walk (Walk.single hmakes u)
          have hnotices := congrArg (notices e.pid) hsends
          rw [Journaled.sends, notices_filter_isSend, Journaled.sends,
            notices_filter_isSend] at hnotices
          rw [(e.journaled.frame_apply move u).2.2 (hleaves move hmakes), hnotices]
          exact ih
      | post _ _ _ _ kind timeout =>
          obtain ⟨_, _, transfer, -, hjournal, hinbox, -⟩ :=
            run_post_journaled (e := e) _ kind _ _ timeout u
          simp only [apply]
          rw [hinbox, hjournal, notices_append_singleton, Inbox.fill_append, ih]

end Endpoint

namespace Operation

/-- Whether an operation takes notices out of the inbox. -/
def takesNotices : Operation → Bool
  | receive _ | clearQueue | shutdownLedger => true
  | _ => false

/-- What an operation leaves of the notices that wait. -/
def leaves : Operation → List Envelope → List Envelope
  | receive _, waiting => waiting.tail
  | clearQueue, _ | shutdownLedger, _ => []
  | _, waiting => waiting

theorem leaves_of_not_takesNotices {operation : Operation} (h : operation.takesNotices = false)
    (waiting : List Envelope) :
    operation.leaves waiting = waiting := by
  cases operation with
  | receive | clearQueue | shutdownLedger => exact Bool.noConfusion h
  | _ => rfl

end Operation

namespace Endpoint

variable {e : Endpoint σ} {operation : Operation}

/-- The notices of what an operation transfers. -/
def raised (e : Endpoint σ) (operation : Operation) (s : Session σ) : List Envelope :=
  notices e.pid (e.transcript operation s)

/-- What hands nothing over raises no notice. -/
theorem raised_eq_nil {s : Session σ}
    (h : ∀ transfer ∈ e.transcript operation s, transfer.isSend = false) :
    e.raised operation s = [] :=
  List.filterMap_eq_nil_iff.2 fun transfer hmem =>
    Transfer.notice?_of_not_isSend (h transfer hmem) _

theorem inbox_perform_of_not_takesNotices (h : operation.takesNotices = false)
    (s : Session σ) :
    ((e.perform operation).run s).2.process.inbox =
      s.process.inbox.fill (e.raised operation s) := by
  have hcourse := e.journaled.course_perform operation (journalBegun s)
  have hinbox := inbox_of_course rfl (fun move hmakes => ?_) hcourse
  · rw [run_perform_journaled] at hinbox
    exact hinbox
  · cases move with
    | post => exact hmakes.elim
    | takeNotice =>
        obtain ⟨timeout, rfl⟩ := hmakes
        exact Bool.noConfusion h
    | dropNotices | shutdownLedger =>
        obtain rfl := hmakes
        exact Bool.noConfusion h
    | _ => rfl

/-- An operation takes out of the inbox what it is there to take, and puts in the notices of its
transcript that find room. -/
theorem inbox_perform (e : Endpoint σ) (operation : Operation) (s : Session σ) :
    ((e.perform operation).run s).2.process.inbox =
      ({ s.process.inbox with waiting := operation.leaves s.process.inbox.waiting } : Inbox).fill
        (e.raised operation s) := by
  cases htakes : operation.takesNotices with
  | false =>
      rw [Operation.leaves_of_not_takesNotices htakes]
      exact inbox_perform_of_not_takesNotices htakes s
  | true =>
      cases operation with
      | receive timeout =>
          have hraised : e.raised (.receive timeout) s = [] := by
            refine raised_eq_nil fun transfer hmem => ?_
            rw [transcript_receive] at hmem
            split at hmem
            · cases hmem
            · obtain rfl := List.mem_singleton.1 hmem
              rfl
          rw [hraised, Inbox.fill_nil, run_perform_receive]
          cases hwaiting : s.process.inbox.waiting with
          | cons notice rest =>
              simp only [Process.nextNotice, hwaiting]
              rfl
          | nil =>
              have hsame : ({ s.process.inbox with waiting := [] } : Inbox) =
                  s.process.inbox := by rw [← hwaiting]
              exact hsame.symm
      | clearQueue =>
          have hraised : e.raised .clearQueue s = [] := rfl
          rw [hraised, Inbox.fill_nil]
          rfl
      | shutdownLedger =>
          have hraised : e.raised .shutdownLedger s = [] := rfl
          rw [hraised, Inbox.fill_nil]
          rfl
      | _ => cases htakes

end Endpoint

end Interprocess

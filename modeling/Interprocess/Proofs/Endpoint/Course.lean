import Interprocess.Proofs.Endpoint.Move

/-!
# The course of an operation

`Operation.permits` says which kinds of moves an operation makes.  This module says more: how
many messages an operation sends, to whom, and what it asks of the kernel.  An operation
sends at most `Operation.sendLimit` messages, each to a single process and within the limit on
payloads, and only for the first one it may ask for reports.

**Input.**  An operation, and the sequence `first` that was the next one when it began.

**Results.**
* `Walk.nextSequence_eq`: what sends nothing gives out no sequence.
* `Course.within`: an operation gives out no more sequences than it may send messages.
* `Course.keeps_kernel`: what each request keeps is kept by a whole operation.
-/

namespace Interprocess

namespace Operation

/-- How many messages to single processes an operation sends at most. -/
def sendLimit : Operation → Nat
  | .beginSave => 2
  | operation => if operation.sends then 1 else 0

/-- What an operation of process `self` asks of the kernel, apart from sends and reports. -/
def uses (self : Pid) (operation : Operation) : KernelUse → Prop
  | .sleep _ | .log _ => True
  | .broadcast envelope =>
      envelope.sender = self ∧ envelope.receiver = Pid.broadcast ∧ envelope.sequence = 0 ∧
        envelope.payload.length ≤ maxPayloadLength
  | .receive timeout => operation = .receive timeout
  | .clear => operation = .clearQueue
  | .protectChildren _ => operation.awaits = true
  | .acquire capabilities description seconds =>
      ∃ text, description = Text.cut maxDescriptionLength text ∧
        operation = .acquire capabilities text seconds
  | .release token => operation = .release token
  | .renew token seconds => operation = .renew token seconds
  | .portSend token => operation = .portSend token
  | .portReceive => operation = .portReceive
  | .portClear => operation = .portClear
  | .powerOff kind number flags message =>
      ∃ reason text, number = reason.number ∧ message = kind.announcedMessage text ∧
        operation = .powerOff kind reason flags text
  | .cancelPowerOff => operation = .cancelPowerOff

/-- Which moves an operation of process `self` makes besides its sends. -/
def makesQuietly (self : Pid) (operation : Operation) (first : Sequence) : Move → Prop
  | .post .. => False
  | .useKernel use => operation.uses self use
  | move => operation.permits first move

variable {self : Pid} {operation : Operation} {first : Sequence} {move : Move}

theorem sendLimit_pos_iff : 0 < operation.sendLimit ↔ operation.sends = true := by
  cases operation <;> simp [sendLimit, sends, awaits]

theorem permits_of_makesQuietly (h : operation.makesQuietly self first move) :
    operation.permits first move := by
  cases move with
  | post => exact h.elim
  | useKernel => trivial
  | _ => exact h

end Operation

namespace Endpoint

variable {σ : Type} (e : Endpoint σ)

/-- One move of an operation that began when `first` was the next sequence.  Before a send the
operation has given out the sequences from `first` on. -/
inductive CourseStep (operation : Operation) (first : Sequence) :
    Session σ → Session σ → Prop
  | quiet {move : Move} (hmakes : operation.makesQuietly e.pid first move) (s : Session σ) :
      CourseStep operation first s (e.apply move s)
  | post {receiver : Pid} {payload : Bytes} {wantsFeedback : Bool} {s : Session σ}
      (hroom : s.process.nextSequence - first < operation.sendLimit)
      (hfeedback : wantsFeedback = true → s.process.nextSequence = first)
      (hsingle : receiver.isSingle = true) (hshort : payload.length ≤ maxPayloadLength)
      (kind : MessageKind) (timeout : Nat) :
      CourseStep operation first s
        (e.apply (.post receiver kind payload wantsFeedback timeout) s)

/-- Whether an operation that began when `first` was the next sequence leads from a session to
another. -/
def Course (operation : Operation) (first : Sequence) : Session σ → Session σ → Prop :=
  Relation.ReflTransGen (e.CourseStep operation first)

variable {e} {operation : Operation} {first : Sequence} {s t : Session σ}

theorem Walk.course (h : e.Walk (operation.makesQuietly e.pid first) s t) :
    e.Course operation first s t := by
  induction h with
  | refl => exact Relation.ReflTransGen.refl
  | tail _ hmove ih =>
      obtain ⟨move, hmakes, rfl⟩ := hmove
      exact ih.tail (.quiet hmakes _)

theorem Course.walk (h : e.Course operation first s t) :
    e.Walk (operation.permits first) s t := by
  induction h with
  | refl => exact Relation.ReflTransGen.refl
  | tail _ hstep ih =>
      refine ih.trans ?_
      cases hstep with
      | quiet hmakes => exact Walk.single (Operation.permits_of_makesQuietly hmakes) _
      | post hroom =>
          have hsends := Operation.sendLimit_pos_iff.1 (Nat.zero_lt_of_lt hroom)
          exact Walk.single hsends _

/-- Only a send gives out a sequence. -/
theorem nextSequence_apply {move : Move} (h : operation.makesQuietly e.pid first move)
    (s : Session σ) :
    (e.apply move s).process.nextSequence = s.process.nextSequence := by
  cases move with
  | post => exact h.elim
  | query sequence =>
      rw [apply, run_state]
      rfl
  | takeNotice =>
      simp only [apply, Process.nextNotice]
      split <;> rfl
  | registerHandler handler userData =>
      simp only [apply, Process.registerHandler]
      split <;> rfl
  | unregisterHandler handler =>
      simp only [apply, Process.unregisterHandler]
      split <;> rfl
  | forget | shutdownLedger | dropNotices | openWindow | closeWindow | useKernel => rfl

theorem Walk.nextSequence_eq (h : e.Walk (operation.makesQuietly e.pid first) s t) :
    t.process.nextSequence = s.process.nextSequence := by
  induction h with
  | refl => rfl
  | tail _ hmove ih =>
      obtain ⟨move, hmakes, rfl⟩ := hmove
      exact (nextSequence_apply hmakes _).trans ih

/-- An operation gives out no more sequences than it may send messages. -/
theorem Course.within (h : e.Course operation first s t)
    (hfirst : s.process.nextSequence ≤ first + operation.sendLimit) :
    t.process.nextSequence ≤ first + operation.sendLimit := by
  induction h with
  | refl => exact hfirst
  | tail _ hstep ih =>
      cases hstep with
      | quiet hmakes =>
          rw [nextSequence_apply hmakes]
          exact ih
      | post hroom =>
          rw [apply, nextSequence_post]
          exact Nat.lt_of_le_of_lt (Nat.sub_le_iff_le_add'.1 (Nat.le_refl _))
            (Nat.add_lt_add_left hroom first)

/-! ## What a course does to the kernel -/

theorem keeps_logAll {K : Kernel σ} {Q : σ → Prop} (hlog : ∀ line k, Q k → Q (K.log line k))
    (lines : List String) {k : σ} (hk : Q k) :
    Q (K.logAll lines k) := by
  induction lines generalizing k with
  | nil => exact hk
  | cons line rest ih => exact ih (hlog line k hk)

/-- What reports and uses keep is kept by a move that sends nothing. -/
theorem keeps_quiet {Q : σ → Prop}
    (hreports : ∀ sequence k, Q k → Q (e.kernel.reports sequence k).2)
    (huse : ∀ use k, operation.uses e.pid use → Q k → Q (use.effect e.kernel k))
    {move : Move} (h : operation.makesQuietly e.pid first move) {s : Session σ}
    (hs : Q s.kernel) :
    Q (e.apply move s).kernel := by
  cases move with
  | post => exact h.elim
  | query sequence =>
      rw [apply, run_state]
      exact keeps_logAll (fun line k => huse (.log line) k trivial) _ (hreports sequence _ hs)
  | useKernel use => exact huse use _ h hs
  | _ => exact hs

/-- A send writes to the log, hands its envelope to the kernel once, and may write again. -/
theorem keeps_post {Q R : σ → Prop} (hlog : ∀ line k, Q k → Q (e.kernel.log line k))
    (hlater : ∀ line k, R k → R (e.kernel.log line k)) {receiver : Pid} {kind : MessageKind}
    {payload : Bytes} {wantsFeedback : Bool} {timeout : Nat} {s : Session σ}
    (hsend : ∀ k, Q k → R (e.kernel.send
      (e.outgoing receiver kind payload s.process.nextSequence (e.kernel.now s.kernel))
      wantsFeedback s.process.nextSequence k).2)
    (hs : Q s.kernel) :
    R (e.apply (.post receiver kind payload wantsFeedback timeout) s).kernel := by
  obtain ⟨hfirst, -⟩ :=
    nextSequence_enroll receiver kind (e.kernel.now s.kernel) timeout s.process
  rw [apply, run_post]
  simp only [hfirst]
  have hsent := hsend _ (keeps_logAll hlog (enrollLines s.process.nextSequence
    (s.process.enroll receiver kind (e.kernel.now s.kernel) timeout).1.2) hs)
  split
  · exact hsent
  · rw [run_refuse]
    exact hlater _ _ hsent

/-- What every request keeps that an operation makes, the operation keeps. -/
theorem Course.keeps_kernel {Q : σ → Prop}
    (hsend : ∀ envelope wantsFeedback sequence k, envelope.sender = e.pid → Q k →
      Q (e.kernel.send envelope wantsFeedback sequence k).2)
    (hreports : ∀ sequence k, Q k → Q (e.kernel.reports sequence k).2)
    (huse : ∀ use k, operation.uses e.pid use → Q k → Q (use.effect e.kernel k))
    (h : e.Course operation first s t) (hs : Q s.kernel) :
    Q t.kernel := by
  have hlog : ∀ line k, Q k → Q (e.kernel.log line k) := fun line k => huse (.log line) k trivial
  induction h with
  | refl => exact hs
  | tail _ hstep ih =>
      cases hstep with
      | quiet hmakes => exact keeps_quiet hreports huse hmakes ih
      | post => exact keeps_post hlog hlog (fun k => hsend _ _ _ k rfl) ih

end Endpoint

end Interprocess

import Interprocess.Proofs.Endpoint.Following
import Interprocess.Proofs.Endpoint.OperationWalk

/-!
# The transcript of an operation

What an operation asks its kernel for is the journal that it leaves if its kernel keeps one.

**Traces.**  `e.trace note? operation s` is the journal of what `note?` makes of the requests of
the operation when it begins in `s`.

**Transcript.**  `e.transcript operation s` is what the operation transfers through the kernel,
`e.polls operation s` are the sequences whose reports it asks for, and `e.naps operation s` are the
times for which it sleeps.

**Results.**
* `run_perform_noting`: an operation on a kernel with a journal answers what it answers on the
  kernel, leaves the same behind, and has its trace as its journal.
* `transcript_induction`, `transfers_of_mem_transcript`: what a transcript can hold.
-/

namespace Interprocess

variable {σ ν : Type}

/-- The sequence whose reports are asked for. -/
def KernelEvent.polled? : KernelEvent → Option Sequence
  | poll sequence => some sequence
  | transfer _ | nap _ => none

/-- The time for which is slept. -/
def KernelEvent.slept? : KernelEvent → Option Nat
  | nap ms => some ms
  | transfer _ | poll _ => none

namespace Endpoint

variable (e : Endpoint σ)

/-! ## Traces -/

/-- What an operation leaves in the journal of its kernel, in order. -/
def trace (note? : KernelEvent → Option ν) (operation : Operation) (s : Session σ) : List ν :=
  (((e.noting note?).perform operation).run (journalBegun s)).2.kernel.journal

/-- What an operation transfers through the kernel, in order. -/
def transcript (operation : Operation) (s : Session σ) : List Transfer :=
  e.trace KernelEvent.transfer? operation s

/-- The sequences whose reports an operation asks for, in order. -/
def polls (operation : Operation) (s : Session σ) : List Sequence :=
  e.trace KernelEvent.polled? operation s

/-- The times for which an operation sleeps, in order. -/
def naps (operation : Operation) (s : Session σ) : List Nat :=
  e.trace KernelEvent.slept? operation s

/-- An operation on a kernel with a journal answers what it answers on the kernel itself, leaves the
same behind, and has its trace as its journal. -/
theorem run_perform_noting (note? : KernelEvent → Option ν) (operation : Operation)
    (s : Session σ) :
    ((e.noting note?).perform operation).run (journalBegun s) =
      let answered := (e.perform operation).run s
      (answered.1,
        { kernel := { kernel := answered.2.kernel, journal := e.trace note? operation s }
          process := answered.2.process }) := by
  have hfollows : (e.perform operation).run s = _ :=
    follows_perform (e.kernel.mirrors_noting note?) operation (journalBegun s)
  rw [hfollows]
  rfl

theorem transcript_eq (operation : Operation) (s : Session σ) :
    e.transcript operation s =
      ((e.journaled.perform operation).run (journalBegun s)).2.kernel.journal := rfl

theorem run_perform_journaled (operation : Operation) (s : Session σ) :
    (e.journaled.perform operation).run (journalBegun s) =
      let answered := (e.perform operation).run s
      (answered.1,
        { kernel := { kernel := answered.2.kernel, journal := e.transcript operation s }
          process := answered.2.process }) :=
  e.run_perform_noting KernelEvent.transfer? operation s

variable {e} {operation : Operation} {s : Session σ}

/-! ## Transcripts -/

/-- What holds of an empty journal, and is kept by whatever an operation asks of its kernel, holds
of a transcript. -/
theorem transcript_induction {Q : Journaled Transfer σ → Prop}
    (hsend : ∀ envelope wantsFeedback sequence j, envelope.sender = e.pid → Q j →
      Q { kernel := (e.kernel.send envelope wantsFeedback sequence j.kernel).2
          journal := j.journal ++ [.send ⟨envelope, wantsFeedback, sequence⟩
            (e.kernel.send envelope wantsFeedback sequence j.kernel).1
            (e.kernel.now (e.kernel.send envelope wantsFeedback sequence j.kernel).2)] })
    (hreports : ∀ sequence j, Q j →
      Q { j with kernel := (e.kernel.reports sequence j.kernel).2 })
    (huse : ∀ use j, operation.uses e.pid use → Q j →
      Q { kernel := use.effect e.kernel j.kernel
          journal := j.journal ++ use.transfers e.kernel j.kernel })
    (hbegin : Q (Journaled.fresh s.kernel)) :
    Q { kernel := ((e.perform operation).run s).2.kernel
        journal := e.transcript operation s } := by
  have hkept := (e.journaled.course_perform operation (journalBegun s)).keeps_kernel (Q := Q)
    hsend hreports
    (fun use j hmakes hj => use.effect_journaled e.kernel j ▸ huse use j hmakes hj) hbegin
  rw [run_perform_journaled] at hkept
  exact hkept

end Endpoint

/-! ## Who receives and who clears -/

/-- Which transfers an operation may make. -/
def Operation.transfers (operation : Operation) : Transfer → Prop
  | .receive _ => ∃ timeout, operation = .receive timeout
  | .clear _ => operation = .clearQueue
  | .send .. | .broadcast .. => True

/-- What a process learns from its kernel when it waits for an envelope. -/
def Envelope.received (now : Nat) : Except KernelFault (Option Envelope) → Except Error Envelope
  | .ok (some envelope) => .ok (envelope.stamped now)
  | .ok none => .error .timeout
  | .error fault => .error (Error.ofKernelFault fault)

namespace Endpoint

variable {e : Endpoint σ} {operation : Operation} {s : Session σ} {transfer : Transfer}

theorem transfers_of_mem_transcript (h : transfer ∈ e.transcript operation s) :
    operation.transfers transfer := by
  let Q : Journaled Transfer σ → Prop := fun j =>
    ∀ transfer ∈ j.journal, operation.transfers transfer
  have hadd : ∀ {j : Journaled Transfer σ} {new : List Transfer} {k : σ}, Q j →
      (∀ transfer ∈ new, operation.transfers transfer) →
      Q { kernel := k, journal := j.journal ++ new } := by
    intro j new k hj hnew transfer hmem
    exact (List.mem_append.1 hmem).elim (hj transfer) (hnew transfer)
  refine transcript_induction (Q := Q) ?_ ?_ ?_ (fun _ hmem => nomatch hmem) transfer h
  · intro envelope wantsFeedback sequence j _ hj
    refine hadd hj fun transfer hmem => ?_
    obtain rfl := List.mem_singleton.1 hmem
    trivial
  · exact fun _ _ hj => hj
  · intro use j huse hj
    refine hadd hj fun transfer hmem => ?_
    cases use with
    | broadcast envelope =>
        obtain rfl := List.mem_singleton.1 hmem
        trivial
    | receive timeout =>
        obtain rfl := List.mem_singleton.1 hmem
        exact ⟨timeout, huse⟩
    | clear =>
        obtain rfl := List.mem_singleton.1 hmem
        exact huse
    | _ => cases hmem

/-- Receiving takes the oldest notice if there is one, and else asks the kernel once. -/
theorem run_receive (e : Endpoint σ) (timeout : Nat) (s : Session σ) :
    (e.receive timeout).run.run s =
      match s.process.inbox.waiting with
      | notice :: _ => (.ok notice, { s with process := s.process.nextNotice.2 })
      | [] =>
          let received := e.kernel.receive timeout s.kernel
          (Envelope.received (e.kernel.now received.2) received.1,
            { s with kernel := received.2 }) := by
  unfold receive
  rw [Attempt.run_bind, Attempt.run_lift, Act.run_onProcess, Process.nextNotice]
  cases s.process.inbox.waiting with
  | cons notice rest => rfl
  | nil =>
      simp only
      rw [Attempt.run_bind, Attempt.run_onKernel]
      rcases e.kernel.receive timeout s.kernel with ⟨outcome, k⟩
      rcases outcome with fault | _ | envelope <;> rfl

theorem run_perform_receive (e : Endpoint σ) (timeout : Nat) (s : Session σ) :
    (e.perform (.receive timeout)).run s =
      match s.process.inbox.waiting with
      | notice :: _ =>
          (.attempt (.ok (.envelope notice)), { s with process := s.process.nextNotice.2 })
      | [] =>
          let received := e.kernel.receive timeout s.kernel
          (.ofAttempt .envelope (Envelope.received (e.kernel.now received.2) received.1),
            { s with kernel := received.2 }) := by
  have hrun := e.run_receive timeout s
  cases hwaiting : s.process.inbox.waiting with
  | cons notice rest =>
      rw [hwaiting] at hrun
      exact run_answering_of_run hrun
  | nil =>
      rw [hwaiting] at hrun
      exact run_answering_of_run hrun

theorem transcript_receive (e : Endpoint σ) (timeout : Nat) (s : Session σ) :
    e.transcript (.receive timeout) s =
      match s.process.inbox.waiting with
      | _ :: _ => []
      | [] => [.receive (e.kernel.receive timeout s.kernel).1] := by
  have hrun := e.journaled.run_receive timeout (journalBegun s)
  change ((e.journaled.receive timeout).run.run (journalBegun s)).2.kernel.journal = _
  rw [hrun, show (journalBegun s).process.inbox.waiting = s.process.inbox.waiting from rfl]
  cases s.process.inbox.waiting <;> rfl

end Endpoint

end Interprocess

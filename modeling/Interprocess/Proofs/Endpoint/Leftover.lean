import Interprocess.Proofs.Delivery.Overflow
import Interprocess.Proofs.Endpoint.Posting
import Interprocess.Proofs.Endpoint.RecordLife

/-!
# What is left of a message that nobody can name

A call and an exemption request keep the sequence of their message to themselves, so nobody else
will take its record out of the ledger.  The two loops that wait for an answer do so on each way
out.  But a message that the kernel refuses does not come to the loop: the operation fails at once,
and the record of the failed send stays.

**Input.**  A reachable session of any kernel, and an operation that keeps its sequence to itself.

**Transcript.**  What the operation handed to the kernel, and how the kernel answered, is read off
its transcript, which holds one message at most.

**Results.**
* `clears_awaitResponse`, `clears_awaitExemption`: a loop leaves no record, however it ends.
* `settles_perform`: the three ways in which such an operation ends.
* `perform_leaves_record_iff`: a record is left exactly if the kernel refused the message and the
  ledger had room for it.
-/

namespace Interprocess

namespace Operation

/-- Whether an operation sends a message and tells nobody the sequence of it. -/
def keepsItsSequence : Operation → Bool
  | beginSave => false
  | operation => operation.awaits

theorem awaits_of_keepsItsSequence {operation : Operation}
    (h : operation.keepsItsSequence = true) :
    operation.awaits = true := by
  cases operation <;> simp_all [keepsItsSequence]

end Operation

namespace Endpoint

variable {σ α β : Type} {e : Endpoint σ} {operation : Operation} {first : Sequence}

/-! ## Loops that leave no record -/

/-- Whether an act leaves no record of a sequence that was given out before. -/
def Clears (e : Endpoint σ) (first : Sequence) (x : Act σ α) : Prop :=
  ∀ s : Session σ, e.InOrder s → first < s.process.nextSequence →
    (x.run s).2.process.ledger.find? first = none

theorem clears_of_forget {x : Act σ α} (h : ∀ s, (x.run s).2 = e.apply (.forget first) s) :
    e.Clears first x := by
  intro s horder _
  rw [h s]
  exact (horder.sound.find?_erase first first).trans (if_pos rfl)

/-- A record does not come back. -/
theorem Clears.bind {x : Attempt σ α} {f : α → Attempt σ β} (hx : e.Clears first x.run)
    (hwalk : e.Makes operation first x.run) (hf : ∀ a, e.Makes operation first (f a).run) :
    e.Clears first (x >>= f).run := by
  intro s horder hgiven
  have hgone := hx s horder hgiven
  have hnext := (hwalk s).nextSequence_le
  have hlater := (hwalk s).inOrder horder
  rw [Attempt.run_bind]
  rcases hrun : x.run.run s with ⟨result, t⟩
  rw [hrun] at hgone hnext hlater
  cases result with
  | ok a =>
      have hlasting := Walk.lasting (hf a t) hlater first
      exact hlasting.gone (Nat.lt_of_lt_of_le hgiven hnext) hgone
  | error error => exact hgone

theorem Makes.clears {x : Act σ α} {f : α → Attempt σ β} (hx : e.Makes operation first x)
    (hf : ∀ a, e.Clears first (f a).run) :
    e.Clears first (liftM x >>= f).run := by
  intro s horder hgiven
  rw [Attempt.run_bind, Attempt.run_lift]
  exact hf _ _ ((hx s).inOrder horder) (Nat.lt_of_lt_of_le hgiven (hx s).nextSequence_le)

section Awaiting

variable (hawaits : operation.awaits = true)
include hawaits

theorem clears_drop {f : Unit → Attempt σ β} (hf : ∀ a, e.Makes operation first (f a).run) :
    e.Clears first (liftM (Act.drop first : Act σ Unit) >>= f).run :=
  Clears.bind (clears_of_forget fun _ => rfl) (makes_lift (makes_drop hawaits)) hf

/-- However the wait for a response ends, its record is gone. -/
theorem clears_awaitResponse (call : String) (timeout polls : Nat) :
    e.Clears first (e.awaitResponse first call timeout polls).run := by
  induction polls with
  | zero =>
      unfold awaitResponse
      refine clears_drop hawaits fun _ => ?_
      exact makes_attempt_bind (makes_lift (makes_log _)) fun _ => makes_throw _
  | succ polls ih =>
      unfold awaitResponse
      refine (makes_query hawaits).clears fun state => ?_
      cases state.callOutcome with
      | answered => exact clears_of_forget fun _ => rfl
      | unreported => exact clears_drop hawaits fun _ => makes_attempt_pure _
      | failed error =>
          refine clears_drop hawaits fun _ => ?_
          exact makes_attempt_bind (makes_lift (makes_log _)) fun _ => makes_throw _
      | undecided =>
          have hsleep : e.Makes operation first (e.sleep e.config.callInterval) := makes_sleep _
          exact hsleep.clears fun _ => ih

/-- However the wait for an exemption ends, its record is gone. -/
theorem clears_awaitExemption (emergencyOk : Bool) (polls left : Nat) :
    e.Clears first (e.awaitExemption first emergencyOk polls left).run := by
  induction left with
  | zero =>
      unfold awaitExemption
      refine clears_drop hawaits fun _ => ?_
      exact makes_attempt_bind (makes_lift (makes_log _)) fun _ => makes_throw _
  | succ left ih =>
      unfold awaitExemption
      refine (makes_query hawaits).clears fun state => ?_
      cases state.exemptionOutcome with
      | granted => exact clears_drop hawaits fun _ => makes_lift (makes_log _)
      | refused error =>
          refine clears_drop hawaits fun _ => ?_
          exact makes_attempt_bind (makes_lift (makes_log _)) fun _ => makes_throw _
      | undecided =>
          have hsleep : e.Makes operation first (e.sleep e.config.exemptionPoll) := makes_sleep _
          exact hsleep.clears fun _ => ih

end Awaiting

/-! ## How an attempt ends that sends one message -/

/-- How an attempt ends that keeps the sequence of its message to itself.  It sends nothing; or the
kernel takes its message, and no record is left; or the kernel refuses it, and the record of the
failed send is left if there was room for it. -/
inductive Settles (e : Endpoint σ) (s : Session (Journaled Transfer σ)) :
    Except Error α × Session (Journaled Transfer σ) → Prop
  | unsent {t : Session (Journaled Transfer σ)} (error : Error)
      (hsends : t.kernel.sends = s.kernel.sends)
      (hnext : t.process.nextSequence = s.process.nextSequence) :
      Settles e s (.error error, t)
  | taken {t : Session (Journaled Transfer σ)} {submission : Submission} {time : Nat}
      (result : Except Error α)
      (hsends : t.kernel.sends = s.kernel.sends ++ [.send submission (.ok ()) time])
      (hnext : t.process.nextSequence = s.process.nextSequence + 1)
      (horder : e.journaled.InOrder t)
      (hgone : t.process.ledger.find? s.process.nextSequence = none) :
      Settles e s (result, t)
  | refused {t : Session (Journaled Transfer σ)} {submission : Submission} {fault : SendFault}
      {time : Nat} (timeout : Nat)
      (hsequence : submission.sequence = s.process.nextSequence)
      (hsends : t.kernel.sends = s.kernel.sends ++ [.send submission (.error fault) time])
      (hnext : t.process.nextSequence = s.process.nextSequence + 1)
      (hledger : t.process.ledger = s.process.ledger.enter
        (SentRecord.handedOver s.process.nextSequence submission.envelope.receiver
          submission.envelope.kind submission.envelope.timestamp timeout .sentFailed)
        submission.envelope.timestamp) :
      Settles e s (.error (Error.ofSendFault fault), t)

variable {s : Session (Journaled Transfer σ)}

/-- What sends nothing may follow. -/
theorem Settles.bind {x : Attempt (Journaled Transfer σ) α}
    {f : α → Attempt (Journaled Transfer σ) β}
    (h : e.Settles s (x.run.run s)) (operation : Operation)
    (hf : ∀ a, e.journaled.Makes operation s.process.nextSequence (f a).run) :
    e.Settles s ((x >>= f).run.run s) := by
  rw [Attempt.run_bind]
  generalize x.run.run s = ended at h ⊢
  cases h with
  | unsent error hsends hnext => exact .unsent error hsends hnext
  | refused timeout hsequence hsends hnext hledger =>
      exact .refused timeout hsequence hsends hnext hledger
  | @taken t _ _ result hsends hnext horder hgone =>
      cases result with
      | error error => exact .taken _ hsends hnext horder hgone
      | ok a =>
          have hwalk := hf a t
          refine .taken _ ((sends_of_walk hwalk).trans hsends) (hwalk.nextSequence_eq.trans hnext)
            (hwalk.inOrder horder) ?_
          have hgiven := Nat.lt_of_lt_of_eq (Nat.lt_succ_self _) hnext.symm
          exact (Walk.lasting hwalk horder _).gone hgiven hgone

/-- What sends nothing and leaves the process alone may come before. -/
theorem settles_after {x : Attempt (Journaled Transfer σ) α}
    {f : α → Attempt (Journaled Transfer σ) β}
    (hsends : (x.run.run s).2.kernel.sends = s.kernel.sends)
    (hprocess : (x.run.run s).2.process = s.process)
    (hf : ∀ a t, t.process = s.process → e.Settles t ((f a).run.run t)) :
    e.Settles s ((x >>= f).run.run s) := by
  rw [Attempt.run_bind]
  rcases hrun : x.run.run s with ⟨result, t⟩
  rw [hrun] at hsends hprocess
  cases result with
  | error error => exact .unsent error hsends (congrArg Process.nextSequence hprocess)
  | ok a =>
      have hlater := hf a t hprocess
      simp only at hprocess hsends ⊢
      generalize (f a).run.run t = ended at hlater ⊢
      cases hlater with
      | unsent error hmore hnext =>
          exact .unsent error (hmore.trans hsends) (by rw [hnext, hprocess])
      | taken result hmore hnext horder hgone =>
          rw [hsends] at hmore
          rw [hprocess] at hnext hgone
          exact .taken result hmore hnext horder hgone
      | refused timeout hsequence hmore hnext hledger =>
          rw [hsends] at hmore
          rw [hprocess] at hsequence hnext hledger
          exact .refused timeout hsequence hmore hnext hledger

/-- A message is sent, and then what waits for news of it leaves no record. -/
theorem settles_send {receiver : Pid} {kind : MessageKind} {payload : Bytes}
    {wantsFeedback : Bool} {timeout : Nat} {f : Sequence → Attempt (Journaled Transfer σ) β}
    (h : e.journaled.InOrder s)
    (hmakes : e.journaled.Makes operation s.process.nextSequence
      (f s.process.nextSequence).run)
    (hclears : e.journaled.Clears s.process.nextSequence (f s.process.nextSequence).run) :
    e.Settles s ((e.journaled.sendWithTimeout receiver kind payload wantsFeedback timeout >>=
      f).run.run s) := by
  unfold sendWithTimeout
  split
  · exact .unsent _ rfl rfl
  · split
    · exact .unsent _ rfl rfl
    · obtain ⟨answer, time, transfer, rfl, hjournal, -, hanswer⟩ :=
        run_post_journaled (e := e) receiver kind payload wantsFeedback timeout s
      have hledger := e.journaled.ledger_post h.sound receiver kind payload wantsFeedback timeout
      have hnext := e.journaled.nextSequence_post receiver kind payload wantsFeedback timeout s
      have horder := e.journaled.inOrder_apply h
        (.post receiver kind payload wantsFeedback timeout)
      rw [apply] at horder
      rw [Attempt.run_bind]
      generalize (e.journaled.post receiver kind payload wantsFeedback timeout).run.run s = posted
        at hjournal hanswer hledger hnext horder ⊢
      obtain ⟨result, t⟩ := posted
      simp only at hjournal hanswer hledger hnext horder
      have hsends := congrArg (List.filter Transfer.isSend) hjournal
      rw [List.filter_append] at hsends
      cases answer with
      | error fault =>
          subst hanswer
          exact .refused timeout rfl hsends hnext hledger
      | ok done =>
          subst hanswer
          have hwalk := hmakes t
          have hgiven := Nat.lt_of_lt_of_eq (Nat.lt_succ_self _) hnext.symm
          exact .taken _ ((sends_of_walk hwalk).trans hsends) (hwalk.nextSequence_eq.trans hnext)
            (hwalk.inOrder horder) (hclears t horder hgiven)

/-! ## Operations -/

/-- A name is checked before anything is sent. -/
theorem settles_checkName {name : String} {f : Unit → Attempt (Journaled Transfer σ) β}
    (hf : e.Settles s ((f ()).run.run s)) :
    e.Settles s ((checkName name >>= f).run.run s) := by
  unfold checkName
  split
  · exact hf
  · exact .unsent _ rfl rfl

section Settling

variable (hawaits : operation.awaits = true) (h : e.journaled.InOrder s)
include hawaits h

theorem settles_call (destination : Pid) (kind : MessageKind) (request : Bytes)
    (timeout : Nat) :
    e.Settles s ((e.journaled.call destination kind request timeout).run.run s) :=
  settles_send h (makes_awaitResponse hawaits _ _ _) (clears_awaitResponse hawaits _ _ _)

theorem settles_lookup (name : String) :
    e.Settles s ((e.journaled.lookup name).run.run s) := by
  refine settles_checkName ((settles_call hawaits h _ _ _ _).bind operation fun bytes => ?_)
  split
  · exact makes_attempt_bind (makes_lift (makes_log _)) fun _ => makes_throw _
  · exact makes_ofExcept _

theorem settles_register (name : String) (pid : Pid) :
    e.Settles s ((e.journaled.register name pid).run.run s) := by
  refine settles_checkName ((settles_call hawaits h _ _ _ _).bind operation fun bytes => ?_)
  refine makes_attempt_bind (makes_ofExcept _) fun _ => ?_
  refine makes_attempt_bind (makes_lift (makes_log _)) fun _ => ?_
  exact makes_lift (makes_announceService _)

theorem settles_unregister (name : String) :
    e.Settles s ((e.journaled.unregister name).run.run s) := by
  refine settles_checkName ((settles_call hawaits h _ _ _ _).bind operation fun bytes => ?_)
  refine makes_attempt_bind (makes_ofExcept _) fun _ => ?_
  exact makes_lift (makes_announceService _)

theorem settles_obtainExemption (emergencyOk : Bool) (polls : Nat) :
    e.Settles s ((e.journaled.obtainExemption emergencyOk polls).run.run s) := by
  refine settles_after rfl rfl fun _ t hprocess => ?_
  have horder : e.journaled.InOrder t := by
    constructor
    · rw [hprocess]
      exact h.sound
    · rw [hprocess]
      exact h.capacity
  have hannounces : e.journaled.Makes operation t.process.nextSequence
      (e.journaled.announceExemption emergencyOk) :=
    makes_announcement fun _ => makes_log _
  exact settles_send horder
    (makes_attempt_bind (makes_lift hannounces) fun _ => makes_awaitExemption hawaits _ _ _)
    (hannounces.clears fun _ => clears_awaitExemption hawaits _ _ _)

end Settling

theorem Settles.answering {x : Attempt (Journaled Transfer σ) α} (h : e.Settles s (x.run.run s))
    (f : α → Value) :
    ∃ result : Except Error Value, ∃ t, (answering f x).run s = (.attempt result, t) ∧
      e.Settles s (result, t) := by
  rcases hrun : x.run.run s with ⟨result, t⟩
  rw [hrun] at h
  refine ⟨result.map f, t, run_answering_of_run hrun, ?_⟩
  cases h with
  | unsent error hsends hnext => exact .unsent error hsends hnext
  | taken result hsends hnext horder hgone => exact .taken _ hsends hnext horder hgone
  | refused timeout hsequence hsends hnext hledger =>
      exact .refused timeout hsequence hsends hnext hledger

/-- **How an operation ends that keeps its sequence to itself.** -/
theorem settles_perform (hkeeps : operation.keepsItsSequence = true)
    (h : e.journaled.InOrder s) :
    ∃ result : Except Error Value, ∃ t,
      (e.journaled.perform operation).run s = (.attempt result, t) ∧
        e.Settles s (result, t) := by
  have hawaits := Operation.awaits_of_keepsItsSequence hkeeps
  cases operation with
  | call => exact (settles_call hawaits h _ _ _ _).answering _
  | lookup => exact (settles_lookup hawaits h _).answering _
  | registerSelf => exact (settles_register hawaits h _ _).answering _
  | register => exact (settles_register hawaits h _ _).answering _
  | unregister => exact (settles_unregister hawaits h _).answering _
  | protectChildren => exact (settles_obtainExemption hawaits h _ _).answering _
  | requestExemption => exact (settles_obtainExemption hawaits h _ _).answering _
  | _ => cases hkeeps

/-- **When a record is left that nobody can name.**  An operation that keeps its sequence to itself
hands over one message at most, and gives out a sequence for that message only.  If the kernel takes
the message, or none is handed over, then no record of the sequence is left.  If the kernel refuses
the message, then the operation fails with the fault, and the record of the failed send is left
whenever the ledger had room for it. -/
theorem perform_leaves_record_iff {s : Session σ} (h : e.Reachable s)
    (hkeeps : operation.keepsItsSequence = true) :
    let first := s.process.nextSequence
    let ended := (e.perform operation).run s
    let handed := (e.transcript operation s).filter Transfer.isSend
    handed.length ≤ 1 ∧
      ended.2.process.nextSequence = first + handed.length ∧
      (ended.2.process.ledger.find? first ≠ none ↔
        ∃ submission fault time, handed = [.send submission (.error fault) time] ∧
          s.process.ledger.HasRoom submission.envelope.timestamp) ∧
      ∀ submission fault time, handed = [.send submission (.error fault) time] →
        ended.1 = .attempt (.error (Error.ofSendFault fault)) ∧
          submission.sequence = first ∧
          ∃ timeout, ended.2.process.ledger = s.process.ledger.enter
            (SentRecord.handedOver first submission.envelope.receiver submission.envelope.kind
              submission.envelope.timestamp timeout .sentFailed)
            submission.envelope.timestamp := by
  intro first ended handed
  have hbegun : e.journaled.InOrder (journalBegun s) := ⟨h.inOrder.sound, h.inOrder.capacity⟩
  obtain ⟨result, t, hperform, hsettles⟩ := settles_perform hkeeps hbegun
  have horder : e.InOrder ended.2 := (e.walk_perform operation s).inOrder h.inOrder
  rw [run_perform_journaled] at hperform
  obtain ⟨hanswer, rfl⟩ := Prod.mk.inj hperform
  cases hsettles with
  | unsent error hsends hnext =>
      have hhanded : handed = [] := hsends
      have hgone : ended.2.process.ledger.find? first = none :=
        horder.sound.find?_eq_none (Nat.le_of_eq hnext)
      have hsame : ended.2.process.nextSequence = first := hnext
      simp [hhanded, hgone, hsame]
  | @taken _ submission time result hsends hnext _ hgone =>
      have hhanded : handed = [.send submission (.ok ()) time] := hsends
      have hcleared : ended.2.process.ledger.find? first = none := hgone
      have hgiven : ended.2.process.nextSequence = first + 1 := hnext
      simp [hhanded, hcleared, hgiven]
  | @refused _ submission fault time timeout hsequence hsends hnext hledger =>
      have hhanded : handed = [.send submission (.error fault) time] := hsends
      have hfound : ended.2.process.ledger.find? first ≠ none ↔
          s.process.ledger.HasRoom submission.envelope.timestamp := by
        rw [show ended.2.process.ledger = _ from hledger]
        exact h.inOrder.sound.find?_enter_ne_none_iff rfl _
      refine ⟨Nat.le_of_eq (congrArg List.length hhanded), ?_, ?_, ?_⟩
      · rw [hhanded]
        exact hnext
      · rw [hfound, hhanded]
        constructor
        · exact fun hroom => ⟨submission, fault, time, rfl, hroom⟩
        · rintro ⟨_, _, _, heq, hroom⟩
          cases heq
          exact hroom
      · intro _ _ _ heq
        rw [hhanded] at heq
        cases heq
        exact ⟨hanswer, hsequence, timeout, hledger⟩

/-- The kernel refuses what is sent to the directory: no name is entered, and a record is left. -/
theorem refused_register_leaves_record :
    let station := Station.start 7 Config.standard
    let s := station.session { World.start with sendFaults := [(1, .invalidEndpoint)] }
    let ended := (station.endpoint.perform (.register "vfs" 8)).run s
    (Operation.register "vfs" 8).keepsItsSequence = true ∧
      ended.1 = .attempt (.error (Error.ofSendFault .invalidEndpoint)) ∧
      ended.2.process.ledger.find? 1 ≠ none := by
  intro station s ended
  have hreachable : station.endpoint.Reachable s := ⟨s.kernel, Relation.ReflTransGen.refl⟩
  have hkeeps : (Operation.register "vfs" 8).keepsItsSequence = true := rfl
  obtain ⟨-, -, hleft, hfails⟩ := perform_leaves_record_iff hreachable hkeeps
  have hhanded : (station.endpoint.transcript (.register "vfs" 8) s).filter Transfer.isSend =
      [.send ⟨station.endpoint.outgoing 1 DirectoryCommand.register
        (Json.encode ({ name := "vfs", pid := 8 } : RegisterRequest)) 1 0, true, 1⟩
        (.error .invalidEndpoint) 0] := rfl
  obtain ⟨hanswer, -, -⟩ := hfails _ _ _ hhanded
  have hroom : s.process.ledger.HasRoom 0 := ⟨by decide, Or.inl (by decide)⟩
  exact ⟨hkeeps, hanswer, hleft.2 ⟨_, _, _, hhanded, hroom⟩⟩

/-- The kernel refuses the request of a call, and the record of the call is still there when the
call has failed. -/
theorem refused_call_leaves_record :
    let station := Station.start 7 Config.standard
    let s := station.session { World.start with sendFaults := [(9, .queueFull)] }
    let ended := (station.endpoint.perform (.call 9 1 [] 100)).run s
    station.endpoint.Reachable s ∧
      ended.1 = .attempt (.error (Error.ofSendFault .queueFull)) ∧
      (ended.2.process.ledger.find? s.process.nextSequence).map SentRecord.state =
        some .sentFailed := by
  intro station s ended
  exact ⟨⟨s.kernel, Relation.ReflTransGen.refl⟩, rfl, by decide⟩

end Endpoint

end Interprocess

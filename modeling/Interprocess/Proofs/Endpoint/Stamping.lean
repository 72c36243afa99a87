import Interprocess.Proofs.Endpoint.Notices

/-!
# Timestamps of what is received

An envelope without a timestamp has the timestamp zero, although zero is also what a clock may show
first.  A process that takes an envelope from its kernel puts the current time on it if there is
none.  A notice from its own inbox it takes as it is: that was dated when it was written.

**Input.**  A history of operations, over any kernel.  Between two operations the kernel may do
anything, so it may deliver any envelope, and its clock may show any time.

**Results.**
* `mem_queued_noticed`: what comes into the inbox was dated when a send was refused.
* `receive_cases`: where a received envelope comes from, and what it was there.
* `timestamp_of_received`: which envelopes are received without a timestamp although there is a
  time.
-/

namespace Interprocess

namespace Envelope

/-- Stamping changes no more than the timestamp. -/
theorem stamped_eq (now : Nat) (envelope : Envelope) :
    envelope.stamped now = { envelope with
      timestamp := if envelope.timestamp = 0 then now else envelope.timestamp } := by
  unfold stamped
  split <;> rfl

end Envelope

namespace Endpoint

variable {σ : Type} {e : Endpoint σ} {deeds : List (Deed σ)} {s t : Session σ}
  {envelope notice : Envelope} {timeout : Nat}

/-- Whether a notice tells of a send that the kernel refused when its clock showed a time. -/
def Noticed (e : Endpoint σ) (deeds : List (Deed σ)) (time : Nat) (notice : Envelope) : Prop :=
  ∃ deed ∈ deeds, ∃ submission fault,
    .send submission (.error fault) time ∈ e.transcript deed.operation deed.before ∧
      submission.wantsFeedback = true ∧
      notice = failureNotice e.pid time submission.envelope fault

/-- A notice is dated when the send was refused. -/
theorem Noticed.timestamp_eq {time : Nat} (h : e.Noticed deeds time notice) :
    notice.timestamp = time := by
  obtain ⟨_, _, _, _, _, _, rfl⟩ := h
  rfl

/-- What comes into the inbox was dated when a send was refused. -/
theorem mem_queued_noticed (h : notice ∈ e.queued deeds) :
    e.Noticed deeds notice.timestamp notice := by
  induction deeds with
  | nil => cases h
  | cons deed earlier ih =>
      rcases List.mem_append.1 h with hold | hnew
      · obtain ⟨old, hmem, hrefused⟩ := ih hold
        exact ⟨old, List.mem_cons_of_mem deed hmem, hrefused⟩
      · obtain ⟨submission, fault, time, hrefused, hfeedback, rfl⟩ :=
          mem_raised_iff.1 ((e.queuedBy_sublist deed).subset hnew)
        exact ⟨deed, List.mem_cons_self, submission, fault, hrefused, hfeedback, rfl⟩

/-- Where a received envelope comes from, and what it was there: a notice from the inbox, or an
envelope from the kernel, which is stamped. -/
inductive ReceivedFrom (e : Endpoint σ) (deeds : List (Deed σ)) (s : Session σ)
    (timeout now : Nat) : Envelope → Prop
  | inbox {notice : Envelope} {rest : List Envelope}
      (hwaiting : s.process.inbox.waiting = notice :: rest)
      (hnoticed : e.Noticed deeds notice.timestamp notice) :
      ReceivedFrom e deeds s timeout now notice
  | kernel {queued : Envelope} (hwaiting : s.process.inbox.waiting = [])
      (htaken : (e.kernel.receive timeout s.kernel).1 = .ok (some queued)) :
      ReceivedFrom e deeds s timeout now { queued with
        timestamp := if queued.timestamp = 0 then now else queued.timestamp }

theorem receive_cases (h : e.History deeds s)
    (hreceived : (e.receive timeout).run.run s = (.ok envelope, t)) :
    e.ReceivedFrom deeds s timeout (e.kernel.now t.kernel) envelope := by
  rw [run_receive] at hreceived
  cases hwaiting : s.process.inbox.waiting with
  | cons notice rest =>
      rw [hwaiting] at hreceived
      obtain ⟨hsame, -⟩ := Prod.mk.inj hreceived
      obtain rfl := Except.ok.inj hsame
      have hqueued : notice ∈ e.queued deeds := by
        refine h.kept.order.subset (List.mem_append_right _ ?_)
        rw [hwaiting]
        exact List.mem_cons_self
      exact .inbox hwaiting (mem_queued_noticed hqueued)
  | nil =>
      rw [hwaiting] at hreceived
      obtain ⟨hstamped, rfl⟩ := Prod.mk.inj hreceived
      rcases htaken : (e.kernel.receive timeout s.kernel).1 with fault | _ | queued
      · rw [htaken] at hstamped
        cases hstamped
      · rw [htaken] at hstamped
        cases hstamped
      · rw [htaken] at hstamped
        obtain rfl := Except.ok.inj hstamped
        rw [Envelope.stamped_eq]
        exact .kernel hwaiting htaken

/-- **Timestamps of what is received.**  In every history, an envelope that is received was a notice
in the inbox and is as it was there, or it comes from the kernel, keeps its timestamp if it has one,
gets the current time otherwise, and is the same in all else.  While there is a time, an envelope is
received without a timestamp exactly if it was in the inbox and tells of a send that was refused
when the clock still showed zero. -/
theorem timestamp_of_received (h : e.History deeds s)
    (hreceived : (e.receive timeout).run.run s = (.ok envelope, t)) :
    e.ReceivedFrom deeds s timeout (e.kernel.now t.kernel) envelope ∧
      (e.kernel.now t.kernel ≠ 0 →
        (envelope.timestamp = 0 ↔
          s.process.inbox.waiting.head? = some envelope ∧ e.Noticed deeds 0 envelope)) := by
  have hfrom := receive_cases h hreceived
  refine ⟨hfrom, fun hnow => ⟨fun hnone => ?_, fun hinbox => hinbox.2.timestamp_eq⟩⟩
  cases hfrom with
  | inbox hwaiting hnoticed =>
      rw [hnone] at hnoticed
      exact ⟨congrArg List.head? hwaiting, hnoticed⟩
  | kernel =>
      simp only at hnone
      split at hnone
      · exact absurd hnone hnow
      · next htime => exact absurd hnone htime

/-- A send is refused when the clock shows 500, and its notice is received much later. -/
theorem timestamp_of_late_notice :
    let station := Station.start 7 Config.standard
    let e := station.endpoint
    let send := Operation.send 9 0x1000 [1] true none
    let s := station.session { World.start with clock := 500, sendFaults := [(9, .queueFull)] }
    let later := { ((e.perform send).run s).2 with
      kernel := ((e.perform send).run s).2.kernel.onWorld (World.advance 1000) }
    let received := (e.receive 10).run.run later
    e.kernel.now received.2.kernel = 1500 ∧
      ∃ notice, received.1 = .ok notice ∧ notice.timestamp ≠ 0 := by
  intro station e send s later received
  have hhistory : e.History [⟨send, s⟩] later := ((History.start s.kernel).operate send).outside _
  let notice := failureNotice 7 500 (e.outgoing 9 0x1000 [1] 1 500) .queueFull
  have hreceived : received = (.ok notice, received.2) := Prod.ext (by decide +kernel) rfl
  obtain ⟨-, hdated⟩ := timestamp_of_received hhistory hreceived
  have hnow : e.kernel.now received.2.kernel = 1500 := by decide +kernel
  refine ⟨hnow, notice, congrArg Prod.fst hreceived, fun hnone => ?_⟩
  have hnoticed := ((hdated (by rw [hnow]; decide)).1 hnone).2
  exact absurd hnoticed.timestamp_eq (by decide)

/-- A send is refused when the clock shows zero.  Its notice is received at 500, and still has no
timestamp. -/
theorem early_notice_without_timestamp :
    let station := Station.start 7 Config.standard
    let e := station.endpoint
    let send := Operation.send 9 0x1000 [1] true none
    let s := station.session { World.start with sendFaults := [(9, .queueFull)] }
    let later := { ((e.perform send).run s).2 with
      kernel := ((e.perform send).run s).2.kernel.onWorld (World.advance 500) }
    let received := (e.receive 10).run.run later
    e.History [⟨send, s⟩] later ∧ e.kernel.now received.2.kernel = 500 ∧
      received.1 = .ok (failureNotice 7 0 (e.outgoing 9 0x1000 [1] 1 0) .queueFull) ∧
      (failureNotice 7 0 (e.outgoing 9 0x1000 [1] 1 0) .queueFull).timestamp = 0 := by
  intro station e send s later received
  exact ⟨((History.start s.kernel).operate send).outside _, by decide +kernel, by decide +kernel,
    rfl⟩

end Endpoint

end Interprocess

import Interprocess.Proofs.Endpoint.Footprint
import Interprocess.Proofs.Endpoint.Query

/-!
# The last poll of a call

Every poll of a call but the last one finds the request open, so the record has only absorbed what
was reported until then.  Its timeout counts at the last poll alone: if it was over at an earlier
one, that would have been the last.

**Input.**  Any kernel, with any clock, and a call whose request is tracked.  `pollNews (last + 1)`
are all the reports that the call finds, oldest first.

**Results.**
* `Waiting.pollSession`: where the call stands at a poll that it makes.
* `result_awaitResponse`: a call answers what the record comes to at its last poll.
* `result_of_first`, `result_of_undecided`: what that is, by the first decisive report.
-/

namespace Interprocess

namespace SentRecord

variable {r : SentRecord} {now : Nat}

/-- What a call answers when its last poll finds this record. -/
def result (r : SentRecord) : Except Error Bytes :=
  match r.state.callOutcome with
  | .answered => .ok (r.response.getD [])
  | .unreported => .ok []
  | .failed error => .error error
  | .undecided => .error .timeout

/-- A record that is open after its timeout was looked at is as it was. -/
theorem settle_of_open (h : (r.settle now).state.isTerminal = false) : r.settle now = r := by
  unfold settle at h ⊢
  split
  · next hoverdue =>
      rw [if_pos hoverdue, isTerminal_verdict] at h
      cases h
  · rfl

end SentRecord

namespace Endpoint

variable {σ : Type} {e : Endpoint σ} {sequence : Sequence} {r : SentRecord}
  {posted : Session σ}

theorem Waiting.inFlight (h : e.Waiting sequence r posted) :
    r.state = .sent ∨ r.state = .delivered :=
  (DeliveryState.not_isTerminal_iff h.coherent.handed).1 h.undecided

/-- A call stands at a poll with all news of the polls before it. -/
theorem Waiting.pollSession (h : e.Waiting sequence r posted) {poll : Nat}
    (hopen : ∀ earlier < poll,
      ((e.state sequence).run (e.pollSession sequence posted earlier)).1.isTerminal = false) :
    e.Waiting sequence (SentRecord.absorbAll (e.pollNews sequence posted poll) r)
      (e.pollSession sequence posted poll) := by
  induction poll with
  | zero => exact h
  | succ poll ih =>
      have hat := ih fun earlier hearlier => hopen earlier (Nat.lt_succ_of_lt hearlier)
      obtain ⟨hstate, -, hnext⟩ := hat.look
      have hundecided := hopen poll (Nat.lt_succ_self poll)
      rw [hstate] at hundecided
      have hstep := hnext hundecided
      rw [SentRecord.settle_of_open hundecided] at hstep
      rw [pollNews_succ, SentRecord.absorbAll_append, pollSession_succ]
      exact hstep

/-- A poll that is the last one answers what it finds. -/
theorem result_of_poll {s : Session σ} {found : SentRecord} {left : Nat}
    (hstate : ((e.state sequence).run s).1 = found.state)
    (hfound : ((e.state sequence).run s).2.process.ledger.find? sequence = some found)
    (hends : found.state.isTerminal = true ∨ left = 0) (call : String) (timeout : Nat) :
    ((e.awaitResponse sequence call timeout (left + 1)).run.run s).1 = found.result := by
  rw [run_awaitResponse, SentRecord.result]
  simp only [hstate, hfound, Option.bind_some]
  cases houtcome : found.state.callOutcome with
  | answered | unreported | failed => rfl
  | undecided =>
      have hopen := DeliveryState.callOutcome_eq_undecided.1 houtcome
      obtain rfl : left = 0 := hends.resolve_left (by simp [hopen])
      rfl

/-- **A call answers what its record comes to at its last poll.** -/
theorem result_awaitResponse (h : e.Waiting sequence r posted) {polls last : Nat}
    (hlast : e.LastPoll sequence posted polls last) (call : String) (timeout : Nat) :
    ((e.awaitResponse sequence call timeout polls).run.run posted).1 =
      ((SentRecord.absorbAll (e.pollNews sequence posted (last + 1)) r).settle
        (e.pollClock sequence posted last)).result := by
  obtain ⟨left, hleft⟩ := Nat.exists_eq_add_of_lt hlast.made
  have hsplit : polls = left + 1 + last := by omega
  obtain ⟨hstate, hfound, -⟩ := (h.pollSession hlast.earlier).look
  have hends := hlast.ends
  rw [hstate] at hends
  rw [pollNews_succ, SentRecord.absorbAll_append, hsplit, awaitResponse_pollSession hlast.earlier]
  refine result_of_poll hstate hfound (hends.imp_right fun hbudget => ?_) call timeout
  omega

/-! ## The first decisive report -/

section FirstReport

variable {polls last : Nat} (h : e.Waiting sequence r posted)
  (hlast : e.LastPoll sequence posted polls last)

include h hlast

/-- A call answers what the first decisive report says, at whatever poll it is found and whatever is
reported later. -/
theorem result_of_first {before after : List Feedback} {report : Feedback}
    (hnews : e.pollNews sequence posted (last + 1) = before ++ report :: after)
    (hbefore : Feedback.Undecided r.state before) (hreport : report.IsDecisive r.state before)
    (call : String) (timeout : Nat) :
    ((e.awaitResponse sequence call timeout polls).run.run posted).1 =
      SentRecord.result { r with state := report.reportedState, response := report.response? } := by
  have hend := SentRecord.absorbAll_of_first h.inFlight hbefore hreport after
  rw [h.response_eq_none, Option.or_none] at hend
  rw [result_awaitResponse h hlast, hnews, hend, SentRecord.settle_of_isTerminal]
  exact SentRecord.isTerminal_of_isDecisive hreport

/-- Without a decisive report a call answers nothing if its last poll came too late, and gives up
otherwise. -/
theorem result_of_undecided
    (hnews : Feedback.Undecided r.state (e.pollNews sequence posted (last + 1)))
    (call : String) (timeout : Nat) :
    ((e.awaitResponse sequence call timeout polls).run.run posted).1 =
      if r.isStale (e.pollClock sequence posted last) then .ok [] else .error .timeout := by
  rw [result_awaitResponse h hlast,
    SentRecord.settle_absorbAll_of_undecided h.coherent h.inFlight hnews]
  cases r.isStale (e.pollClock sequence posted last) with
  | true => rfl
  | false =>
      simp only [SentRecord.result, Bool.false_eq_true, if_false]
      rcases Feedback.progress_eq r.state (e.pollNews sequence posted (last + 1)) with
        hsent | hdelivered
      · rw [hsent]
        rfl
      · rw [hdelivered]
        rfl

end FirstReport

end Endpoint
end Interprocess

import Interprocess.Proofs.Endpoint.Reachable
import Interprocess.Proofs.Kernel.Clock
import Mathlib.Logic.Function.Iterate

/-!
# What a call answers, and when

A call sends a request and then polls: it takes in the reports about the request, looks at
the state of its record, and sleeps for one interval if that is not terminal.

**Input.**  A kernel whose clock moves in sleep only, and a call whose send the kernel took
and whose record the ledger retained.  The polls are counted from zero, `pollSession k` is
the session at the poll number `k`, provided that no earlier poll ended the call, and
`pollNews k` are the reports that the polls before that one find.

**No expiry.**  The call and its record have the same timeout, and no poll is made after it
is over, so the record is never stale when it is looked at.

**Results.**
* `AtPoll.query`: a poll lets the record absorb the reports, and nothing else.
* `atPoll_pollSession`: the clock and the record at each poll.
* `call_ends`: the answer of a call and the time that it takes.
-/

namespace Interprocess

namespace SentRecord

/-- What a call answers when the record of its request came to an end: the response, nothing
if nothing is known, or why the request failed. -/
inductive Answers (r : SentRecord) : Except Error Bytes → Prop
  | response {bytes : Bytes} (hstate : r.state = .received)
      (hresponse : r.response = some bytes) : Answers r (.ok bytes)
  | nothing (hstate : r.state = .unknown) : Answers r (.ok [])
  | denied (hstate : r.state = .permissionDenied) : Answers r (.error .permissionDenied)
  | failed (hstate : r.state = .deliveryFailed ∨ r.state = .lost) :
      Answers r (.error .serviceUnavailable)

theorem Answers.eq_ok {r : SentRecord} {result : Except Error Bytes} {bytes : Bytes}
    (h : r.Answers result) (hstate : r.state = .received) (hresponse : r.response = some bytes) :
    result = .ok bytes := by
  cases h with
  | response _ hbytes =>
      rw [hresponse] at hbytes
      exact congrArg Except.ok (Option.some.inj hbytes).symm
  | nothing hother | denied hother | failed hother => simp [hstate] at hother

/-- Reports make a record `unknown` only if one of them says so. -/
theorem unknown_mem_of_absorbAll {reports : List Feedback} {r : SentRecord}
    (hopen : r.state ≠ .unknown) (h : (absorbAll reports r).state = .unknown) :
    Feedback.unknown ∈ reports := by
  induction reports generalizing r with
  | nil => exact absurd h hopen
  | cons report rest ih =>
      by_cases hstate : (r.absorb report).state = .unknown
      · have hreport : report = .unknown := by
          unfold absorb at hstate
          split at hstate
          · cases report <;> simp_all [Feedback.reportedState]
          · exact absurd hstate hopen
        rw [hreport]
        exact List.mem_cons_self
      · exact List.mem_cons_of_mem report (ih hstate h)

/-- No report says that a message failed to be sent. -/
theorem ne_sentFailed_absorbAll (reports : List Feedback) {r : SentRecord}
    (h : r.state ≠ .sentFailed) :
    (absorbAll reports r).state ≠ .sentFailed := by
  induction reports generalizing r with
  | nil => exact h
  | cons report rest ih =>
      refine ih ?_
      unfold absorb
      split
      · cases report <;> simp [Feedback.reportedState]
      · exact h

end SentRecord

namespace Endpoint

variable {σ : Type} (e : Endpoint σ)

/-- How often a call polls at most. -/
def callPolls (timeout : Nat) : Nat := max 1 (timeout / e.config.callInterval)

/-- The session of a call after one more poll that did not end it. -/
def pollStep (sequence : Sequence) (s : Session σ) : Session σ :=
  ((e.sleep e.config.callInterval).run ((e.state sequence).run s).2).2

/-- The session of a call at a poll, when its request was posted in `posted`. -/
def pollSession (sequence : Sequence) (posted : Session σ) (poll : Nat) : Session σ :=
  (e.pollStep sequence)^[poll] posted

/-- The reports that a poll finds. -/
def pollReports (sequence : Sequence) (posted : Session σ) (poll : Nat) : List Feedback :=
  (e.kernel.reports sequence (e.pollSession sequence posted poll).kernel).1

/-- The reports that the first polls find, oldest first. -/
def pollNews (sequence : Sequence) (posted : Session σ) (polls : Nat) : List Feedback :=
  (List.range polls).flatMap (e.pollReports sequence posted)

/-! ## One poll -/

/-- Where a call stands when it looks at its request: the record of the request is `r`, and
the clock shows `now`. -/
structure AtPoll (sequence : Sequence) (r : SentRecord) (now : Nat) (s : Session σ) :
    Prop where
  order : e.InOrder s
  tracked : s.process.ledger.find? sequence = some r
  clock : e.kernel.now s.kernel = now

variable {e} {sequence : Sequence} {r : SentRecord} {now : Nat} {s : Session σ}

/-- A poll in time lets the record absorb the reports, and nothing else. -/
theorem AtPoll.query (hkernel : e.kernel.StillClock) (h : e.AtPoll sequence r now s)
    (htime : now - r.sentAt ≤ r.timeout) :
    let found := SentRecord.absorbAll (e.kernel.reports sequence s.kernel).1 r
    ((e.state sequence).run s).1 = found.state ∧
      e.AtPoll sequence found now ((e.state sequence).run s).2 := by
  intro found
  have hfound := SentRecord.grows_absorbAll (e.kernel.reports sequence s.kernel).1 r
  have hstale : found.isStale now = false := by
    simp only [SentRecord.isStale, found, hfound.sentAt, hfound.timeout]
    exact decide_eq_false (Nat.not_lt.2 htime)
  have hclock : e.kernel.now (e.kernel.reports sequence s.kernel).2 = now :=
    (hkernel.reports sequence s.kernel).trans h.clock
  have htracked : (e.apply (.query sequence) s).process.ledger.find? sequence = some found := by
    rw [e.find?_query_self h.order.sound, h.tracked, hclock]
    exact congrArg some (SentRecord.settle_of_not_isStale hstale)
  refine ⟨e.state_eq_of_find? htracked, e.inOrder_apply h.order (.query sequence),
    htracked, ?_⟩
  rw [run_state]
  exact (hkernel.logAll _ _).trans hclock

theorem AtPoll.sleep {horizon : Nat} (hkernel : e.kernel.PunctualUntil horizon)
    (h : e.AtPoll sequence r now s) {ms : Nat} (htime : now + ms ≤ horizon) :
    e.AtPoll sequence r (now + ms) ((e.sleep ms).run s).2 where
  order := ⟨h.order.sound, h.order.capacity⟩
  tracked := h.tracked
  clock := by
    rw [run_sleep, hkernel.sleep, h.clock]
    rw [h.clock]
    exact htime

/-- What one poll of a call does. -/
theorem run_awaitResponse (call : String) (timeout polls : Nat) (s : Session σ) :
    (e.awaitResponse sequence call timeout (polls + 1)).run.run s =
      let looked := (e.state sequence).run s
      let forgotten := { looked.2 with process := (looked.2.process.forget sequence).2 }
      match looked.1.callOutcome with
      | .answered =>
          (.ok (((looked.2.process.ledger.find? sequence).bind SentRecord.response).getD []),
            forgotten)
      | .unreported => (.ok [], forgotten)
      | .failed error =>
          (.error error,
            ((e.log ("call: failed " ++ call ++ " err=" ++ error.message)).run forgotten).2)
      | .undecided =>
          (e.awaitResponse sequence call timeout polls).run.run (e.pollStep sequence s) := by
  conv => enter [1, 1, 1]; unfold awaitResponse
  rw [Attempt.run_bind, Attempt.run_lift]
  simp only
  cases ((e.state sequence).run s).1.callOutcome <;> rfl

/-- A poll that finds the request open goes on to the next one. -/
theorem awaitResponse_of_open (hopen : ((e.state sequence).run s).1.isTerminal = false)
    (call : String) (timeout polls : Nat) :
    (e.awaitResponse sequence call timeout (polls + 1)).run.run s =
      (e.awaitResponse sequence call timeout polls).run.run (e.pollStep sequence s) := by
  have houtcome : ((e.state sequence).run s).1.callOutcome = .undecided := by
    generalize ((e.state sequence).run s).1 = state at hopen ⊢
    cases state <;> simp_all [DeliveryState.isTerminal, DeliveryState.callOutcome]
  rw [run_awaitResponse]
  simp only [houtcome]

/-- A poll that finds the request at its end ends the call. -/
theorem AtPoll.ends (hkernel : e.kernel.StillClock)
    (h : e.AtPoll sequence r now ((e.state sequence).run s).2)
    (hstate : ((e.state sequence).run s).1 = r.state) (hterminal : r.state.isTerminal = true)
    (htaken : r.state ≠ .sentFailed) (call : String) (timeout polls : Nat) :
    let ended := (e.awaitResponse sequence call timeout (polls + 1)).run.run s
    r.Answers ended.1 ∧ e.kernel.now ended.2.kernel = now := by
  intro ended
  have hlogged : ∀ line, e.kernel.now
      (e.kernel.log line ((e.state sequence).run s).2.kernel) = now :=
    fun line => (hkernel.log line _).trans h.clock
  obtain ⟨hin, _⟩ := h.order.sound.find?_eq_some_iff.1 h.tracked
  have hanswered := (h.order.sound.coherent r hin).answered
  simp only [ended, run_awaitResponse, hstate, h.tracked, Option.bind_some]
  cases hr : r.state with
  | received =>
      obtain ⟨bytes, hbytes⟩ := Option.isSome_iff_exists.1 (hanswered.2 hr)
      simp only [DeliveryState.callOutcome, hbytes, Option.getD_some]
      exact ⟨.response hr hbytes, h.clock⟩
  | unknown => exact ⟨.nothing hr, h.clock⟩
  | permissionDenied => exact ⟨.denied hr, hlogged _⟩
  | deliveryFailed => exact ⟨.failed (Or.inl hr), hlogged _⟩
  | lost => exact ⟨.failed (Or.inr hr), hlogged _⟩
  | sentFailed => exact absurd hr htaken
  | pending | sending | sent | delivered =>
      rw [hr] at hterminal
      exact Bool.noConfusion hterminal

theorem AtPoll.times_out (hkernel : e.kernel.StillClock)
    (h : e.AtPoll sequence r now s) (call : String) (timeout : Nat) :
    let ended := (e.awaitResponse sequence call timeout 0).run.run s
    ended.1 = .error .timeout ∧ e.kernel.now ended.2.kernel = now := by
  intro ended
  refine ⟨rfl, ?_⟩
  exact (hkernel.log _ _).trans h.clock

/-! ## All polls -/

theorem now_post (hkernel : e.kernel.InstantSend) (receiver : Pid) (kind : MessageKind)
    (payload : Bytes) (wantsFeedback : Bool) (timeout : Nat) (s : Session σ) :
    e.kernel.now ((e.post receiver kind payload wantsFeedback timeout).run.run s).2.kernel =
      e.kernel.now s.kernel := by
  rw [run_post]
  simp only
  split
  · exact (hkernel.send _ _ _ _).trans (hkernel.logAll _ _)
  · rw [run_refuse]
    refine (hkernel.log _ _).trans ?_
    exact (hkernel.send _ _ _ _).trans (hkernel.logAll _ _)

/-- The record of a request that the kernel took, if it was retained. -/
theorem tracked_posted (h : e.InOrder s) {destination : Pid} {kind : MessageKind}
    {request : Bytes} {timeout : Nat} {posted : Session σ}
    (hsend : (e.sendWithTimeout destination kind request true timeout).run.run s =
      (.ok sequence, posted))
    (htracked : posted.process.ledger.find? sequence ≠ none) :
    e.InOrder posted ∧ posted.process.ledger.find? sequence =
      some (SentRecord.handedOver sequence destination kind (e.kernel.now s.kernel) timeout
        .sent) := by
  have hpost := post_of_sendWithTimeout hsend
  have hnext := eq_nextSequence_of_sendWithTimeout hsend
  have horder := e.inOrder_apply h (.post destination kind request true timeout)
  have hledger := e.ledger_post h.sound destination kind request true timeout
  simp only [apply, hpost] at horder hledger
  refine ⟨horder, ?_⟩
  cases hroom : s.process.ledger.room? (e.kernel.now s.kernel) with
  | none =>
      rw [hledger, Ledger.enter_of_room?_eq_none hroom,
        h.sound.find?_eq_none (Nat.le_of_eq hnext.symm)] at htracked
      exact absurd rfl htracked
  | some kept =>
      rw [horder.sound.find?_eq_some_iff, hledger, Ledger.enter_of_room?_eq_some hroom, hnext]
      exact ⟨List.mem_append_right kept (List.mem_singleton_self _), rfl⟩

/-- Where a call stands at its first poll, if its record was retained. -/
theorem atPoll_posted (hkernel : e.kernel.InstantSend) (h : e.InOrder s) {destination : Pid}
    {kind : MessageKind} {request : Bytes} {timeout : Nat} {posted : Session σ}
    (hsend : (e.sendWithTimeout destination kind request true timeout).run.run s =
      (.ok sequence, posted))
    (htracked : posted.process.ledger.find? sequence ≠ none) :
    e.AtPoll sequence
      (SentRecord.handedOver sequence destination kind (e.kernel.now s.kernel) timeout .sent)
      (e.kernel.now s.kernel) posted := by
  obtain ⟨horder, hrecord⟩ := tracked_posted h hsend htracked
  have hclock := now_post hkernel destination kind request true timeout s
  rw [post_of_sendWithTimeout hsend] at hclock
  exact ⟨horder, hrecord, hclock⟩

theorem pollNews_succ (sequence : Sequence) (posted : Session σ) (polls : Nat) :
    e.pollNews sequence posted (polls + 1) =
      e.pollNews sequence posted polls ++ e.pollReports sequence posted polls := by
  simp [pollNews, List.range_succ]

/-- A poll in time shows the record with all news up to it. -/
theorem AtPoll.look (hkernel : e.kernel.StillClock) {posted : Session σ} {poll : Nat}
    (h : e.AtPoll sequence (SentRecord.absorbAll (e.pollNews sequence posted poll) r) now
      (e.pollSession sequence posted poll))
    (htime : now - r.sentAt ≤ r.timeout) :
    let looked := (e.state sequence).run (e.pollSession sequence posted poll)
    let record := SentRecord.absorbAll (e.pollNews sequence posted (poll + 1)) r
    looked.1 = record.state ∧ e.AtPoll sequence record now looked.2 := by
  have hgrown := SentRecord.grows_absorbAll (e.pollNews sequence posted poll) r
  rw [← hgrown.sentAt, ← hgrown.timeout] at htime
  rw [pollNews_succ, SentRecord.absorbAll_append]
  exact h.query hkernel htime

/-- Where a call stands at each poll that is made in time. -/
theorem atPoll_pollSession {horizon : Nat} (hkernel : e.kernel.PunctualUntil horizon)
    {posted : Session σ} (h : e.AtPoll sequence r now posted) (hsent : r.sentAt = now)
    {polls : Nat} (hhorizon : now + polls * e.config.callInterval ≤ horizon)
    (hbudget : ∀ poll < polls, poll * e.config.callInterval ≤ r.timeout) :
    ∀ poll ≤ polls,
      e.AtPoll sequence (SentRecord.absorbAll (e.pollNews sequence posted poll) r)
        (now + poll * e.config.callInterval) (e.pollSession sequence posted poll) := by
  intro poll
  induction poll with
  | zero =>
      -- Nothing was heard before the first poll.
      intro _
      simpa [pollNews, pollSession] using h
  | succ poll ih =>
      intro hpoll
      have hat := ih (Nat.le_of_succ_le hpoll)
      have htime : now + poll * e.config.callInterval - r.sentAt ≤ r.timeout := by
        rw [hsent, Nat.add_sub_cancel_left]
        exact hbudget poll hpoll
      have hlooked := (hat.look hkernel.toStillClock htime).2
      have hlater : now + poll * e.config.callInterval + e.config.callInterval ≤ horizon := by
        rw [Nat.add_assoc, ← Nat.succ_mul]
        exact Nat.le_trans
          (Nat.add_le_add_left (Nat.mul_le_mul_right e.config.callInterval hpoll) now) hhorizon
      have hslept := hlooked.sleep hkernel hlater
      rw [pollSession, Function.iterate_succ_apply', Nat.succ_mul, ← Nat.add_assoc]
      exact hslept

/-- What each poll in time shows, whether or not an earlier one ended the call. -/
theorem look_pollSession {horizon : Nat} (hkernel : e.kernel.PunctualUntil horizon)
    {posted : Session σ} (h : e.AtPoll sequence r now posted) (hsent : r.sentAt = now)
    {polls : Nat} (hhorizon : now + polls * e.config.callInterval ≤ horizon)
    (hbudget : ∀ poll < polls, poll * e.config.callInterval ≤ r.timeout) :
    ∀ poll < polls,
      let looked := (e.state sequence).run (e.pollSession sequence posted poll)
      let record := SentRecord.absorbAll (e.pollNews sequence posted (poll + 1)) r
      looked.1 = record.state ∧
        e.AtPoll sequence record (now + poll * e.config.callInterval) looked.2 := by
  intro poll hpoll
  have hat := atPoll_pollSession hkernel h hsent hhorizon hbudget poll (Nat.le_of_lt hpoll)
  refine hat.look hkernel.toStillClock ?_
  rw [hsent, Nat.add_sub_cancel_left]
  exact hbudget poll hpoll

/-- A call goes on as long as its polls find the request open. -/
theorem awaitResponse_pollSession {posted : Session σ} {polls : Nat}
    (hopen : ∀ poll < polls,
      ((e.state sequence).run (e.pollSession sequence posted poll)).1.isTerminal = false)
    (call : String) (timeout left : Nat) :
    (e.awaitResponse sequence call timeout (left + polls)).run.run posted =
      (e.awaitResponse sequence call timeout left).run.run
        (e.pollSession sequence posted polls) := by
  induction polls generalizing left with
  | zero => rfl
  | succ polls ih =>
      have hbefore := ih (fun poll hpoll => hopen poll (Nat.lt_succ_of_lt hpoll)) (left + 1)
      rw [Nat.add_right_comm] at hbefore
      rw [← Nat.add_assoc, hbefore, awaitResponse_of_open (hopen polls (Nat.lt_succ_self _)),
        pollSession, pollSession, Function.iterate_succ_apply']

/-- Every poll of a call is made within its timeout. -/
theorem poll_le_timeout {timeout poll : Nat} (h : poll < e.callPolls timeout) :
    poll * e.config.callInterval ≤ timeout := by
  unfold callPolls at h
  rcases Nat.eq_zero_or_pos poll with hzero | hpos
  · simp [hzero]
  · have hlt : poll ≤ timeout / e.config.callInterval := by omega
    exact Nat.le_trans (Nat.mul_le_mul_right _ hlt) (Nat.div_mul_le_self _ _)

theorem callPolls_pos (e : Endpoint σ) (timeout : Nat) : 0 < e.callPolls timeout :=
  Nat.lt_of_lt_of_le Nat.one_pos (Nat.le_max_left 1 _)

/-- The polls of a call take no longer than its timeout, or one interval if that is longer. -/
theorem callPolls_le (timeout : Nat) :
    e.callPolls timeout * e.config.callInterval ≤ max e.config.callInterval timeout := by
  unfold callPolls
  rcases Nat.le_total (timeout / e.config.callInterval) 1 with hone | hmore
  · rw [Nat.max_eq_left hone, Nat.one_mul]
    exact Nat.le_max_left _ _
  · rw [Nat.max_eq_right hmore]
    exact Nat.le_trans (Nat.div_mul_le_self _ _) (Nat.le_max_right _ _)

theorem run_call {destination : Pid} {kind : MessageKind} {request : Bytes} {timeout : Nat}
    {posted : Session σ}
    (hsend : (e.sendWithTimeout destination kind request true timeout).run.run s =
      (.ok sequence, posted)) :
    (e.call destination kind request timeout).run.run s =
      (e.awaitResponse sequence (callText sequence destination kind) timeout
        (e.callPolls timeout)).run.run posted := by
  rw [call, Attempt.run_bind, hsend]
  rfl

section Keeps

variable {Q : σ → Prop} (hlog : ∀ line k, Q k → Q (e.kernel.log line k))
  (hsleep : ∀ ms k, Q k → Q (e.kernel.sleep ms k))
  (hsend : ∀ envelope wantsFeedback sequence k, Q k →
    Q (e.kernel.send envelope wantsFeedback sequence k).2)
  (hreports : ∀ sequence k, Q k → Q (e.kernel.reports sequence k).2)

include hlog hsleep hreports in
theorem keeps_awaitResponse (sequence : Sequence) (call : String) (timeout polls : Nat)
    (hs : Q s.kernel) :
    Q ((e.awaitResponse sequence call timeout polls).run.run s).2.kernel := by
  induction polls generalizing s with
  | zero => exact hlog _ _ hs
  | succ polls ih =>
      have hlooked : Q ((e.state sequence).run s).2.kernel := by
        rw [run_state]
        exact keeps_logAll hlog _ (hreports sequence _ hs)
      rw [run_awaitResponse]
      simp only
      cases ((e.state sequence).run s).1.callOutcome with
      | answered | unreported => exact hlooked
      | failed error => exact hlog _ _ hlooked
      | undecided => exact ih (hsleep _ _ hlooked)

include hlog hsleep hsend hreports in
/-- What lines, sleep, sends and reports keep is kept by a whole call. -/
theorem keeps_call (destination : Pid) (kind : MessageKind) (request : Bytes) (timeout : Nat)
    (hs : Q s.kernel) :
    Q ((e.call destination kind request timeout).run.run s).2.kernel := by
  have hposted := keeps_sendWithTimeout hlog hsend destination kind request true timeout hs
  rw [call, Attempt.run_bind]
  revert hposted
  rcases (e.sendWithTimeout destination kind request true timeout).run.run s with
    ⟨error | sequence, posted⟩
  · exact id
  · exact keeps_awaitResponse hlog hsleep hreports sequence _ timeout _

end Keeps

/-- **What a call answers, and when.**  A call whose send the kernel took and whose record the
ledger retained ends at the first poll at which the reports found so far bring the record to
an end, or else when all polls are made; its record never expires before. -/
theorem call_ends (h : e.Reachable s) {destination : Pid} {kind : MessageKind}
    {request : Bytes} {timeout : Nat} {posted : Session σ}
    (hsend : (e.sendWithTimeout destination kind request true timeout).run.run s =
      (.ok sequence, posted))
    (htracked : posted.process.ledger.find? sequence ≠ none)
    (hkernel : e.kernel.PunctualUntil
      (e.kernel.now s.kernel + e.callPolls timeout * e.config.callInterval)) :
    let start := e.kernel.now s.kernel
    let interval := e.config.callInterval
    let record := fun poll =>
      SentRecord.absorbAll (e.pollNews sequence posted (poll + 1))
        (SentRecord.handedOver sequence destination kind start timeout .sent)
    let ended := (e.call destination kind request timeout).run.run s
    (∀ poll < e.callPolls timeout, (record poll).state.isTerminal = true →
        (∀ earlier < poll, (record earlier).state.isTerminal = false) →
        (record poll).Answers ended.1 ∧
          e.kernel.now ended.2.kernel = start + poll * interval) ∧
      ((∀ poll < e.callPolls timeout, (record poll).state.isTerminal = false) →
        ended.1 = .error .timeout ∧
          e.kernel.now ended.2.kernel = start + e.callPolls timeout * interval) ∧
      start + e.callPolls timeout * interval ≤ start + max interval timeout ∧
      ∀ poll < e.callPolls timeout,
        let looked := (e.state sequence).run (e.pollSession sequence posted poll)
        e.kernel.now (e.pollSession sequence posted poll).kernel = start + poll * interval ∧
          looked.1 = (record poll).state ∧
          looked.2.process.ledger.find? sequence = some (record poll) ∧
          ((record poll).state = .unknown →
            Feedback.unknown ∈ e.pollNews sequence posted (poll + 1)) := by
  intro start interval record ended
  have hfirst := atPoll_posted hkernel.toInstantSend h.inOrder hsend htracked
  have hat := atPoll_pollSession hkernel hfirst rfl (Nat.le_refl _)
    fun poll hpoll => poll_le_timeout hpoll
  have hlooks : ∀ poll < e.callPolls timeout,
      ((e.state sequence).run (e.pollSession sequence posted poll)).1 = (record poll).state ∧
        e.AtPoll sequence (record poll) (start + poll * interval)
          ((e.state sequence).run (e.pollSession sequence posted poll)).2 :=
    look_pollSession hkernel hfirst rfl (Nat.le_refl _) fun poll hpoll => poll_le_timeout hpoll
  have hopen : ∀ polls ≤ e.callPolls timeout,
      (∀ poll < polls, (record poll).state.isTerminal = false) → ∀ poll < polls,
      ((e.state sequence).run (e.pollSession sequence posted poll)).1.isTerminal = false := by
    intro polls hpolls hrecords poll hpoll
    rw [(hlooks poll (Nat.lt_of_lt_of_le hpoll hpolls)).1]
    exact hrecords poll hpoll
  have hended : ended = (e.awaitResponse sequence (callText sequence destination kind) timeout
      (e.callPolls timeout)).run.run posted := run_call hsend
  refine ⟨?_, ?_, Nat.add_le_add_left (callPolls_le timeout) start, ?_⟩
  · intro poll hpoll hterminal hearlier
    -- All polls before this one go on, so the call stands at this one.
    obtain ⟨left, hleft⟩ := Nat.exists_eq_add_of_lt hpoll
    have hsplit : e.callPolls timeout = left + 1 + poll := by omega
    rw [hsplit, awaitResponse_pollSession (hopen poll (Nat.le_of_lt hpoll) hearlier)] at hended
    obtain ⟨hstate, hlooked⟩ := hlooks poll hpoll
    have htaken : (record poll).state ≠ .sentFailed :=
      SentRecord.ne_sentFailed_absorbAll _ (by simp [SentRecord.handedOver])
    rw [hended]
    exact hlooked.ends hkernel.toStillClock hstate hterminal htaken _ timeout left
  · intro hundecided
    have hsplit : e.callPolls timeout = 0 + e.callPolls timeout := by omega
    rw [hsplit, awaitResponse_pollSession (hopen _ (Nat.le_refl _) hundecided)] at hended
    rw [hended]
    exact (hat _ (Nat.le_refl _)).times_out hkernel.toStillClock _ timeout
  · intro poll hpoll looked
    obtain ⟨hstate, hlooked⟩ := hlooks poll hpoll
    refine ⟨(hat poll (Nat.le_of_lt hpoll)).clock, hstate, hlooked.tracked, ?_⟩
    exact SentRecord.unknown_mem_of_absorbAll (by simp [SentRecord.handedOver])

/-- A receiver that answers after 25 ms is heard at the poll after 30 ms. -/
theorem call_ends_with_late_answer :
    let late : Timetable := [(15, .delivered), (25, .received [1])]
    let station : Station := { Station.start 7 Config.standard with
      adjustments := { Adjustments.none with delays := [(9, late)] } }
    let s := station.session { World.start with responders := [(9, .silent)] }
    ((station.endpoint.call 9 0x1000 [] 100).run.run s).1 = .ok [1] ∧
      station.endpoint.kernel.now ((station.endpoint.call 9 0x1000 [] 100).run.run s).2.kernel =
        station.endpoint.kernel.now s.kernel + 3 * station.endpoint.config.callInterval := by
  intro late station s
  have hreachable : station.endpoint.Reachable s := ⟨s.kernel, Relation.ReflTransGen.refl⟩
  have hsend : (station.endpoint.sendWithTimeout 9 0x1000 [] true 100).run.run s =
      (.ok 1, ((station.endpoint.sendWithTimeout 9 0x1000 [] true 100).run.run s).2) :=
    Prod.ext rfl rfl
  have hkernel : station.endpoint.kernel.PunctualUntil (station.endpoint.kernel.now s.kernel +
      station.endpoint.callPolls 100 * station.endpoint.config.callInterval) :=
    Adjustments.punctualUntil_kernel rfl (by decide)
  obtain ⟨hdecided, -⟩ := call_ends hreachable hsend (by decide) hkernel
  obtain ⟨hanswers, hclock⟩ := hdecided 3 (by decide) (by decide) (by decide)
  exact ⟨hanswers.eq_ok (by decide) (by decide), hclock⟩

end Endpoint

end Interprocess

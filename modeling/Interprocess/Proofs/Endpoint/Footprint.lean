import Interprocess.Proofs.Delivery.Overflow
import Interprocess.Proofs.Endpoint.RecordLife
import Interprocess.Proofs.Endpoint.Silence
import Mathlib.Data.Prod.Basic

/-!
# The footprint of a call

Each poll of a call settles the overdue records of the whole ledger.  A call polls many times, but
it leaves the records of other messages as if the ledger had expired once, at its last poll.  Its
own record is gone, and the only other trace in the ledger is the record that made room for it.

**Input.**  A reachable session, of any kernel, and a call whose send the kernel took.

**Last poll.**  `e.LastPoll sequence posted polls last` says that the poll number `last` is the last
one of `polls`: the request is open at each poll before it, and at this one it is at its end, or the
budget is used up.

**Results.**
* `erase_reviewed`: to the other records a query is an expiry.
* `erase_pollSession`: so all polls together are one expiry, if the clock does not go back.
* `process_awaitResponse`: on every exit the record of the request is taken out.
* `call_footprint`: what a call leaves behind.
-/

namespace Interprocess

namespace Ledger

variable {next sequence : Sequence} {now : Nat} {l : Ledger}

theorem erase_of_find?_eq_none (h : l.find? sequence = none) : l.erase sequence = l := by
  have habsent : ∀ r ∈ l.records, ¬ (r.sequence == sequence) = true := by
    simpa [find?_eq_none_iff] using h
  rw [erase, List.eraseP_of_forall_not habsent]

/-- To the records of other sequences a query is an expiry. -/
theorem erase_reviewed (h : l.Sound next) (reports : List Feedback) (now : Nat) :
    erase sequence
        { l with records := l.records.map (SentRecord.reviewed sequence reports now) } =
      ((l.erase sequence).expire now).2 := by
  have hmapped := h.map (SentRecord.reviewed_sequence sequence reports now)
    fun r hr => hr.reviewed sequence reports now
  have hkept : ((l.records.map (SentRecord.reviewed sequence reports now)).filter
        fun r => r.sequence != sequence) =
      (l.records.filter fun r => r.sequence != sequence).map fun r => r.settle now := by
    rw [List.filter_map]
    simp only [Function.comp_def, SentRecord.reviewed_sequence]
    refine List.map_congr_left fun r hr => ?_
    have hother : r.sequence ≠ sequence := by simpa using (List.mem_filter.1 hr).2
    rw [SentRecord.reviewed, if_neg hother]
  simp only [erase, expire]
  rw [eraseP_eq_filter SentRecord.sequence sequence hmapped.nodup_sequences,
    eraseP_eq_filter SentRecord.sequence sequence h.nodup_sequences, hkept]

/-! ## Making room -/

/-- The records that stay when another one is to be entered at `now`: all of them if there is a free
place or nothing to give up, and else all but one. -/
inductive Spares (now : Nat) (l : Ledger) : List SentRecord → Prop
  | all (h : l.size < l.capacity ∨ ∀ r ∈ l.records, ¬ r.IsExpendable now) :
      Spares now l l.records
  | allBut {victim : SentRecord} {kept : List SentRecord} (hfull : l.size = l.capacity)
      (hvictim : GivesUp now l.records victim kept) :
      Spares now l kept

theorem spares_room (h : l.size ≤ l.capacity) (now : Nat) :
    l.Spares now ((l.room? now).getD l.records) := by
  by_cases hfree : l.size < l.capacity
  · rw [room?_of_free hfree]
    exact .all (Or.inl hfree)
  · cases hroom : l.room? now with
    | none =>
        refine .all (Or.inr fun r hr hexpendable => ?_)
        have hplaces : 0 < l.capacity := by
          have hlength : 0 < l.size := List.length_pos_of_mem hr
          omega
        have hroom' := room?_isSome_iff.2 ⟨hplaces, Or.inr ⟨r, hr, hexpendable⟩⟩
        rw [hroom] at hroom'
        cases hroom'
    | some kept =>
        obtain ⟨victim, hvictim⟩ := givesUp_of_room? hfree hroom
        exact .allBut (by omega) hvictim

/-- What stays of the ledger when the record that was entered is taken out again. -/
theorem erase_enter (h : l.Sound next) {record : SentRecord} (hsequence : record.sequence = next)
    (now : Nat) :
    (l.enter record now).erase next = { l with records := (l.room? now).getD l.records } := by
  cases hroom : l.room? now with
  | none =>
      rw [enter_of_room?_eq_none hroom]
      exact erase_of_find?_eq_none (h.find?_eq_none (Nat.le_refl next))
  | some kept =>
      have hkept := h.of_sublist (room?_spec h.within hroom).1
      have habsent : ∀ r ∈ kept, ¬ (r.sequence == next) = true := by
        simpa [find?_eq_none_iff] using hkept.find?_eq_none (Nat.le_refl next)
      rw [enter_of_room?_eq_some hroom, erase]
      simp [List.eraseP_append_right _ habsent, hsequence]

end Ledger

theorem Process.forget_of_absent {sequence : Sequence} {p : Process}
    (h : p.ledger.find? sequence = none) :
    (p.forget sequence).2 = p := by
  rw [forget, Ledger.remove, Ledger.erase_of_find?_eq_none h]

namespace Endpoint

variable {σ : Type} {e : Endpoint σ} {sequence : Sequence} {s posted : Session σ}

/-! ## Polls -/

/-- Whether a poll is the last one of a call that may poll so often. -/
structure LastPoll (e : Endpoint σ) (sequence : Sequence) (posted : Session σ)
    (polls last : Nat) : Prop where
  made : last < polls
  earlier : ∀ poll < last,
    ((e.state sequence).run (e.pollSession sequence posted poll)).1.isTerminal = false
  ends : ((e.state sequence).run (e.pollSession sequence posted last)).1.isTerminal = true ∨
    last + 1 = polls

theorem exists_lastPoll (e : Endpoint σ) (sequence : Sequence) (posted : Session σ)
    {polls : Nat} (hpolls : 0 < polls) :
    ∃ last, e.LastPoll sequence posted polls last := by
  induction polls with
  | zero => exact absurd hpolls (Nat.lt_irrefl 0)
  | succ polls ih =>
      rcases Nat.eq_zero_or_pos polls with rfl | hmore
      · exact ⟨0, Nat.one_pos, fun _ h => absurd h (Nat.not_lt_zero _), Or.inr rfl⟩
      · obtain ⟨last, hmade, hearlier, hends⟩ := ih hmore
        cases hstate : ((e.state sequence).run
            (e.pollSession sequence posted last)).1.isTerminal with
        | true => exact ⟨last, Nat.lt_succ_of_lt hmade, hearlier, Or.inl hstate⟩
        | false =>
            -- With one more poll the call would go on.
            have hbudget : last + 1 = polls := hends.resolve_left (by simp [hstate])
            refine ⟨last + 1, by omega, fun poll hpoll => ?_, Or.inr (by omega)⟩
            rcases Nat.lt_succ_iff_lt_or_eq.1 hpoll with hbefore | rfl
            · exact hearlier poll hbefore
            · exact hstate

theorem pollSession_succ (e : Endpoint σ) (sequence : Sequence) (posted : Session σ)
    (poll : Nat) :
    e.pollSession sequence posted (poll + 1) =
      e.pollStep sequence (e.pollSession sequence posted poll) :=
  Function.iterate_succ_apply' ..

theorem inOrder_pollSession (h : e.InOrder posted) (sequence : Sequence) (poll : Nat) :
    e.InOrder (e.pollSession sequence posted poll) := by
  induction poll with
  | zero => exact h
  | succ poll ih =>
      have hlooked := e.inOrder_apply ih (.query sequence)
      rw [pollSession_succ]
      exact ⟨hlooked.sound, hlooked.capacity⟩

/-- Polling changes nothing but the ledger. -/
theorem process_pollSession (h : e.InOrder posted) (sequence : Sequence) (poll : Nat) :
    (e.pollSession sequence posted poll).process =
      { posted.process with ledger := (e.pollSession sequence posted poll).process.ledger } := by
  induction poll with
  | zero => rfl
  | succ poll ih =>
      have hlooked := e.process_query (inOrder_pollSession h sequence poll).sound sequence
      have hstep : (e.pollSession sequence posted (poll + 1)).process =
          (e.apply (.query sequence) (e.pollSession sequence posted poll)).process := by
        rw [pollSession_succ]
        rfl
      rw [hstep, hlooked, ih]

/-- To the other records one poll is one expiry. -/
theorem erase_pollSession_succ (h : e.InOrder posted) (sequence : Sequence) (poll : Nat) :
    (e.pollSession sequence posted (poll + 1)).process.ledger.erase sequence =
      (((e.pollSession sequence posted poll).process.ledger.erase sequence).expire
        (e.pollClock sequence posted poll)).2 := by
  have hsound := (inOrder_pollSession h sequence poll).sound
  have hlooked := congrArg Process.ledger (e.process_query hsound sequence)
  have hstep : (e.pollSession sequence posted (poll + 1)).process.ledger =
      (e.apply (.query sequence) (e.pollSession sequence posted poll)).process.ledger := by
    rw [pollSession_succ]
    rfl
  rw [hstep, hlooked]
  exact Ledger.erase_reviewed hsound _ _

/-- To the other records all polls are one expiry, if the clock does not go back. -/
theorem erase_pollSession (h : e.InOrder posted) {last : Nat}
    (hclock : ∀ poll < last,
      e.pollClock sequence posted poll ≤ e.pollClock sequence posted (poll + 1)) :
    (e.pollSession sequence posted (last + 1)).process.ledger.erase sequence =
      ((posted.process.ledger.erase sequence).expire (e.pollClock sequence posted last)).2 := by
  induction last with
  | zero => exact erase_pollSession_succ h sequence 0
  | succ last ih =>
      have hbefore := ih fun poll hpoll => hclock poll (Nat.lt_succ_of_lt hpoll)
      have hlater := hclock last (Nat.lt_succ_self last)
      rw [erase_pollSession_succ h, hbefore, Ledger.expire_expire, Nat.max_eq_right hlater]

/-- **On every exit the record of the request is taken out**, after the last poll. -/
theorem process_awaitResponse {polls last : Nat} (h : e.LastPoll sequence posted polls last)
    (call : String) (timeout : Nat) :
    ((e.awaitResponse sequence call timeout polls).run.run posted).2.process =
      ((e.pollSession sequence posted (last + 1)).process.forget sequence).2 := by
  obtain ⟨left, hleft⟩ := Nat.exists_eq_add_of_lt h.made
  have hsplit : polls = left + 1 + last := by omega
  rw [hsplit, awaitResponse_pollSession h.earlier, run_awaitResponse, pollSession_succ]
  simp only
  split
  · rfl
  · rfl
  · rfl
  · next houtcome =>
      -- The request is still open, so this was the last of the polls.
      have hopen := DeliveryState.callOutcome_eq_undecided.1 houtcome
      have hbudget : last + 1 = polls := h.ends.resolve_left (by simp [hopen])
      obtain rfl : left = 0 := by omega
      rfl

/-! ## The call -/

theorem inOrder_posted (h : e.InOrder s) {destination : Pid} {kind : MessageKind}
    {request : Bytes} {timeout : Nat}
    (hsend : (e.sendWithTimeout destination kind request true timeout).run.run s =
      (.ok sequence, posted)) :
    e.InOrder posted := by
  have horder := e.inOrder_apply h (.post destination kind request true timeout)
  rw [apply, post_of_sendWithTimeout hsend] at horder
  exact horder

/-- A send that the kernel takes gives out a sequence and enters a record, and does nothing else to
the process. -/
theorem process_posted (h : e.InOrder s) {destination : Pid} {kind : MessageKind}
    {request : Bytes} {timeout : Nat}
    (hsend : (e.sendWithTimeout destination kind request true timeout).run.run s =
      (.ok sequence, posted)) :
    posted.process =
      { s.process with
        nextSequence := sequence + 1
        ledger := s.process.ledger.enter
          (SentRecord.handedOver sequence destination kind (e.kernel.now s.kernel) timeout .sent)
          (e.kernel.now s.kernel) } := by
  have hpost := post_of_sendWithTimeout hsend
  obtain rfl := eq_nextSequence_of_sendWithTimeout hsend
  have hsum := Process.enroll_mark h.sound destination kind (e.kernel.now s.kernel) timeout .sent
    (Or.inl rfl)
  rw [run_post] at hpost
  simp only at hpost
  split at hpost
  · exact (congrArg (fun r => r.2.process) hpost).symm.trans hsum
  · cases congrArg Prod.fst hpost

/-- A call whose record was not retained looks once, and ends without a response. -/
theorem awaitResponse_of_untracked (h : e.InOrder posted)
    (hgone : posted.process.ledger.find? sequence = none) (call : String) (timeout left : Nat) :
    (e.awaitResponse sequence call timeout (left + 1)).run.run posted =
      (.ok [], ((e.state sequence).run posted).2) := by
  have hlooked : ((e.state sequence).run posted).2.process.ledger.find? sequence = none := by
    refine (e.find?_query_self h.sound sequence).trans ?_
    rw [hgone]
    rfl
  rw [run_awaitResponse]
  simp only [state_eq_unknown h hgone, DeliveryState.callOutcome, Process.forget_of_absent hlooked]

theorem run_call_of_untracked (h : e.InOrder posted) {destination : Pid} {kind : MessageKind}
    {request : Bytes} {timeout : Nat}
    (hsend : (e.sendWithTimeout destination kind request true timeout).run.run s =
      (.ok sequence, posted))
    (hgone : posted.process.ledger.find? sequence = none) :
    (e.call destination kind request timeout).run.run s =
      (.ok [], ((e.state sequence).run posted).2) := by
  obtain ⟨left, hleft⟩ := Nat.exists_eq_succ_of_ne_zero (Nat.ne_of_gt (e.callPolls_pos timeout))
  rw [run_call hsend, hleft]
  exact awaitResponse_of_untracked h hgone _ _ left

/-- A request whose record found no room is not tracked. -/
theorem untracked_posted (h : e.InOrder s) {destination : Pid} {kind : MessageKind}
    {request : Bytes} {timeout : Nat}
    (hsend : (e.sendWithTimeout destination kind request true timeout).run.run s =
      (.ok sequence, posted))
    (hfull : ¬ s.process.ledger.HasRoom (e.kernel.now s.kernel)) :
    posted.process.ledger.find? sequence = none := by
  obtain rfl := eq_nextSequence_of_sendWithTimeout hsend
  rw [process_posted h hsend]
  exact not_ne_iff.1 ((h.sound.find?_enter_ne_none_iff rfl _).not.2 hfull)

/-- Nothing is known of a request that is not tracked, so the first poll is the last one. -/
theorem lastPoll_of_untracked (h : e.InOrder posted)
    (hgone : posted.process.ledger.find? sequence = none) {polls : Nat} (hpolls : 0 < polls) :
    e.LastPoll sequence posted polls 0 where
  made := hpolls
  earlier := fun _ hpoll => absurd hpoll (Nat.not_lt_zero _)
  ends := by
    have hunknown : ((e.state sequence).run (e.pollSession sequence posted 0)).1 = .unknown :=
      state_eq_unknown h hgone
    rw [hunknown]
    exact Or.inl rfl

/-- What a call leaves of the process. -/
theorem process_call (h : e.InOrder s) {destination : Pid} {kind : MessageKind}
    {request : Bytes} {timeout last : Nat}
    (hsend : (e.sendWithTimeout destination kind request true timeout).run.run s =
      (.ok sequence, posted))
    (hlast : e.LastPoll sequence posted (e.callPolls timeout) last)
    (hclock : ∀ poll < last,
      e.pollClock sequence posted poll ≤ e.pollClock sequence posted (poll + 1)) :
    ((e.call destination kind request timeout).run.run s).2.process =
      { s.process with
        nextSequence := sequence + 1
        ledger := (Ledger.expire (e.pollClock sequence posted last) { s.process.ledger with
          records := (s.process.ledger.room? (e.kernel.now s.kernel)).getD
            s.process.ledger.records }).2 } := by
  have horder := inOrder_posted h hsend
  have hposted := process_posted h hsend
  have hnext := eq_nextSequence_of_sendWithTimeout hsend
  rw [run_call hsend, process_awaitResponse hlast, process_pollSession horder]
  have hledger := erase_pollSession horder hclock
  rw [hposted] at hledger
  simp only at hledger
  rw [hnext, Ledger.erase_enter h.sound rfl, ← hnext] at hledger
  rw [hposted]
  simp only [Process.forget, Ledger.remove]
  rw [hledger]

/-- **The footprint of a call.**  The kernel took the request of a call.  When the call ends, its
record is gone.  If the clock did not go back between its polls, the process is as it was before,
but for one sequence that was given out, one record that was given up to make room for the request,
and one expiry at the last poll.  A call whose record finds no room looks once, answers nothing, and
takes no time of its own. -/
theorem call_footprint (h : e.Reachable s) {destination : Pid} {kind : MessageKind}
    {request : Bytes} {timeout : Nat}
    (hsend : (e.sendWithTimeout destination kind request true timeout).run.run s =
      (.ok sequence, posted)) :
    let start := e.kernel.now s.kernel
    let clock := e.pollClock sequence posted
    let ended := (e.call destination kind request timeout).run.run s
    ended.2.process.ledger.find? sequence = none ∧
      (∃ last, e.LastPoll sequence posted (e.callPolls timeout) last) ∧
      (∀ last, e.LastPoll sequence posted (e.callPolls timeout) last →
        (∀ poll < last, clock poll ≤ clock (poll + 1)) →
        ∃ kept, s.process.ledger.Spares start kept ∧
          ended.2.process =
            { s.process with
              nextSequence := sequence + 1
              ledger := (Ledger.expire (clock last)
                { s.process.ledger with records := kept }).2 }) ∧
      (¬ s.process.ledger.HasRoom start →
        ended = (.ok [], ((e.state sequence).run posted).2) ∧
          ended.2.process =
            { s.process with
              nextSequence := sequence + 1
              ledger := (s.process.ledger.expire (clock 0)).2 } ∧
          (e.kernel.InstantSend → e.kernel.now ended.2.kernel = start)) := by
  intro start clock ended
  have horder := inOrder_posted h.inOrder hsend
  have hended : ended = (e.awaitResponse sequence (callText sequence destination kind) timeout
      (e.callPolls timeout)).run.run posted := run_call hsend
  have hpolls := e.callPolls_pos timeout
  obtain ⟨last, hlast⟩ := e.exists_lastPoll sequence posted hpolls
  refine ⟨?_, ⟨last, hlast⟩, ?_, ?_⟩
  · have hpolled := (inOrder_pollSession horder sequence (last + 1)).sound
    rw [hended, process_awaitResponse hlast]
    exact (hpolled.find?_erase sequence sequence).trans (if_pos rfl)
  · intro last hlast hclock
    exact ⟨_, Ledger.spares_room h.inOrder.sound.within start,
      process_call h.inOrder hsend hlast hclock⟩
  · intro hfull
    have hroom : s.process.ledger.room? (e.kernel.now s.kernel) = none := by
      rw [← Option.not_isSome_iff_eq_none, Ledger.room?_isSome_iff]
      exact hfull
    have hgone := untracked_posted h.inOrder hsend hfull
    have hfirst := lastPoll_of_untracked horder hgone hpolls
    have hlooked : ended = (.ok [], ((e.state sequence).run posted).2) :=
      run_call_of_untracked horder hsend hgone
    refine ⟨hlooked, ?_, fun hkernel => ?_⟩
    · have hprocess := process_call h.inOrder hsend hfirst
        fun _ hpoll => absurd hpoll (Nat.not_lt_zero _)
      rw [hroom] at hprocess
      exact hprocess
    · have hsent := now_post hkernel destination kind request true timeout s
      rw [post_of_sendWithTimeout hsend] at hsent
      rw [hlooked, run_state]
      exact (hkernel.logAll _ _).trans ((hkernel.reports _ _).trans hsent)

/-- Sleep overshoots.  The ledger is full, so a call gives up the record that is at its end.  The
third poll is its last one, and settles the record of a message that was not heard of. -/
theorem call_footprint_in_full_ledger :
    let station : Station := { Station.start 7 (Config.standard.withLedgerCapacity 2) with
      adjustments := { Adjustments.none with oversleep := 7 } }
    let s := ((station.endpoint.pursueAll
      [.operate (.send 9 0x1000 [1] true (some 15)), .operate (.send 8 0x1000 [2] true none),
        .operate (.state 2)]).run
          (station.session { World.start with responders := [(9, .silent)] })).2
    let ended := (station.endpoint.call 9 0x1000 [3] 30).run.run s
    s.process.ledger.records.map SentRecord.state = [.sent, .received] ∧
      ended.2.process.ledger.records.map (fun r => (r.sequence, r.state)) = [(1, .unknown)] ∧
      ∃ kept, s.process.ledger.Spares 0 kept ∧
        ended.2.process =
          { s.process with
            nextSequence := 3 + 1
            ledger := (Ledger.expire 34 { s.process.ledger with records := kept }).2 } := by
  intro station s ended
  have hbegun : station.endpoint.Reachable
      (station.session { World.start with responders := [(9, .silent)] }) :=
    ⟨_, Relation.ReflTransGen.refl⟩
  have hreachable : station.endpoint.Reachable s := hbegun.trans (continues_pursueAll _ _)
  have hsend : (station.endpoint.sendWithTimeout 9 0x1000 [3] true 30).run.run s =
      (.ok 3, ((station.endpoint.sendWithTimeout 9 0x1000 [3] true 30).run.run s).2) :=
    Prod.fst_eq_iff.1 (by decide)
  have hlast : station.endpoint.LastPoll 3
      ((station.endpoint.sendWithTimeout 9 0x1000 [3] true 30).run.run s).2
      (station.endpoint.callPolls 30) 2 :=
    ⟨by decide, by decide, Or.inr (by decide)⟩
  have hstart : station.endpoint.kernel.now s.kernel = 0 := by decide
  have hclock : station.endpoint.pollClock 3
      ((station.endpoint.sendWithTimeout 9 0x1000 [3] true 30).run.run s).2 2 = 34 := by decide
  obtain ⟨-, -, hleaves, -⟩ := call_footprint hreachable hsend
  obtain ⟨kept, hkept, hprocess⟩ := hleaves 2 hlast (by decide)
  rw [hstart] at hkept
  rw [hclock] at hprocess
  refine ⟨by decide, by decide +kernel, kept, hkept, ?_⟩
  rw [← hprocess]

end Endpoint

end Interprocess

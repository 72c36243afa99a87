import Interprocess.Proofs.Endpoint.Polling
import Interprocess.Proofs.Naming.Asking

/-!
# Calls to a silent peer

A call gives up after a number of polls, and its record after a time.  Where sleep takes as
long as asked, all polls are made before that time is over (`call_ends`).  Where sleep takes
longer, the time may be over first.  The next poll then settles the record as `unknown`, and
the call counts that as success, although nothing was reported.

**Input.**  Any kernel.  Nothing is assumed of its clock, so sleep may overshoot by any
amount.  `pollClock k` is the time that the poll number `k` reads.

**Results.**
* `reported_or_late_of_ok`: a call succeeds only if its request was reported as received or
  unknown, or if a poll came too late.
* `awaitResponse_of_silence`, `awaitResponse_of_late`: what silence leads to.
* `call_of_silence`: both, for calls and for the directory requests that are made of them.
-/

namespace Interprocess

namespace SentRecord

/-- A record becomes `unknown` because a report says so, or because its time is over. -/
theorem unknown_or_stale {reports : List Feedback} {now : Nat} {r : SentRecord}
    (hopen : r.state ≠ .unknown) (h : ((absorbAll reports r).settle now).state = .unknown) :
    Feedback.unknown ∈ reports ∨ r.timeout < now - r.sentAt := by
  have hgrown := grows_absorbAll reports r
  cases hoverdue : (absorbAll reports r).isOverdue now with
  | false =>
      rw [settle_of_not_isOverdue hoverdue] at h
      exact Or.inl (unknown_mem_of_absorbAll hopen h)
  | true =>
      have hstale := (isOverdue_iff.1 hoverdue).2
      rw [isStale, decide_eq_true_iff, hgrown.timeout, hgrown.sentAt] at hstale
      exact Or.inr hstale

end SentRecord

namespace DeliveryState

theorem callOutcome_eq_answered {s : DeliveryState} :
    s.callOutcome = .answered ↔ s = .received := by
  cases s <;> simp [callOutcome]

theorem callOutcome_eq_unreported {s : DeliveryState} :
    s.callOutcome = .unreported ↔ s = .unknown := by
  cases s <;> simp [callOutcome]

theorem callOutcome_eq_undecided {s : DeliveryState} :
    s.callOutcome = .undecided ↔ s.isTerminal = false := by
  cases s <;> simp [callOutcome, isTerminal]

end DeliveryState

namespace Endpoint

variable {σ : Type} (e : Endpoint σ)

/-- The time that a poll reads. -/
def pollClock (sequence : Sequence) (posted : Session σ) (poll : Nat) : Nat :=
  e.kernel.now (e.kernel.reports sequence (e.pollSession sequence posted poll).kernel).2

/-- Whether the request with a sequence has the open record `r` when it is looked at. -/
structure Waiting (sequence : Sequence) (r : SentRecord) (s : Session σ) : Prop where
  order : e.InOrder s
  tracked : s.process.ledger.find? sequence = some r
  undecided : r.state.isTerminal = false

variable {e} {sequence : Sequence} {r : SentRecord} {s : Session σ}

theorem Waiting.coherent (h : e.Waiting sequence r s) : r.Coherent :=
  h.order.sound.coherent r (h.order.sound.find?_eq_some_iff.1 h.tracked).1

theorem Waiting.ne_of_isTerminal (h : e.Waiting sequence r s) {state : DeliveryState}
    (hterminal : state.isTerminal = true) : r.state ≠ state := by
  rintro rfl
  rw [h.undecided] at hterminal
  cases hterminal

theorem Waiting.response_eq_none (h : e.Waiting sequence r s) : r.response = none :=
  h.coherent.response_eq_none (h.ne_of_isTerminal rfl)

/-- What a poll finds. -/
theorem Waiting.look (h : e.Waiting sequence r s) :
    let found := (SentRecord.absorbAll (e.pollReports sequence s 0) r).settle
      (e.pollClock sequence s 0)
    ((e.state sequence).run s).1 = found.state ∧
      ((e.state sequence).run s).2.process.ledger.find? sequence = some found ∧
      (found.state.isTerminal = false → e.Waiting sequence found (e.pollStep sequence s)) := by
  intro found
  have hfound : (e.apply (.query sequence) s).process.ledger.find? sequence = some found := by
    rw [e.find?_query_self h.order.sound, h.tracked]
    rfl
  have horder := e.inOrder_apply h.order (.query sequence)
  refine ⟨e.state_eq_of_find? hfound, hfound, fun hopen => ⟨?_, hfound, hopen⟩⟩
  exact ⟨horder.sound, horder.capacity⟩

/-- A wait succeeds only if there was a report to say so, or a poll that came too late. -/
theorem reported_or_late_of_ok {bytes : Bytes} {call : String} {timeout polls : Nat}
    (h : e.Waiting sequence r s)
    (hok : ((e.awaitResponse sequence call timeout polls).run.run s).1 = .ok bytes) :
    ∃ poll < polls,
      .received bytes ∈ e.pollReports sequence s poll ∨
        bytes = [] ∧ (.unknown ∈ e.pollReports sequence s poll ∨
          r.timeout < e.pollClock sequence s poll - r.sentAt) := by
  induction polls generalizing s r with
  | zero => cases hok
  | succ polls ih =>
      obtain ⟨hstate, hfound, hnext⟩ := h.look
      have habsorbed := h.coherent.absorbAll (e.pollReports sequence s 0)
      have hcoherent := habsorbed.settle (e.pollClock sequence s 0)
      have hgrown := (SentRecord.grows_absorbAll (e.pollReports sequence s 0) r).trans
        (SentRecord.grows_settle (e.pollClock sequence s 0) habsorbed.handed)
      simp only [run_awaitResponse, hstate, hfound, Option.bind_some] at hok
      split at hok
      · next houtcome =>
          have hreceived := DeliveryState.callOutcome_eq_answered.1 houtcome
          obtain ⟨kept, hkept⟩ := Option.isSome_iff_exists.1 (hcoherent.answered.2 hreceived)
          rw [hkept] at hok
          cases hok
          rw [SentRecord.response_settle] at hkept
          exact ⟨0, Nat.succ_pos polls,
            Or.inl (SentRecord.received_mem_of_absorbAll h.response_eq_none hkept)⟩
      · next houtcome =>
          have hunknown := DeliveryState.callOutcome_eq_unreported.1 houtcome
          cases hok
          exact ⟨0, Nat.succ_pos polls,
            Or.inr ⟨rfl, SentRecord.unknown_or_stale (h.ne_of_isTerminal rfl) hunknown⟩⟩
      · cases hok
      · next houtcome =>
          have hopen := DeliveryState.callOutcome_eq_undecided.1 houtcome
          obtain ⟨poll, hpoll, hreason⟩ := ih (hnext hopen) hok
          rw [hgrown.timeout, hgrown.sentAt] at hreason
          exact ⟨poll + 1, Nat.succ_lt_succ hpoll, hreason⟩

/-! ## Silence -/

/-- A poll in time that finds no report leaves the request as it was. -/
theorem Waiting.stays (h : e.Waiting sequence r s) (hsilent : e.pollReports sequence s 0 = [])
    (htime : ¬ r.timeout < e.pollClock sequence s 0 - r.sentAt) :
    ((e.state sequence).run s).1.isTerminal = false ∧
      e.Waiting sequence r (e.pollStep sequence s) := by
  have hstays : (SentRecord.absorbAll (e.pollReports sequence s 0) r).settle
      (e.pollClock sequence s 0) = r := by
    rw [hsilent]
    exact SentRecord.settle_of_not_isStale (decide_eq_false htime)
  obtain ⟨hstate, -, hnext⟩ := h.look
  rw [hstays] at hstate hnext
  constructor
  · rw [hstate]
    exact h.undecided
  · exact hnext h.undecided

/-- A wait in which every poll is in time and finds no report is given up. -/
theorem awaitResponse_of_silence {call : String} {timeout polls : Nat}
    (h : e.Waiting sequence r s)
    (hsilent : ∀ poll < polls, e.pollReports sequence s poll = [] ∧
      ¬ r.timeout < e.pollClock sequence s poll - r.sentAt) :
    ((e.awaitResponse sequence call timeout polls).run.run s).1 = .error .timeout := by
  induction polls generalizing s with
  | zero => rfl
  | succ polls ih =>
      obtain ⟨hfirst, htime⟩ := hsilent 0 (Nat.succ_pos polls)
      obtain ⟨hopen, hnext⟩ := h.stays hfirst htime
      rw [awaitResponse_of_open hopen]
      apply ih hnext
      intro poll hpoll
      exact hsilent (poll + 1) (Nat.succ_lt_succ hpoll)

/-- A wait succeeds at the first poll that comes too late, if nothing was reported so far. -/
theorem awaitResponse_of_late {call : String} {timeout polls poll : Nat}
    (h : e.Waiting sequence r s) (hpoll : poll < polls)
    (hsilent : ∀ earlier ≤ poll, e.pollReports sequence s earlier = [])
    (hbefore : ∀ earlier < poll, ¬ r.timeout < e.pollClock sequence s earlier - r.sentAt)
    (hlate : r.timeout < e.pollClock sequence s poll - r.sentAt) :
    ((e.awaitResponse sequence call timeout polls).run.run s).1 = .ok [] := by
  induction poll generalizing s polls with
  | zero =>
      obtain ⟨left, rfl⟩ := Nat.exists_eq_succ_of_ne_zero (Nat.ne_of_gt hpoll)
      obtain ⟨hstate, -, -⟩ := h.look
      have hoverdue : r.isOverdue (e.pollClock sequence s 0) = true :=
        SentRecord.isOverdue_iff.2 ⟨h.undecided, decide_eq_true hlate⟩
      have hverdict : r.verdict = .unknown := by
        rcases (DeliveryState.not_isTerminal_iff h.coherent.handed).1 h.undecided with hs | hs
        · simp [SentRecord.verdict, hs]
        · simp [SentRecord.verdict, hs]
      rw [hsilent 0 (Nat.le_refl 0), SentRecord.absorbAll_nil, SentRecord.settle,
        if_pos hoverdue] at hstate
      simp only [run_awaitResponse, hstate, hverdict, DeliveryState.callOutcome]
  | succ poll ih =>
      obtain ⟨left, rfl⟩ := Nat.exists_eq_succ_of_ne_zero (Nat.ne_of_gt (Nat.zero_lt_of_lt hpoll))
      obtain ⟨hopen, hnext⟩ :=
        h.stays (hsilent 0 (Nat.zero_le _)) (hbefore 0 (Nat.succ_pos poll))
      rw [awaitResponse_of_open hopen]
      apply ih hnext (Nat.lt_of_succ_lt_succ hpoll)
      · exact fun earlier hearlier => hsilent (earlier + 1) (Nat.succ_le_succ hearlier)
      · exact fun earlier hearlier => hbefore (earlier + 1) (Nat.succ_lt_succ hearlier)
      · exact hlate

end Endpoint

/-! ## Directory entries -/

/-- The call that an operation of process `self` makes to enter or drop a name: its kind, its
request and its timeout. -/
inductive Operation.EntryCall (self : Pid) : Operation → MessageKind → Bytes → Nat → Prop
  | register {name : String} (hname : isServiceName name = true) (server : Pid) :
      EntryCall self (.register name server) DirectoryCommand.register
        (Json.encode ({ name, pid := server } : RegisterRequest)) registerTimeout
  | registerSelf {name : String} (hname : isServiceName name = true) :
      EntryCall self (.registerSelf name) DirectoryCommand.register
        (Json.encode ({ name, pid := self } : RegisterRequest)) registerTimeout
  | unregister {name : String} (hname : isServiceName name = true) :
      EntryCall self (.unregister name) DirectoryCommand.unregister
        (Json.encode ({ name } : UnregisterRequest)) unregisterTimeout

/-- Such a call is made for a request that is granted even without an answer. -/
theorem Operation.EntryCall.granted {self : Pid} {operation : Operation} {kind : MessageKind}
    {request : Bytes} {timeout : Nat} (h : operation.EntryCall self kind request timeout) :
    ∃ asked : NameRequest, operation.nameRequest? self = some asked ∧
      isServiceName asked.name = true ∧ asked.command = kind ∧ asked.payload = request ∧
      asked.timeout = timeout ∧ asked.outcome [] = .ok .nothing := by
  cases h with
  | register hname server | registerSelf hname | unregister hname =>
      exact ⟨_, rfl, hname, rfl, rfl, rfl, rfl⟩

namespace Endpoint

variable {σ : Type} {e : Endpoint σ} {sequence : Sequence} {s : Session σ}

/-- A failed call fails the operation, and nothing is done after it. -/
theorem perform_entryCall_error {operation : Operation} {kind : MessageKind} {request : Bytes}
    {timeout : Nat} (h : operation.EntryCall e.pid kind request timeout) {error : Error}
    {t : Session σ}
    (hcall : (e.call e.config.directoryPid kind request timeout).run.run s = (.error error, t)) :
    (e.perform operation).run s = (.ofDone (.error error), t) := by
  obtain ⟨asked, hasked, hname, rfl, rfl, rfl, -⟩ := h.granted
  exact run_perform_of_failed hasked hname hcall

/-- A call that ends without a response makes the operation succeed. -/
theorem perform_entryCall_ok {operation : Operation} {kind : MessageKind} {request : Bytes}
    {timeout : Nat} (h : operation.EntryCall e.pid kind request timeout) {t : Session σ}
    (hcall : (e.call e.config.directoryPid kind request timeout).run.run s = (.ok [], t)) :
    ((e.perform operation).run s).1 = .ofDone (.ok ()) := by
  obtain ⟨asked, hasked, hname, rfl, rfl, rfl, houtcome⟩ := h.granted
  rw [run_perform_of_ended hasked hname hcall, houtcome]
  rfl

theorem waiting_posted (h : e.InOrder s) {destination : Pid} {kind : MessageKind}
    {request : Bytes} {timeout : Nat} {posted : Session σ}
    (hsend : (e.sendWithTimeout destination kind request true timeout).run.run s =
      (.ok sequence, posted))
    (htracked : posted.process.ledger.find? sequence ≠ none) :
    e.Waiting sequence
      (SentRecord.handedOver sequence destination kind (e.kernel.now s.kernel) timeout .sent)
      posted := by
  obtain ⟨horder, hrecord⟩ := tracked_posted h hsend htracked
  exact ⟨horder, hrecord, rfl⟩

/-- **When silence counts as success.**  A call succeeds only if its request was reported as
received or unknown, or if it was looked at after its timeout.  A request of which nothing is
heard ends in a timeout if every poll is made in time, and nothing is announced for it; but it
ends in success at the first poll that comes too late, as sleep may make it. -/
theorem call_of_silence (h : e.Reachable s) {destination : Pid} {kind : MessageKind}
    {request : Bytes} {timeout : Nat} {posted : Session σ}
    (hsend : (e.sendWithTimeout destination kind request true timeout).run.run s =
      (.ok sequence, posted))
    (htracked : posted.process.ledger.find? sequence ≠ none) :
    let polls := e.callPolls timeout
    let reports := e.pollReports sequence posted
    let late := fun poll =>
      timeout < e.pollClock sequence posted poll - e.kernel.now s.kernel
    let ended := (e.call destination kind request timeout).run.run s
    let enters := fun operation : Operation =>
      destination = e.config.directoryPid ∧ operation.EntryCall e.pid kind request timeout
    (∀ bytes, ended.1 = .ok bytes → ∃ poll < polls,
        .received bytes ∈ reports poll ∨ bytes = [] ∧ (.unknown ∈ reports poll ∨ late poll)) ∧
      ((∀ poll < polls, reports poll = [] ∧ ¬ late poll) →
        ended.1 = .error .timeout ∧
          ∀ operation, enters operation →
            (e.perform operation).run s = (.ofDone (.error .timeout), ended.2)) ∧
      ∀ poll < polls, (∀ earlier ≤ poll, reports earlier = []) →
        (∀ earlier < poll, ¬ late earlier) → late poll →
        ended.1 = .ok [] ∧
          ∀ operation, enters operation → ((e.perform operation).run s).1 = .ofDone (.ok ()) := by
  intro polls reports late ended enters
  have hwaiting := waiting_posted h.inOrder hsend htracked
  have hended : ended = (e.awaitResponse sequence (callText sequence destination kind) timeout
      polls).run.run posted := run_call hsend
  refine ⟨?_, ?_, ?_⟩
  · intro bytes hok
    rw [hended] at hok
    exact reported_or_late_of_ok hwaiting hok
  · intro hsilent
    have hresult : ended.1 = .error .timeout := by
      rw [hended]
      exact awaitResponse_of_silence hwaiting hsilent
    refine ⟨hresult, ?_⟩
    rintro operation ⟨rfl, hentry⟩
    exact perform_entryCall_error hentry (Prod.ext hresult rfl)
  · intro poll hpoll hsilent hbefore hlate
    have hresult : ended.1 = .ok [] := by
      rw [hended]
      exact awaitResponse_of_late hwaiting hpoll hsilent hbefore hlate
    refine ⟨hresult, ?_⟩
    rintro operation ⟨rfl, hentry⟩
    exact perform_entryCall_ok hentry (Prod.ext hresult rfl)

/-- Sleep overshoots, but all ten polls come in time: the request times out. -/
theorem call_of_silence_in_time :
    let station : Station := { Station.start 7 (Config.standard.withPollInterval 50) with
      adjustments := { Adjustments.none with oversleep := 5 } }
    let s := station.session { World.start with responders := [(1, .silent)] }
    ((station.endpoint.perform (.unregister "vfs")).run s).1 = .ofDone (.error .timeout) := by
  intro station s
  have hreachable : station.endpoint.Reachable s := ⟨s.kernel, Relation.ReflTransGen.refl⟩
  have hentry : (Operation.unregister "vfs").EntryCall station.endpoint.pid
      DirectoryCommand.unregister (Json.encode ({ name := "vfs" } : UnregisterRequest)) 500 :=
    .unregister (by decide)
  have hsend : (station.endpoint.sendWithTimeout 1 DirectoryCommand.unregister
      (Json.encode ({ name := "vfs" } : UnregisterRequest)) true 500).run.run s =
        (.ok 1, ((station.endpoint.sendWithTimeout 1 DirectoryCommand.unregister
          (Json.encode ({ name := "vfs" } : UnregisterRequest)) true 500).run.run s).2) :=
    Prod.ext rfl rfl
  obtain ⟨-, hsilence, -⟩ := call_of_silence hreachable hsend (by decide)
  have hperform := (hsilence (by decide)).2 (.unregister "vfs") ⟨rfl, hentry⟩
  exact congrArg Prod.fst hperform

/-- Sleep overshoots, and the second poll comes too late: a call to a silent process succeeds,
and a name that the silent directory never dropped is announced as dropped. -/
theorem silence_counts_as_success :
    let station : Station := { Station.start 7 Config.standard with
      adjustments := { Adjustments.none with oversleep := 500 } }
    let s := station.session { World.start with responders := [(1, .silent)] }
    let called := (station.endpoint.call 1 1 [] 20).run.run s
    let dropped := (station.endpoint.unregister "vfs").run.run s
    called.1 = .ok [] ∧ dropped.1 = .ok () ∧
      dropped.2.kernel.world.broadcasts.map Envelope.kind = [MessageKind.serviceNotice] := by
  intro station s called dropped
  exact ⟨by decide, by decide, by decide⟩

end Endpoint

end Interprocess

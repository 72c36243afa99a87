import Interprocess.Proofs.Endpoint.QueryOrder
import Interprocess.Proofs.Endpoint.Silence
import Interprocess.Proofs.Simulation.Provenance

/-!
# Calls to a peer that answers

A peer that answers at once is heard at the first poll of a call.  Reports that wait longer come
after its answer and change nothing any more.

**Input.**  A process in order, whose request is taken: its kernel lets it through to the peer, and
its ledger has room for the record (`Station.Admits`).

**Results.**
* `World.send_of_taken`: what a peer answers is what is due to the sender.
* `run_awaitResponse_of_received`: a call ends with the first response that is reported.
* `Station.run_call_of_answer`: a call returns what the peer answers, and the peer is left as its
  answer leaves it.
-/

namespace Interprocess

namespace World

/-- What an answer makes of the peers depends on the peers only. -/
theorem responders_respond_congr {w w' : World} (h : w.responders = w'.responders)
    (envelope : Envelope) :
    (w.respond envelope).2.responders = (w'.respond envelope).2.responders := by
  unfold respond
  rw [h]
  split
  · rfl
  · exact h

/-- What a peer answers to an envelope that is taken is what is due to the sender. -/
theorem send_of_taken (sender : Pid) (envelope : Envelope) (sequence : Sequence) (w : World)
    (h : w.sendFaults.find? envelope.receiver = none) :
    let sent := w.send sender envelope true sequence
    sent.1 = .ok () ∧ sent.2.dueReports sender sequence = (w.respond envelope).1 ∧
      sent.2.responders = (w.respond envelope).2.responders := by
  have hpeers : (w.note ⟨envelope, true, sequence⟩).responders = w.responders := rfl
  rw [send_eq]
  simp only [h, if_true]
  refine ⟨trivial, ?_, responders_respond_congr hpeers envelope⟩
  rw [dueReports, setReports, Table.find?_insert_same, Option.getD_some]
  exact respond_fst_congr hpeers envelope

end World

theorem Adjustments.send_fst (pid : Pid) (a : Adjustments) (envelope : Envelope)
    (wantsFeedback : Bool) (sequence : Sequence) (k : KernelState) :
    (a.send pid envelope wantsFeedback sequence k).1 =
      (k.world.send pid envelope wantsFeedback sequence).1 := by
  unfold send KernelState.fromWorld
  rcases k.world.send pid envelope wantsFeedback sequence with ⟨result, w⟩
  cases result with
  | error fault => rfl
  | ok =>
      simp only
      split
      · split <;> rfl
      · rfl

/-- A send that the kernel takes, whatever was written to the log before. -/
theorem Endpoint.run_post_of_taken {σ : Type} (e : Endpoint σ) (receiver : Pid)
    (kind : MessageKind) (payload : Bytes) (wantsFeedback : Bool) (timeout : Nat) (s : Session σ)
    (h : ∀ lines, (e.kernel.send (e.outgoing receiver kind payload s.process.nextSequence
      (e.kernel.now s.kernel)) wantsFeedback s.process.nextSequence
        (e.kernel.logAll lines s.kernel)).1 = .ok ()) :
    ∃ lines process, (e.post receiver kind payload wantsFeedback timeout).run.run s =
      (.ok s.process.nextSequence,
        { kernel := (e.kernel.send (e.outgoing receiver kind payload s.process.nextSequence
            (e.kernel.now s.kernel)) wantsFeedback s.process.nextSequence
              (e.kernel.logAll lines s.kernel)).2, process }) := by
  obtain ⟨hfirst, -⟩ :=
    nextSequence_enroll receiver kind (e.kernel.now s.kernel) timeout s.process
  refine ⟨enrollLines s.process.nextSequence
    (s.process.enroll receiver kind (e.kernel.now s.kernel) timeout).1.2, ?_⟩
  rw [run_post]
  simp only [hfirst, h]
  exact ⟨_, rfl⟩

/-- A call ends with the first response that is reported, if its first poll finds one. -/
theorem Endpoint.run_awaitResponse_of_received {σ : Type} {e : Endpoint σ} {sequence : Sequence}
    {r : SentRecord} {s : Session σ} (h : e.Waiting sequence r s) {before after : List Feedback}
    {bytes : Bytes}
    (hreports : (e.kernel.reports sequence s.kernel).1 = before ++ .received bytes :: after)
    (hbefore : ∀ report ∈ before, report.reportedState.isTerminal = false) (call : String)
    (timeout polls : Nat) :
    ((e.awaitResponse sequence call timeout (polls + 1)).run.run s).1 = .ok bytes := by
  obtain ⟨hstate, hfound, -⟩ := h.look
  have hheard : (SentRecord.absorbAll (e.pollReports sequence s 0) r).settle
      (e.pollClock sequence s 0) =
        { SentRecord.absorbAll before r with state := .received, response := some bytes } := by
    have hfirst : e.pollReports sequence s 0 = before ++ .received bytes :: after := hreports
    rw [hfirst, SentRecord.absorbAll_received h.coherent h.undecided hbefore]
    exact SentRecord.settle_of_isTerminal rfl _
  rw [hheard] at hstate hfound
  simp only [run_awaitResponse, hstate, DeliveryState.callOutcome, hfound, Option.bind_some,
    Option.getD_some]

namespace Station

variable {station : Station} {w : World} {destination : Pid} {request : Bytes}

/-- Whether a request of a process to `destination` is taken: its kernel lets it through, and its
ledger has room for the record. -/
structure Admits (destination : Pid) (station : Station) (w : World) : Prop where
  single : destination.isSingle = true
  taken : w.sendFaults.find? destination = none
  room : station.process.ledger.room? w.clock ≠ none

/-- What sends nothing leaves the peers alone. -/
theorem responders_of_walk {operation : Operation} {first : Sequence} {s t : Session KernelState}
    (h : station.endpoint.Walk (operation.makesQuietly station.pid first) s t) :
    t.kernel.world.responders = s.kernel.world.responders := by
  induction h with
  | refl => rfl
  | tail _ hmove ih =>
      obtain ⟨move, hmakes, rfl⟩ := hmove
      exact (station.responders_apply_quiet hmakes _).trans ih

/-- A request that is taken has a record. -/
theorem find?_posted_of_admits (horder : station.endpoint.InOrder (station.session w))
    (h : station.Admits destination w) {kind : MessageKind} {timeout : Nat} {sequence : Sequence}
    {posted : Session KernelState}
    (hpost : (station.endpoint.post destination kind request true timeout).run.run
      (station.session w) = (.ok sequence, posted)) :
    posted.process.ledger.find? station.process.nextSequence ≠ none := by
  intro hnone
  obtain ⟨kept, hroom⟩ := Option.ne_none_iff_exists'.1 h.room
  have hledger :=
    station.endpoint.ledger_post horder.sound destination kind request true timeout
  have hentered := Ledger.enter_of_room?_eq_some hroom
    (SentRecord.handedOver station.process.nextSequence destination kind w.clock timeout .sent)
  simp only [hpost] at hledger
  rw [hledger.trans hentered, Ledger.find?_eq_none_iff] at hnone
  exact hnone _ (List.mem_append_right kept (List.mem_singleton_self _)) rfl

/-- A request that is taken is answered by the peer, and its record waits for the answer. -/
theorem sendWithTimeout_of_admits (horder : station.endpoint.InOrder (station.session w))
    (h : station.Admits destination w) (hshort : request.length ≤ maxPayloadLength)
    (kind : MessageKind) (timeout : Nat) :
    let sequence := station.process.nextSequence
    let answered :=
      w.respond (station.endpoint.outgoing destination kind request sequence w.clock)
    ∃ posted, (station.endpoint.sendWithTimeout destination kind request true timeout).run.run
        (station.session w) = (.ok sequence, posted) ∧
      posted.process.ledger.find? sequence ≠ none ∧
      posted.kernel.world.dueReports station.pid sequence = answered.1 ∧
      posted.kernel.world.responders = answered.2.responders := by
  intro sequence answered
  let envelope := station.endpoint.outgoing destination kind request sequence w.clock
  have hfits : station.endpoint.sendWithTimeout destination kind request true timeout =
      station.endpoint.post destination kind request true timeout := by
    rw [Endpoint.sendWithTimeout, h.single, if_neg (Nat.not_lt.2 hshort)]
    rfl
  -- The log lines before the send touch neither the faults nor the peers.
  have hsent : ∀ lines : List String, let logged := { w with lines := w.lines ++ lines }
      (station.endpoint.kernel.send envelope true sequence
        (station.endpoint.kernel.logAll lines (station.session w).kernel)).1 = .ok () ∧
      (station.endpoint.kernel.send envelope true sequence
        (station.endpoint.kernel.logAll lines (station.session w).kernel)).2.world =
          (logged.send station.pid envelope true sequence).2 := by
    intro lines logged
    rw [world_logAll]
    exact ⟨(Adjustments.send_fst _ _ _ _ _ _).trans (World.send_of_taken _ _ _ _ h.taken).1,
      Adjustments.world_send _ _ _ _⟩
  obtain ⟨lines, process, hpost⟩ := station.endpoint.run_post_of_taken destination kind request
    true timeout (station.session w) fun lines => (hsent lines).1
  obtain ⟨-, hdue, hpeers⟩ := World.send_of_taken station.pid envelope sequence
    { w with lines := w.lines ++ lines } h.taken
  have hsame : World.responders { w with lines := w.lines ++ lines } = w.responders := rfl
  rw [← (hsent lines).2] at hdue hpeers
  refine ⟨_, hfits ▸ hpost, find?_posted_of_admits horder h hpost, ?_, ?_⟩
  · exact hdue.trans (World.respond_fst_congr hsame envelope)
  · exact hpeers.trans (World.responders_respond_congr hsame envelope)

/-- **A call returns what the peer answers**, and leaves the peer as its answer leaves it. -/
theorem run_call_of_answer (horder : station.endpoint.InOrder (station.session w))
    (h : station.Admits destination w) (hshort : request.length ≤ maxPayloadLength)
    {kind : MessageKind} {before after : List Feedback} {bytes : Bytes}
    (hanswer : (w.respond (station.endpoint.outgoing destination kind request
      station.process.nextSequence w.clock)).1 = before ++ .received bytes :: after)
    (hbefore : ∀ report ∈ before, report.reportedState.isTerminal = false) (timeout : Nat) :
    ∃ t, (station.endpoint.call destination kind request timeout).run.run (station.session w) =
        (.ok bytes, t) ∧
      t.kernel.world.responders = (w.respond (station.endpoint.outgoing destination kind request
        station.process.nextSequence w.clock)).2.responders := by
  obtain ⟨posted, hsend, htracked, hdue, hpeers⟩ :=
    sendWithTimeout_of_admits horder h hshort kind timeout
  obtain ⟨left, hpolls⟩ : ∃ left, station.endpoint.callPolls timeout = left + 1 :=
    Nat.exists_eq_add_one.2 (Nat.lt_of_lt_of_le Nat.one_pos (Nat.le_max_left 1 _))
  have hreports : (station.endpoint.kernel.reports station.process.nextSequence posted.kernel).1 =
      before ++ .received bytes ::
        (after ++ (Timetable.takeDue posted.kernel.world.clock
          (posted.kernel.lateReports station.process.nextSequence)).1) := by
    have htaken := KernelState.takeReports_fst station.pid station.process.nextSequence
      posted.kernel
    rw [hdue, hanswer, List.append_assoc, List.cons_append] at htaken
    exact htaken
  have hanswered := Endpoint.run_awaitResponse_of_received
    (Endpoint.waiting_posted horder hsend htracked) hreports hbefore
    (Endpoint.callText station.process.nextSequence destination kind) timeout left
  have hquiet : station.endpoint.Makes (.call destination kind request timeout)
      station.process.nextSequence
      (station.endpoint.awaitResponse station.process.nextSequence
        (Endpoint.callText station.process.nextSequence destination kind) timeout
        (left + 1)).run := Endpoint.makes_awaitResponse rfl _ _ _
  have hkept := responders_of_walk (hquiet posted)
  rw [Endpoint.run_call hsend, hpolls]
  exact ⟨_, Prod.ext hanswered rfl, hkept.trans hpeers⟩

end Station

end Interprocess

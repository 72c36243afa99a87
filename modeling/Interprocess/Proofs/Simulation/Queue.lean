import Interprocess.Proofs.Simulation.Mail

/-!
# The queue of a process

Counting, looking and receiving each put together what waits at the process and what waits at
the kernel.  This module says that all three speak of one queue: the notices of the process
itself, and behind them the envelopes in its mailbox.

**Input.**  A system, and a process of it whose kernel supports the three requests.

**Results.**
* `perform_queueLength`, `perform_peek`: counting and looking answer from the queue, and change
  nothing.
* `perform_receive_of_cons`, `perform_receive_of_nil`: receiving takes the head of the queue in
  no time, and waits if the queue is empty.
* `receiveEach_of_le`: as many receptions as the count allows take the queue from the front.
* `queue_views_agree`: what was counted and seen is what is received.
-/

namespace Interprocess

namespace Envelope

theorem kind_stamped (now : Nat) (e : Envelope) : (e.stamped now).kind = e.kind := by
  unfold stamped
  split <;> rfl

theorem sender_stamped (now : Nat) (e : Envelope) : (e.stamped now).sender = e.sender := by
  unfold stamped
  split <;> rfl

end Envelope

namespace Endpoint

variable {σ : Type}

theorem run_queueLength (e : Endpoint σ) (s : Session σ) :
    e.queueLength.run.run s =
      (((e.kernel.pending s.kernel).map fun there =>
        s.process.inbox.waiting.length + there).mapError Error.ofKernelFault, s) := by
  unfold queueLength
  rw [Attempt.run_bind, Attempt.run_lift, Act.run_ofProcess]
  simp only
  rw [Attempt.run_bind, Attempt.run_ofKernel]
  cases e.kernel.pending s.kernel <;> rfl

theorem run_peek (e : Endpoint σ) (s : Session σ) :
    e.peek.run.run s =
      match s.process.inbox.waiting with
      | notice :: _ => (.ok (some (notice.kind, notice.sender)), s)
      | [] => ((e.kernel.peek s.kernel).mapError Error.ofKernelFault, s) := by
  unfold peek
  rw [Attempt.run_bind, Attempt.run_lift, Act.run_ofProcess]
  cases s.process.inbox.waiting <;> rfl

end Endpoint

namespace Station

/-- What waits for a process: its own notices, and then the envelopes at its kernel, with the
timestamps that they get when they are received now. -/
def queue (station : Station) (w : World) : List Envelope :=
  station.process.inbox.waiting ++ (w.mailbox station.pid).map (Envelope.stamped w.clock)

/-- Whether the kernel of a process counts, looks and receives without fault. -/
structure ServesQueue (station : Station) : Prop where
  pending : station.adjustments.refusal? .pending = none
  peek : station.adjustments.refusal? .peek = none
  receive : station.adjustments.refusal? .receive = none

/-- What looking at a queue tells. -/
def glimpse (queue : List Envelope) : Option (MessageKind × Pid) :=
  queue.head?.map fun envelope => (envelope.kind, envelope.sender)

theorem glimpse_eq_none_iff {queue : List Envelope} : glimpse queue = none ↔ queue.length = 0 := by
  simp [glimpse]

/-- To look into a queue does not depend on the timestamps. -/
theorem glimpse_map_stamped (now : Nat) (queue : List Envelope) :
    glimpse (queue.map (Envelope.stamped now)) = glimpse queue := by
  cases queue with
  | nil => rfl
  | cons envelope rest => simp [glimpse, Envelope.kind_stamped, Envelope.sender_stamped]

variable {station : Station} {w : World}

/-- Counting answers the length of the queue, and changes nothing. -/
theorem perform_queueLength (h : station.ServesQueue) (w : World) :
    (station.endpoint.perform .queueLength).run (station.session w) =
      (.attempt (.ok (.number (station.queue w).length)), station.session w) := by
  have hrun := station.endpoint.run_queueLength (station.session w)
  have hpending : station.endpoint.kernel.pending (station.session w).kernel =
      .ok (w.mailbox station.pid).length := by
    simp only [endpoint, Adjustments.kernel, Adjustments.guardedLook, h.pending]
    rfl
  rw [hpending] at hrun
  refine (Endpoint.run_answering_of_run hrun).trans ?_
  simp only [queue, List.length_append, List.length_map]
  rfl

/-- Looking answers the head of the queue, and changes nothing. -/
theorem perform_peek (h : station.ServesQueue) (w : World) :
    (station.endpoint.perform .peek).run (station.session w) =
      (.attempt (.ok (Value.ofOption (fun head => .head head.1 head.2)
        (glimpse (station.queue w)))), station.session w) := by
  have hrun := station.endpoint.run_peek (station.session w)
  have hpeek : station.endpoint.kernel.peek (station.session w).kernel =
      .ok (glimpse (w.mailbox station.pid)) := by
    simp only [endpoint, Adjustments.kernel, Adjustments.guardedLook, h.peek]
    rfl
  have hprocess : (station.session w).process = station.process := rfl
  rw [hpeek, hprocess] at hrun
  unfold queue
  cases hwaiting : station.process.inbox.waiting with
  | cons notice rest =>
      rw [hwaiting] at hrun
      exact Endpoint.run_answering_of_run hrun
  | nil =>
      rw [hwaiting] at hrun
      rw [List.nil_append, glimpse_map_stamped]
      exact Endpoint.run_answering_of_run hrun

/-- What is left of a session when the head of the queue was received. -/
structure Received (station : Station) (rest : List Envelope) (w : World)
    (t : Session KernelState) : Prop where
  queue : (station.resume t).queue t.kernel.world = rest
  clock : t.kernel.world.clock = w.clock

/-- Receiving takes the head of the queue, and no time passes. -/
theorem perform_receive_of_cons (h : station.ServesQueue) {envelope : Envelope}
    {rest : List Envelope} (hqueue : station.queue w = envelope :: rest) (timeout : Nat) :
    station.answer (.receive timeout) w = .attempt (.ok (.envelope envelope)) ∧
      station.Received rest w (station.after (.receive timeout) w) := by
  have hrun := station.endpoint.run_perform_receive timeout (station.session w)
  unfold answer after
  rw [hrun]
  have hprocess : (station.session w).process = station.process := rfl
  rw [hprocess]
  cases hwaiting : station.process.inbox.waiting with
  | cons notice notices =>
      simp only [queue, hwaiting, List.cons_append] at hqueue
      obtain ⟨rfl, rfl⟩ := List.cons.inj hqueue
      refine ⟨rfl, ?_, rfl⟩
      simp only [queue, resume, Process.nextNotice, hwaiting]
      rfl
  | nil =>
      simp only [queue, hwaiting, List.nil_append] at hqueue
      obtain ⟨first, others, hmailbox, rfl, rfl⟩ := List.map_eq_cons_iff.1 hqueue
      have hreceived : station.endpoint.kernel.receive timeout (station.session w).kernel =
          (.ok (some first), (station.session w).kernel.onWorld
            (World.setMailbox station.pid others)) := by
        simp only [endpoint, Adjustments.kernel, Adjustments.guarded, h.receive, World.receive,
          KernelState.fromWorld, session, hmailbox]
        rfl
      simp only [hreceived]
      refine ⟨rfl, ?_, rfl⟩
      simp only [queue, resume, KernelState.onWorld, session, hwaiting, List.nil_append,
        World.mailbox_setMailbox, if_true]
      rfl

/-- Receiving from an empty queue waits in vain, as long as it may. -/
theorem perform_receive_of_nil (h : station.ServesQueue) (hqueue : station.queue w = [])
    (timeout : Nat) :
    station.answer (.receive timeout) w = .attempt (.error .timeout) ∧
      (station.after (.receive timeout) w).kernel.world = w.advance timeout := by
  have hrun := station.endpoint.run_perform_receive timeout (station.session w)
  obtain ⟨hwaiting, hmailbox⟩ := List.append_eq_nil_iff.1 hqueue
  have hprocess : (station.session w).process = station.process := rfl
  have hreceived : station.endpoint.kernel.receive timeout (station.session w).kernel =
      (.ok none, (station.session w).kernel.onWorld (World.advance timeout)) := by
    simp only [endpoint, Adjustments.kernel, Adjustments.guarded, h.receive, World.receive,
      KernelState.fromWorld, session, List.map_eq_nil_iff.1 hmailbox]
    rfl
  unfold answer after
  rw [hrun, hprocess, hwaiting]
  simp only [hreceived]
  exact ⟨rfl, rfl⟩

end Station

namespace System

/-- Let a process receive again and again, with these timeouts. -/
def receiveEach (id : StationId) : List Nat → System → Option (List Answer × System)
  | [], s => some ([], s)
  | timeout :: rest, s => do
      let (answer, s) ← s.perform id (.receive timeout)
      let (answers, s) ← receiveEach id rest s
      return (answer :: answers, s)

/-- Whether a process has this queue while the clock shows this time. -/
def Waits (id : StationId) (queue : List Envelope) (clock : Nat) (s : System) : Prop :=
  ∃ station, s.station? id = some station ∧ station.ServesQueue ∧
    station.queue s.world = queue ∧ s.world.clock = clock

variable {id : StationId} {queue rest : List Envelope} {envelope : Envelope} {clock : Nat}
variable {s : System} {station : Station}

theorem Waits.receive (h : s.Waits id (envelope :: rest) clock) (timeout : Nat) :
    ∃ t, s.perform id (.receive timeout) = some (.attempt (.ok (.envelope envelope)), t) ∧
      t.Waits id rest clock := by
  obtain ⟨station, hstation, hserves, hqueue, rfl⟩ := h
  obtain ⟨hanswer, hrest, hclock⟩ := Station.perform_receive_of_cons hserves hqueue timeout
  refine ⟨_, ?_, _, station?_set_self hstation _ _, ?_, hrest, hclock⟩
  · rw [perform_of_station? hstation, hanswer]
    rfl
  · exact ⟨hserves.pending, hserves.peek, hserves.receive⟩

theorem Waits.timeout (h : s.Waits id [] clock) (timeout : Nat) :
    ∃ t, s.perform id (.receive timeout) = some (.attempt (.error .timeout), t) ∧
      t.world.clock = (clock + timeout) % clockPeriod := by
  obtain ⟨station, hstation, hserves, hqueue, rfl⟩ := h
  obtain ⟨hanswer, hworld⟩ := Station.perform_receive_of_nil hserves hqueue timeout
  refine ⟨s.operated id station (.receive timeout), ?_, congrArg World.clock hworld⟩
  rw [perform_of_station? hstation, hanswer]

/-- The queue is received from the front, and no time passes. -/
theorem Waits.receiveEach {front : List Envelope} (h : s.Waits id (front ++ rest) clock)
    {timeouts : List Nat} (hlength : timeouts.length = front.length) :
    ∃ t, s.receiveEach id timeouts =
        some (front.map fun envelope => .attempt (.ok (.envelope envelope)), t) ∧
      t.Waits id rest clock := by
  induction front generalizing s timeouts with
  | nil =>
      obtain rfl := List.length_eq_zero_iff.1 hlength
      exact ⟨s, rfl, h⟩
  | cons envelope front ih =>
      cases timeouts with
      | nil => simp at hlength
      | cons timeout timeouts =>
          obtain ⟨t, hperform, hwaits⟩ := h.receive timeout
          obtain ⟨u, heach, hwaits⟩ := ih hwaits (by simpa using hlength)
          refine ⟨u, ?_, hwaits⟩
          simp [System.receiveEach, hperform, heach]

/-- **Counting, looking and receiving speak of the same queue**, in every system.  Counting and
looking change nothing.  As many receptions as were counted, with any timeouts, answer the
envelopes of the queue in order and take no time; the next one waits in vain for as long as it
may.  Looking tells the kind and the sender of what is received next. -/
theorem queue_views_agree (h : s.station? id = some station) (hserves : station.ServesQueue) :
    let queue := station.queue s.world
    s.perform id .queueLength = some (.attempt (.ok (.number queue.length)), s) ∧
      (∀ timeouts, timeouts.length ≤ queue.length →
        ∃ t, s.receiveEach id timeouts =
            some ((queue.take timeouts.length).map fun envelope =>
              .attempt (.ok (.envelope envelope)), t) ∧
          t.world.clock = s.world.clock ∧
          (timeouts.length = queue.length → ∀ timeout, 0 < timeout →
            ∃ u, t.perform id (.receive timeout) = some (.attempt (.error .timeout), u) ∧
              u.world.clock = (s.world.clock + timeout) % clockPeriod)) ∧
      ∃ head : Option (MessageKind × Pid),
        s.perform id .peek = some (.attempt (.ok (Value.ofOption
            (fun head => .head head.1 head.2) head)), s) ∧
          (head.isSome = true ↔ 0 < queue.length) ∧ (head = none ↔ queue.length = 0) ∧
          ∀ kind sender, head = some (kind, sender) → ∀ timeout,
            ∃ envelope t, s.perform id (.receive timeout) =
                some (.attempt (.ok (.envelope envelope)), t) ∧
              envelope.kind = kind ∧ envelope.sender = sender := by
  intro queue
  have hwaits : s.Waits id queue s.world.clock := ⟨station, h, hserves, rfl, rfl⟩
  refine ⟨perform_of_run h (Station.perform_queueLength hserves s.world), ?_,
    Station.glimpse queue, perform_of_run h (Station.perform_peek hserves s.world), ?_,
    Station.glimpse_eq_none_iff, ?_⟩
  · intro timeouts hlength
    rw [← List.take_append_drop timeouts.length queue] at hwaits
    have hcount : timeouts.length = (queue.take timeouts.length).length := by simp [hlength]
    obtain ⟨t, heach, hrest⟩ := hwaits.receiveEach hcount
    refine ⟨t, heach, ?_, ?_⟩
    · obtain ⟨_, _, _, _, hclock⟩ := hrest
      exact hclock
    · intro hall timeout _
      rw [List.drop_eq_nil_of_le (Nat.le_of_eq hall.symm)] at hrest
      exact hrest.timeout timeout
  · rw [← not_iff_not, Bool.not_eq_true, Option.isSome_eq_false_iff, Option.isNone_iff_eq_none,
      Station.glimpse_eq_none_iff]
    omega
  · intro kind sender hglimpse timeout
    cases hqueue : queue with
    | nil => simp [hqueue, Station.glimpse] at hglimpse
    | cons envelope rest =>
        rw [hqueue] at hwaits hglimpse
        obtain ⟨t, hperform, _⟩ := hwaits.receive timeout
        obtain ⟨rfl, rfl⟩ := Prod.mk.inj (Option.some.inj hglimpse)
        exact ⟨envelope, t, hperform, rfl, rfl⟩

/-- A refused send leaves a notice, and another process sends; the notice comes first. -/
theorem queue_views_agree_behind_notice :
    let sender := Station.start 7 Config.standard
    let begun : System :=
      { world := { World.start with sendFaults := [(9, .queueFull)] }
        stations := [sender, Station.start 8 Config.standard] }
    let refused := begun.operated 0 sender (.send 9 0x42 [1] true none)
    let s := refused.operated 1 (Station.start 8 Config.standard) (.send 7 0x43 [2] false none)
    let queue := (sender.resume (sender.after (.send 9 0x42 [1] true none) begun.world)).queue
      s.world
    queue.map Envelope.kind = [MessageKind.sendFailed, 0x43] ∧
      s.perform 0 .queueLength = some (.attempt (.ok (.number 2)), s) ∧
      (∃ kind pid envelope t, s.perform 0 .peek = some (.attempt (.ok (.head kind pid)), s) ∧
        s.perform 0 (.receive 0) = some (.attempt (.ok (.envelope envelope)), t) ∧
        envelope.kind = kind ∧ envelope.sender = pid) ∧
      ∃ t u, s.receiveEach 0 [0, 5] =
          some (queue.map fun envelope => .attempt (.ok (.envelope envelope)), t) ∧
        t.world.clock = 0 ∧
        t.perform 0 (.receive 30) = some (.attempt (.error .timeout), u) ∧
        u.world.clock = 30 := by
  intro sender begun refused s queue
  have hstation : s.station? 0 =
      some (sender.resume (sender.after (.send 9 0x42 [1] true none) begun.world)) := rfl
  obtain ⟨hcount, hreceived, head, hpeek, hsome, -, hnext⟩ :=
    queue_views_agree hstation ⟨rfl, rfl, rfl⟩
  have hlength : queue.length = 2 := by decide +kernel
  obtain ⟨t, heach, hclock, hwaits⟩ := hreceived [0, 5] (Nat.le_of_eq hlength.symm)
  obtain ⟨u, htimeout, hlater⟩ := hwaits hlength.symm 30 (by decide)
  refine ⟨by decide +kernel, ?_, ?_, t, u, ?_, ?_, htimeout, ?_⟩
  · rw [hlength] at hcount
    exact hcount
  · obtain ⟨⟨kind, pid⟩, rfl⟩ := Option.isSome_iff_exists.1 (hsome.2 (by rw [hlength]; decide))
    obtain ⟨envelope, v, hreceive, hkind, hpid⟩ := hnext kind pid rfl 0
    exact ⟨kind, pid, envelope, v, hpeek, hreceive, hkind, hpid⟩
  · rw [heach, show ([0, 5] : List Nat).length = queue.length from hlength.symm,
      List.take_length]
  · exact hclock.trans (by decide +kernel)
  · exact hlater.trans (by decide +kernel)

end System

end Interprocess

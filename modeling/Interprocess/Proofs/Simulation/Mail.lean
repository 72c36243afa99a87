import Interprocess.Proofs.Endpoint.Transcript
import Interprocess.Proofs.Simulation.AnsweredCall
import Interprocess.Proofs.Simulation.Run

/-!
# Nothing is lost between processes

A mailbox is opened when a process is started, when an envelope is delivered to its address from
outside, and when the kernel takes an envelope for it, whether or not there is a process with that
address.  From then on envelopes come in by sends, by broadcasts and from outside, and leave when a
process with that address receives.

**Events.**  A run is told by its `MailEvent`s, in order.  What an operation adds is its transcript.
`put` and `taken` read off the events what was put into a mailbox and what was taken out of it.

**Results.**
* `MailEvent.Moves`: what an event does to the mailboxes, as a law for each kind of event.
* `MailStep.conserved`: a step of a system does to the mailboxes what its events say.
* `Run.exists_mailRun`: every run without calls past the library is told by events.
* `mail_is_conserved`: what was taken out, followed by what waits, is what was put in.

No two processes need to have different addresses.  Those that share one share its mailbox.
-/

namespace Interprocess

/-- Something that concerns the mailboxes of a world. -/
inductive MailEvent
  /-- A process was started. -/
  | opened (pid : Pid)
  /-- An envelope came from outside. -/
  | delivered (pid : Pid) (envelope : Envelope)
  /-- A process asked its kernel. -/
  | transferred (pid : Pid) (transfer : Transfer)

namespace MailEvent

/-- Whether a mailbox for `pid` is there after an event in any case. -/
def opens (pid : Pid) : MailEvent → Bool
  | opened other => other == pid
  | delivered other _ => other == pid
  | transferred _ (.send submission (.ok _) _) => submission.envelope.receiver == pid
  | _ => false

/-- What an event puts into the mailbox of `pid`, if that is there when `isOpen`. -/
def puts (pid : Pid) (isOpen : Bool) : MailEvent → List Envelope
  | delivered other envelope => if other = pid then [envelope] else []
  | transferred _ (.send submission (.ok _) _) =>
      if submission.envelope.receiver = pid then [submission.envelope] else []
  | transferred sender (.broadcast envelope (.ok _)) =>
      if isOpen = true ∧ pid ≠ sender then [envelope] else []
  | _ => []

/-- What an event takes out of the mailbox of `pid`. -/
def takes (pid : Pid) : MailEvent → List Envelope
  | transferred other (.receive (.ok (some envelope))) => if other = pid then [envelope] else []
  | _ => []

/-- Whether an event drops what waits for `pid`. -/
def clears (pid : Pid) : MailEvent → Bool
  | transferred other (.clear (.ok _)) => other == pid
  | _ => false

/-- The envelope that an event hands over for a single process. -/
def submission? : MailEvent → Option Submission
  | transferred _ transfer => transfer.submission?
  | _ => none

/-- The envelope that an event broadcasts. -/
def announcement? : MailEvent → Option Envelope
  | transferred _ transfer => transfer.announcement?
  | _ => none

/-- Whether an event may leave a world as it is. -/
def isIdle : MailEvent → Bool
  | transferred _ (.broadcast _ (.error _)) => true
  | transferred _ (.receive (.error _)) | transferred _ (.receive (.ok none)) => true
  | transferred _ (.clear _) => true
  | _ => false

end MailEvent

/-- What was put into the mailbox of `pid`, which was there at first when `isOpen`. -/
def put (pid : Pid) : Bool → List MailEvent → List Envelope
  | _, [] => []
  | isOpen, event :: rest => event.puts pid isOpen ++ put pid (isOpen || event.opens pid) rest

/-- What was taken out of the mailbox of `pid`. -/
def taken (pid : Pid) (events : List MailEvent) : List Envelope :=
  events.flatMap (MailEvent.takes pid)

theorem put_append (pid : Pid) (isOpen : Bool) (events more : List MailEvent) :
    put pid isOpen (events ++ more) =
      put pid isOpen events ++ put pid (isOpen || events.any (MailEvent.opens pid)) more := by
  induction events generalizing isOpen with
  | nil => simp [put]
  | cons event rest ih => simp [put, ih, Bool.or_assoc]

/-! ## What one event does -/

/-- The parts of a world that its mail goes through. -/
def World.mail (w : World) : Table Pid (List Envelope) × List Submission × List Envelope :=
  (w.mailboxes, w.sent, w.broadcasts)

theorem World.of_mail_eq {w after : World} (h : after.mail = w.mail) :
    after.mailboxes = w.mailboxes ∧ after.sent = w.sent ∧ after.broadcasts = w.broadcasts := by
  simpa only [World.mail, Prod.mk.injEq] using h

/-- The law of an event that leads from a world to another. -/
structure MailEvent.Moves (event : MailEvent) (w after : World) : Prop where
  opened : ∀ pid, (after.mailboxes.find? pid).isSome =
    ((w.mailboxes.find? pid).isSome || event.opens pid)
  kept : ∀ pid, event.clears pid = false →
    event.takes pid ++ after.mailbox pid =
      w.mailbox pid ++ event.puts pid (w.mailboxes.find? pid).isSome
  sent : after.sent = w.sent ++ event.submission?.toList
  broadcasts : after.broadcasts = w.broadcasts ++ event.announcement?.toList

namespace World

variable {w after : World} {pid sender : Pid}

theorem find?_setMailbox (pid other : Pid) (waiting : List Envelope) (w : World) :
    (w.setMailbox pid waiting).mailboxes.find? other =
      if pid = other then some waiting else w.mailboxes.find? other := by
  split
  · next h =>
      subst h
      exact Table.find?_insert_same pid waiting w.mailboxes
  · next h => exact Table.find?_insert_of_ne (Ne.symm h) waiting w.mailboxes

theorem mailbox_setMailbox (pid other : Pid) (waiting : List Envelope) (w : World) :
    (w.setMailbox pid waiting).mailbox other =
      if pid = other then waiting else w.mailbox other := by
  rw [mailbox, find?_setMailbox]
  split <;> rfl

theorem moves_opened (pid : Pid) (w : World) :
    (MailEvent.opened pid).Moves w (w.openMailbox pid) where
  opened := by
    intro other
    rw [openMailbox, find?_setMailbox]
    by_cases h : pid = other <;> simp [MailEvent.opens, h]
  kept := by
    intro other _
    rw [openMailbox, mailbox_setMailbox]
    by_cases h : pid = other <;> simp [MailEvent.takes, MailEvent.puts, h]
  sent := (List.append_nil _).symm
  broadcasts := (List.append_nil _).symm

theorem moves_delivered (pid : Pid) (envelope : Envelope) (w : World) :
    (MailEvent.delivered pid envelope).Moves w (w.deliver pid envelope) where
  opened := by
    intro other
    rw [deliver, find?_setMailbox]
    by_cases h : pid = other <;> simp [MailEvent.opens, h]
  kept := by
    intro other _
    rw [deliver, mailbox_setMailbox]
    by_cases h : pid = other <;> simp [MailEvent.takes, MailEvent.puts, h]
  sent := (List.append_nil _).symm
  broadcasts := (List.append_nil _).symm

/-- An event that the mailboxes do not hear of. -/
theorem moves_of_unheard {event : MailEvent} (hmail : after.mailboxes = w.mailboxes)
    (hopens : ∀ pid, event.opens pid = false) (htakes : ∀ pid, event.takes pid = [])
    (hputs : ∀ pid isOpen, event.puts pid isOpen = [])
    (hsent : after.sent = w.sent ++ event.submission?.toList)
    (hbroadcasts : after.broadcasts = w.broadcasts ++ event.announcement?.toList) :
    event.Moves w after where
  opened := fun pid => by rw [hmail, hopens, Bool.or_false]
  kept := fun pid _ => by rw [mailbox, hmail, htakes, hputs, List.append_nil]; rfl
  sent := hsent
  broadcasts := hbroadcasts

theorem moves_of_isIdle {event : MailEvent} (h : event.isIdle = true)
    (hmail : after.mail = w.mail) : event.Moves w after := by
  obtain ⟨hmailboxes, hsent, hbroadcasts⟩ := World.of_mail_eq hmail
  have hsilent : (∀ pid, event.opens pid = false) ∧ (∀ pid, event.takes pid = []) ∧
      (∀ pid isOpen, event.puts pid isOpen = []) ∧ event.submission? = none ∧
      event.announcement? = none := by
    unfold MailEvent.isIdle at h
    split at h
    · exact ⟨fun _ => rfl, fun _ => rfl, fun _ _ => rfl, rfl, rfl⟩
    · exact ⟨fun _ => rfl, fun _ => rfl, fun _ _ => rfl, rfl, rfl⟩
    · exact ⟨fun _ => rfl, fun _ => rfl, fun _ _ => rfl, rfl, rfl⟩
    · exact ⟨fun _ => rfl, fun _ => rfl, fun _ _ => rfl, rfl, rfl⟩
    · cases h
  obtain ⟨hopens, htakes, hputs, hsubmission, hannouncement⟩ := hsilent
  refine moves_of_unheard hmailboxes hopens htakes hputs ?_ ?_
  · rw [hsubmission, hsent]
    exact (List.append_nil _).symm
  · rw [hannouncement, hbroadcasts]
    exact (List.append_nil _).symm

/-- A send that is taken delivers its envelope, and notes it. -/
theorem mail_send_of_ok {envelope : Envelope} {wantsFeedback : Bool} {sequence : Sequence}
    (h : (w.send sender envelope wantsFeedback sequence).1 = .ok ()) :
    (w.send sender envelope wantsFeedback sequence).2.mailboxes =
        (w.deliver envelope.receiver envelope).mailboxes ∧
      (w.send sender envelope wantsFeedback sequence).2.broadcasts = w.broadcasts := by
  obtain ⟨responders, hrespond⟩ :=
    respond_snd envelope (w.note ⟨envelope, wantsFeedback, sequence⟩)
  rw [send_eq] at h ⊢
  simp only [hrespond] at h ⊢
  split at h
  · cases h
  · cases wantsFeedback <;> exact ⟨rfl, rfl⟩

theorem mail_send_of_error {envelope : Envelope} {wantsFeedback : Bool} {sequence : Sequence}
    {fault : SendFault} (h : (w.send sender envelope wantsFeedback sequence).1 = .error fault) :
    (w.send sender envelope wantsFeedback sequence).2 =
      w.note ⟨envelope, wantsFeedback, sequence⟩ := by
  rw [send_eq] at h ⊢
  simp only at h ⊢
  split at h
  · rfl
  · cases h

theorem moves_send (sender : Pid) (envelope : Envelope) (wantsFeedback : Bool)
    (sequence : Sequence) (time : Nat) (w : World) :
    (MailEvent.transferred sender (.send ⟨envelope, wantsFeedback, sequence⟩
        (w.send sender envelope wantsFeedback sequence).1 time)).Moves w
      (w.send sender envelope wantsFeedback sequence).2 := by
  obtain ⟨_, _, _, hchanges⟩ := w.send_changes sender envelope wantsFeedback sequence
  have hsent : (w.send sender envelope wantsFeedback sequence).2.sent =
      w.sent ++ [⟨envelope, wantsFeedback, sequence⟩] := by rw [hchanges]
  rcases hanswer : (w.send sender envelope wantsFeedback sequence).1 with fault | _
  · rw [mail_send_of_error hanswer] at hsent ⊢
    exact moves_of_unheard rfl (fun _ => rfl) (fun _ => rfl) (fun _ _ => rfl) hsent
      (List.append_nil _).symm
  · obtain ⟨hmail, hbroadcasts⟩ := mail_send_of_ok hanswer
    have hdelivered := w.moves_delivered envelope.receiver envelope
    refine ⟨fun pid => ?_, fun pid _ => ?_, hsent, ?_⟩
    · rw [hmail]
      exact hdelivered.opened pid
    · rw [mailbox, hmail]
      exact hdelivered.kept pid rfl
    · rw [hbroadcasts]
      exact (List.append_nil _).symm

theorem moves_broadcast (sender : Pid) (envelope : Envelope) (w : World) :
    (MailEvent.transferred sender (.broadcast envelope (w.broadcast sender envelope).1)).Moves w
      (w.broadcast sender envelope).2 := by
  unfold broadcast
  split
  · exact moves_of_isIdle rfl rfl
  · have hfind := fun pid => find?_deliverAll sender pid envelope
      { w with broadcasts := w.broadcasts ++ [envelope] }
    refine ⟨fun pid => ?_, fun pid _ => ?_, (List.append_nil _).symm, rfl⟩
    · rw [hfind, Option.isSome_map]
      exact (Bool.or_false _).symm
    · rw [mailbox, hfind, mailbox]
      cases w.mailboxes.find? pid with
      | none => simp [MailEvent.takes, MailEvent.puts]
      | some waiting =>
          by_cases h : pid = sender <;> simp [MailEvent.takes, MailEvent.puts, h]

theorem moves_receive (pid : Pid) (timeout : Nat) (w : World) :
    (MailEvent.transferred pid (.receive (.ok (w.receive pid timeout).1))).Moves w
      (w.receive pid timeout).2 := by
  unfold receive
  split
  · next envelope rest hmailbox =>
      refine ⟨fun other => ?_, fun other _ => ?_, (List.append_nil _).symm,
        (List.append_nil _).symm⟩
      · rw [find?_setMailbox]
        by_cases h : pid = other
        · subst h
          -- What is not empty is there.
          cases hfind : w.mailboxes.find? pid with
          | none => simp [mailbox, hfind] at hmailbox
          | some waiting => simp
        · simp [MailEvent.opens, h]
      · rw [mailbox_setMailbox]
        by_cases h : pid = other
        · subst h
          simp [MailEvent.takes, MailEvent.puts, hmailbox]
        · simp [MailEvent.takes, MailEvent.puts, h]
  · exact moves_of_isIdle rfl rfl

theorem moves_clear (pid : Pid) (w : World) :
    (MailEvent.transferred pid (.clear (.ok ()))).Moves w (w.clearMailbox pid) := by
  unfold clearMailbox
  split
  · next waiting hfind =>
      refine ⟨fun other => ?_, fun other hother => ?_, (List.append_nil _).symm,
        (List.append_nil _).symm⟩
      · rw [find?_setMailbox]
        by_cases h : pid = other
        · subst h
          simp [hfind]
        · simp [MailEvent.opens, h]
      · have h : ¬ pid = other := by simpa [MailEvent.clears] using hother
        rw [mailbox_setMailbox, if_neg h]
        exact (List.append_nil _).symm
  · exact moves_of_isIdle rfl rfl

end World

/-! ## What an operation does -/

/-- Whether a use of the kernel is entered in a journal. -/
def KernelUse.isMail : KernelUse → Bool
  | broadcast _ | receive _ | clear => true
  | _ => false

theorem World.mail_onWorld {use : KernelUse} (h : use.isMail = false) (pid : Pid)
    (oversleep : Nat) (w : World) :
    (use.onWorld pid oversleep w).mail = w.mail := by
  cases use with
  | broadcast | receive | clear => exact Bool.noConfusion h
  | protectChildren =>
      simp only [KernelUse.onWorld, protectChildren]
      split <;> rfl
  | acquire =>
      simp only [KernelUse.onWorld, acquire]
      split <;> rfl
  | release =>
      simp only [KernelUse.onWorld, release]
      split <;> rfl
  | renew =>
      simp only [KernelUse.onWorld, renew]
      split <;> rfl
  | portReceive =>
      simp only [KernelUse.onWorld, portReceive]
      split <;> rfl
  | cancelPowerOff =>
      simp only [KernelUse.onWorld, cancelPowerOff]
      split <;> rfl
  | sleep | log | portSend | portClear | powerOff => rfl

theorem Adjustments.mail_effect {use : KernelUse} (h : use.isMail = false) (pid : Pid)
    (a : Adjustments) (k : KernelState) :
    (use.effect (a.kernel pid) k).world.mail = k.world.mail := by
  rcases effect_kernel pid a use k with heq | heq
  · rw [heq]
  · rw [heq]
    exact World.mail_onWorld h pid a.oversleep k.world

/-- What a process asks of its kernel is no matter of mailboxes, or does what its event says. -/
theorem Adjustments.moves_effect (pid : Pid) (a : Adjustments) (use : KernelUse)
    (k : KernelState) :
    use.transfers (a.kernel pid) k = [] ∧
        (use.effect (a.kernel pid) k).world.mail = k.world.mail ∨
      ∃ transfer, use.transfers (a.kernel pid) k = [transfer] ∧
        (MailEvent.transferred pid transfer).Moves k.world
          (use.effect (a.kernel pid) k).world := by
  cases use with
  | broadcast envelope => exact Or.inr ⟨_, rfl, k.world.moves_broadcast pid envelope⟩
  | receive timeout =>
      refine Or.inr ⟨_, rfl, ?_⟩
      rcases a.guarded_fromWorld .receive
        (fun w => (.ok (w.receive pid timeout).1, (w.receive pid timeout).2)) k with
        ⟨fault, hrefused⟩ | hreceived
      · simp only [KernelUse.effect, kernel, hrefused]
        exact World.moves_of_isIdle rfl rfl
      · simp only [KernelUse.effect, kernel, hreceived]
        exact k.world.moves_receive pid timeout
  | clear =>
      refine Or.inr ⟨_, rfl, ?_⟩
      rcases a.guarded_fromWorld .clear (fun w => (.ok (), w.clearMailbox pid)) k with
        ⟨fault, hrefused⟩ | hcleared
      · simp only [KernelUse.effect, kernel, hrefused]
        exact World.moves_of_isIdle rfl rfl
      · simp only [KernelUse.effect, kernel, hcleared]
        exact k.world.moves_clear pid
  | _ => exact Or.inl ⟨rfl, mail_effect rfl pid a k⟩

/-- Whether events tell all that happened to the mailboxes of a world. -/
structure Conserved (events : List MailEvent) (w : World) : Prop where
  opened : ∀ pid, (w.mailboxes.find? pid).isSome = events.any (MailEvent.opens pid)
  kept : ∀ pid, events.any (MailEvent.clears pid) = false →
    taken pid events ++ w.mailbox pid = put pid false events
  sent : w.sent = events.filterMap MailEvent.submission?
  broadcasts : w.broadcasts = events.filterMap MailEvent.announcement?

namespace Conserved

variable {events : List MailEvent} {w after : World}

theorem start : Conserved [] World.start where
  opened := fun _ => rfl
  kept := fun _ _ => rfl
  sent := rfl
  broadcasts := rfl

theorem congr (h : Conserved events w) (hmail : after.mail = w.mail) :
    Conserved events after := by
  obtain ⟨hmailboxes, hsent, hbroadcasts⟩ := World.of_mail_eq hmail
  refine ⟨fun pid => ?_, fun pid hclear => ?_, hsent.trans h.sent,
    hbroadcasts.trans h.broadcasts⟩
  · rw [hmailboxes]
    exact h.opened pid
  · rw [World.mailbox, hmailboxes]
    exact h.kept pid hclear

theorem snoc (h : Conserved events w) {event : MailEvent} (hmoves : event.Moves w after) :
    Conserved (events ++ [event]) after where
  opened := by
    intro pid
    rw [hmoves.opened, h.opened, List.any_append]
    simp
  kept := by
    intro pid hclear
    rw [List.any_append, Bool.or_eq_false_iff] at hclear
    have hevent : event.clears pid = false := by simpa using hclear.2
    calc taken pid (events ++ [event]) ++ after.mailbox pid
        = taken pid events ++ (event.takes pid ++ after.mailbox pid) := by
          simp [taken]
      _ = (taken pid events ++ w.mailbox pid) ++
            event.puts pid (w.mailboxes.find? pid).isSome := by
          rw [hmoves.kept pid hevent, List.append_assoc]
      _ = put pid false (events ++ [event]) := by
          rw [h.kept pid hclear.1, h.opened, put_append]
          simp [put]
  sent := by
    rw [hmoves.sent, h.sent, List.filterMap_append]
    cases hevent : event.submission? <;> simp [hevent]
  broadcasts := by
    rw [hmoves.broadcasts, h.broadcasts, List.filterMap_append]
    cases hevent : event.announcement? <;> simp [hevent]

end Conserved

namespace Station

/-- The events of an operation. -/
def mailEvents (station : Station) (operation : Operation) (w : World) : List MailEvent :=
  (station.endpoint.transcript operation (station.session w)).map
    (MailEvent.transferred station.pid)

/-- An operation does to the mailboxes what its transcript says. -/
theorem conserved_after {station : Station} {events : List MailEvent} {w : World}
    (h : Conserved events w) (operation : Operation) :
    Conserved (events ++ station.mailEvents operation w)
      (station.after operation w).kernel.world := by
  let K := station.endpoint.kernel
  -- So it is at every point of the operation, with the journal that is kept up to there.
  let Q : Journaled Transfer KernelState → Prop := fun j =>
    Conserved (events ++ j.journal.map (MailEvent.transferred station.pid)) j.kernel.world
  have hadd : ∀ {j : Journaled Transfer KernelState} {transfer : Transfer} {k : KernelState}, Q j →
      (MailEvent.transferred station.pid transfer).Moves j.kernel.world k.world →
      Q { kernel := k, journal := j.journal ++ [transfer] } := by
    intro j transfer k hj hmoves
    have hnext := hj.snoc hmoves
    rw [List.append_assoc] at hnext
    simpa [Q] using hnext
  have hbegin : Q (Endpoint.journalBegun (station.session w)).kernel := by
    change Conserved (events ++ []) w
    rwa [List.append_nil]
  refine Endpoint.transcript_induction (Q := Q) ?_ ?_ ?_ hbegin
  · intro envelope wantsFeedback sequence j _ hj
    refine hadd hj ?_
    have hmoves := j.kernel.world.moves_send station.pid envelope wantsFeedback sequence
      (K.now (K.send envelope wantsFeedback sequence j.kernel).2)
    rw [← Adjustments.send_fst _ station.adjustments,
      ← Adjustments.world_send (a := station.adjustments)] at hmoves
    exact hmoves
  · intro sequence j hj
    obtain ⟨reports, hchanges⟩ := World.takeReports_changes station.pid sequence j.kernel.world
    refine Conserved.congr hj ?_
    change (j.kernel.takeReports station.pid sequence).2.world.mail = _
    rw [KernelState.world_takeReports, hchanges]
    rfl
  · intro use j _ hj
    rcases station.adjustments.moves_effect station.pid use j.kernel with
      ⟨hnone, hmail⟩ | ⟨transfer, hone, hmoves⟩
    · rw [show use.transfers K j.kernel = [] from hnone, List.append_nil]
      exact Conserved.congr hj hmail
    · rw [show use.transfers K j.kernel = [transfer] from hone]
      exact hadd hj hmoves

/-- A notice of the process itself is received without the kernel. -/
theorem receive_of_notice (station : Station) (w : World) (timeout : Nat) {notice : Envelope}
    {rest : List Envelope} (h : station.process.inbox.waiting = notice :: rest) :
    station.mailEvents (.receive timeout) w = [] ∧
      station.answer (.receive timeout) w = .attempt (.ok (.envelope notice)) := by
  have hwaiting : (station.session w).process.inbox.waiting = notice :: rest := h
  have hrun := station.endpoint.run_perform_receive timeout (station.session w)
  have htranscript := station.endpoint.transcript_receive timeout (station.session w)
  simp only [hwaiting] at hrun htranscript
  refine ⟨?_, congrArg Prod.fst hrun⟩
  rw [mailEvents, htranscript]
  rfl

/-- Without notices the outcome of the one request to the kernel is what is answered. -/
theorem receive_of_empty (station : Station) (w : World) (timeout : Nat)
    (h : station.process.inbox.waiting = []) :
    ∃ outcome, station.mailEvents (.receive timeout) w =
        [.transferred station.pid (.receive outcome)] ∧
      station.answer (.receive timeout) w = .ofAttempt .envelope (Envelope.received
        (station.after (.receive timeout) w).kernel.world.clock outcome) := by
  have hwaiting : (station.session w).process.inbox.waiting = [] := h
  have hrun := station.endpoint.run_perform_receive timeout (station.session w)
  have htranscript := station.endpoint.transcript_receive timeout (station.session w)
  simp only [hwaiting] at hrun htranscript
  have hafter : station.after (.receive timeout) w =
      { kernel := (station.endpoint.kernel.receive timeout (station.session w).kernel).2
        process := station.process } := congrArg Prod.snd hrun
  refine ⟨(station.endpoint.kernel.receive timeout (station.session w).kernel).1, ?_, ?_⟩
  · rw [mailEvents, htranscript]
    rfl
  · rw [hafter]
    exact congrArg Prod.fst hrun

end Station

/-! ## What a run does -/

/-- The events of a step on the world. -/
def WorldStep.mailEvents : WorldStep → List MailEvent
  | .deliver pid envelope => [.delivered pid envelope]
  | _ => []

theorem World.conserved_perform {events : List MailEvent} {w : World} (h : Conserved events w)
    (step : WorldStep) :
    Conserved (events ++ step.mailEvents) (w.perform step).2 := by
  cases step with
  | deliver pid envelope => exact h.snoc (w.moves_delivered pid envelope)
  | _ =>
      change Conserved (events ++ []) _
      rw [List.append_nil]
      exact h.congr rfl

namespace System

/-- One step of a system without calls past the library, and its events. -/
inductive MailStep : List MailEvent → System → System → Prop
  | world (step : WorldStep) (s : System) :
      MailStep step.mailEvents s (s.onWorld fun w => (w.perform step).2)
  | spawn (pid : Pid) (config : Config) (s : System) :
      MailStep [.opened pid] s (s.spawn pid config).2
  | adjust {id : StationId} {changes : List Adjustment} {s t : System}
      (h : s.adjust id changes = some t) : MailStep [] s t
  | operate {id : StationId} {station : Station} {s : System}
      (h : s.station? id = some station) (operation : Operation) :
      MailStep (station.mailEvents operation s.world) s (s.operated id station operation)

/-- Whether a system comes to be in a run with these events. -/
inductive MailRun : List MailEvent → System → Prop
  | start : MailRun [] start
  | step {events new : List MailEvent} {s t : System} (h : MailRun events s)
      (hstep : MailStep new s t) : MailRun (events ++ new) t

variable {events new : List MailEvent} {s t : System} {history : List System}

/-- Every run without calls past the library is told by events. -/
theorem Run.exists_mailRun (h : Run (fun _ => False) history s) :
    ∃ events, MailRun events s := by
  induction h with
  | start => exact ⟨[], .start⟩
  | step _ hstep ih =>
      obtain ⟨events, hrun⟩ := ih
      cases hstep with
      | world step => exact ⟨_, hrun.step (.world step _)⟩
      | spawn pid config => exact ⟨_, hrun.step (.spawn pid config _)⟩
      | adjust h => exact ⟨_, hrun.step (.adjust h)⟩
      | operate h =>
          obtain ⟨station, hstation, -, rfl⟩ := perform_eq_some h
          exact ⟨_, hrun.step (.operate hstation _)⟩
      | callKernel hraw => exact hraw.elim

theorem MailStep.conserved (hstep : MailStep new s t) (h : Conserved events s.world) :
    Conserved (events ++ new) t.world := by
  cases hstep with
  | world step => exact World.conserved_perform h step
  | spawn pid config =>
      obtain ⟨line, hspawn⟩ := spawn_eq pid config s
      rw [hspawn]
      exact (h.snoc (s.world.moves_opened pid)).congr rfl
  | adjust hadjust =>
      obtain ⟨station, adjustments, -, rfl⟩ := adjust_eq_some hadjust
      rw [List.append_nil]
      exact h
  | operate _ operation => exact Station.conserved_after h operation

theorem MailRun.conserved (h : MailRun events s) : Conserved events s.world := by
  induction h with
  | start => exact Conserved.start
  | step _ hstep ih => exact hstep.conserved ih

/-! ## The law of the mail -/

/-- **Nothing is lost, doubled or put out of order between processes.**  Every run without calls
past the library is told by events: what was handed over and broadcast is what they say, and every
mailbox that never was cleared gave and holds, in order, what they put into it.  A process that
receives gets its own notices first, which are no matter of mailboxes, and else the outcome of the
one event that it adds. -/
theorem mail_is_conserved :
    (∀ history s, Run (fun _ => False) history s → ∃ events, MailRun events s) ∧
      ∀ events s, MailRun events s →
        s.world.sent = events.filterMap MailEvent.submission? ∧
          s.world.broadcasts = events.filterMap MailEvent.announcement? ∧
          (∀ pid, (s.world.mailboxes.find? pid).isSome = events.any (MailEvent.opens pid)) ∧
          (∀ pid, events.any (MailEvent.clears pid) = false →
            taken pid events ++ s.world.mailbox pid = put pid false events) ∧
          ∀ id station, s.station? id = some station →
            (∀ operation transfer,
              .transferred station.pid transfer ∈ station.mailEvents operation s.world →
                operation.transfers transfer) ∧
              ∀ timeout,
                (∀ notice rest, station.process.inbox.waiting = notice :: rest →
                  station.mailEvents (.receive timeout) s.world = [] ∧
                    station.answer (.receive timeout) s.world =
                      .attempt (.ok (.envelope notice))) ∧
                (station.process.inbox.waiting = [] →
                  ∃ outcome, station.mailEvents (.receive timeout) s.world =
                      [.transferred station.pid (.receive outcome)] ∧
                    station.answer (.receive timeout) s.world = .ofAttempt .envelope
                      (Envelope.received
                        (station.after (.receive timeout) s.world).kernel.world.clock
                        outcome)) := by
  refine ⟨fun _ _ h => h.exists_mailRun, fun events s h => ?_⟩
  obtain ⟨hopened, hkept, hsent, hbroadcasts⟩ := h.conserved
  refine ⟨hsent, hbroadcasts, hopened, hkept, fun id station _ => ⟨?_, fun timeout => ?_⟩⟩
  · intro operation transfer hmem
    obtain ⟨own, hown, heq⟩ := List.mem_map.1 hmem
    cases heq
    exact Endpoint.transfers_of_mem_transcript hown
  · exact ⟨fun _ _ => station.receive_of_notice s.world timeout,
      station.receive_of_empty s.world timeout⟩

/-- A process sends to another one and to an address where nobody lives, and then broadcasts; the
second one receives once. -/
theorem mail_is_conserved_beside_unborn :
    let sender := Station.start 7 Config.standard
    let receiver := Station.start 8 Config.standard
    let begun := ((start.spawn 7 Config.standard).2.spawn 8 Config.standard).2
    let sent := begun.operated 0 sender (.send 8 1 [1] true none)
    let sender' := sender.resume (sender.after (.send 8 1 [1] true none) begun.world)
    let lost := sent.operated 0 sender' (.send 12 1 [2] true none)
    let sender'' := sender'.resume (sender'.after (.send 12 1 [2] true none) sent.world)
    let spread := lost.operated 0 sender'' (.broadcast 1 0 [3])
    let received := spread.operated 1 receiver (.receive 10)
    ∃ events, MailRun events received ∧ events.any (MailEvent.clears 8) = false ∧
      (taken 8 events).map Envelope.payload = [[1]] ∧
      (received.world.mailbox 8).map Envelope.payload = [[3]] ∧
      (put 8 false events).map Envelope.payload = [[1], [3]] ∧
      (put 12 false events).map Envelope.payload = [[2], [3]] ∧
      received.world.mailbox 12 = put 12 false events := by
  intro sender receiver begun sent sender' lost sender'' spread received
  have hbegun : MailRun _ begun :=
    (MailRun.start.step (.spawn 7 Config.standard _)).step (.spawn 8 Config.standard _)
  have hsent : MailRun _ sent :=
    hbegun.step (.operate (show begun.station? 0 = some sender from rfl) _)
  have hlost : MailRun _ lost :=
    hsent.step (.operate (show sent.station? 0 = some sender' from rfl) _)
  have hspread : MailRun _ spread :=
    hlost.step (.operate (show lost.station? 0 = some sender'' from rfl) _)
  have hreceived : MailRun _ received :=
    hspread.step (.operate (show spread.station? 1 = some receiver from rfl) _)
  obtain ⟨-, -, -, hkept, -⟩ := mail_is_conserved.2 _ _ hreceived
  have htaken := hkept 8 (by decide +kernel)
  have hunborn := hkept 12 (by decide +kernel)
  rw [show taken 12 _ = [] from by decide +kernel, List.nil_append] at hunborn
  refine ⟨_, hreceived, by decide +kernel, by decide +kernel, by decide +kernel, ?_,
    by decide +kernel, hunborn⟩
  rw [← htaken]
  decide +kernel

end System

end Interprocess

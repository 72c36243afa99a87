import Interprocess.Proofs.Simulation.Custody
import Interprocess.Proofs.Text.Parts

/-!
# What is announced is what is done

A process that may bring the machine down first tells every other process, unless the request says
that nobody waits, and then asks the kernel.  Both carry the same message: the standard one, or the
given one cut to its limit.  The announcement is a line of text, which is taken apart where it
arrives; the message may contain the very words by which it is taken apart.

**Results.**
* `ofEnvelope?_toEnvelope`: an announcement is read as what was announced, whatever the message.
* `dispatchNotice_toEnvelope`: every registered handler is handed what was announced.
* `Endpoint.run_powerOff_of_denied`, `Endpoint.run_powerOff_of_allowed`: on any kernel, a request
  is refused, or it is an announcement followed by one request to the kernel.
* `announced_is_done`: what all of this does in a world.
-/

namespace Interprocess

/-! ## Reading an announcement -/

namespace PowerKind

/-- The announced message is the standard one, or the longest head of the given one that fits. -/
theorem announcedMessage_eq (kind : PowerKind) (message : String) :
    (message = "" → kind.announcedMessage message = kind.standardMessage) ∧
      (message ≠ "" →
        Text.IsLongestHead maxShutdownMessageLength message (kind.announcedMessage message)) := by
  constructor
  · rintro rfl
    rfl
  · intro h
    rw [announcedMessage, if_neg (by simpa using h)]
    exact Text.isLongestHead_cut _ _

theorem length_announcedMessage_le (kind : PowerKind) (message : String) :
    (Utf8.encode (kind.announcedMessage message)).length ≤ maxShutdownMessageLength := by
  rw [Utf8.length_encode]
  by_cases h : message = ""
  · rw [(kind.announcedMessage_eq message).1 h]
    cases kind <;> decide
  · exact ((kind.announcedMessage_eq message).2 h).2.1

end PowerKind

namespace ShutdownNotice

theorem afterOpening?_opening (kind : PowerKind) (rest : List Char) :
    afterOpening? ((opening kind).toList ++ rest) = some (kind, rest) := by
  cases kind with
  | shutdown => rw [afterOpening?, Text.afterHead?_append]
  | reboot =>
      have hother : Text.afterHead? (opening .shutdown).toList
          ((opening .reboot).toList ++ rest) = none := rfl
      rw [afterOpening?, hother, Text.afterHead?_append]
      rfl

theorem reason?_number (reason : ShutdownReason) :
    reason? (Text.decimal reason.number).toList = some reason := by
  cases reason <;> rfl

theorem toList_text (notice : ShutdownNotice) :
    notice.text.toList = (opening notice.kind).toList ++ (reasonMark.toList ++
      ((Text.decimal notice.reason.number).toList ++
        (messageMark.toList ++ notice.message.toList))) := by
  simp only [text, String.toList_append, List.append_assoc]

/-- The message begins after the first mark, because no numeral holds a colon. -/
theorem splitAtFirst?_messageMark {numeral : List Char} (h : ':' ∉ numeral)
    (message : List Char) :
    Text.splitAtFirst? messageMark.toList (numeral ++ (messageMark.toList ++ message)) =
      some (numeral, message) := by
  have hmark : messageMark.toList = ':' :: "message=".toList := rfl
  rw [hmark]
  exact Text.splitAtFirst?_append h message

/-- A text that was put together as an announcement is taken apart where it was put together. -/
theorem ofEnvelope?_of_parts {e : Envelope} {kind : PowerKind} {line : String}
    {numeral message : List Char} (hkind : e.kind = MessageKind.shutdownRequest)
    (hline : e.text? = some line)
    (hparts : line.toList = (opening kind).toList ++ (reasonMark.toList ++
      (numeral ++ (messageMark.toList ++ message))))
    (hnumeral : ':' ∉ numeral) :
    ofEnvelope? e = (reason? numeral).map fun reason =>
      { kind, reason, message := String.ofList message, flags := e.flags, sender := e.sender } := by
  rw [ofEnvelope?, if_pos hkind, hline]
  simp only [Option.bind_eq_bind, Option.bind_some, hparts, afterOpening?_opening,
    Text.afterHead?_append, splitAtFirst?_messageMark hnumeral]
  cases reason? numeral <;> rfl

/-- Reading an announcement does not depend on when it was sent. -/
theorem ofEnvelope?_stamped (e : Envelope) (now : Nat) :
    ofEnvelope? (e.stamped now) = ofEnvelope? e := by
  unfold Envelope.stamped
  split <;> rfl

/-- An announcement is read as what was announced, whatever its message contains. -/
theorem ofEnvelope?_toEnvelope (notice : ShutdownNotice) (now : Nat) :
    ofEnvelope? (notice.toEnvelope now) = some notice := by
  have htext : (notice.toEnvelope now).text? = some notice.text := Utf8.decode?_encode _
  have hnumeral : ':' ∉ (Text.decimal notice.reason.number).toList := by
    cases notice.reason <;> decide
  rw [ofEnvelope?_of_parts rfl htext notice.toList_text hnumeral, reason?_number,
    String.ofList_toList]
  rfl

/-- Every registered handler is handed what was announced. -/
theorem dispatchNotice_toEnvelope {m : Type → Type} [Monad m] (table : m CallbackTable)
    (run : Callback → ShutdownNotice → m Unit) (notice : ShutdownNotice) (now later : Nat) :
    dispatchNotice table run ((notice.toEnvelope now).stamped later) = (do
      let callbacks ← table
      callbacks.entries.forM fun callback => run callback notice
      pure (.ok callbacks.size)) := by
  rw [dispatchNotice, ofEnvelope?_stamped, ofEnvelope?_toEnvelope]

/-- An announcement whose message keeps its limit fits into a payload. -/
theorem length_text_le {notice : ShutdownNotice}
    (h : (Utf8.encode notice.message).length ≤ maxShutdownMessageLength) :
    (Utf8.encode notice.text).length ≤ maxPayloadLength := by
  have hopening : (Utf8.encode (opening notice.kind)).length ≤ 9 := by
    cases notice.kind <;> decide
  have hnumber : (Utf8.encode (Text.decimal notice.reason.number)).length = 1 := by
    cases notice.reason <;> rfl
  have hmarks : (Utf8.encode reasonMark).length = 7 ∧ (Utf8.encode messageMark).length = 9 := by
    decide
  simp only [maxShutdownMessageLength] at h
  simp only [text, Utf8.encode_append, List.length_append, maxPayloadLength]
  omega

end ShutdownNotice

/-! ## Announcing and asking, on any kernel -/

namespace Kernel

variable {σ : Type} (K : Kernel σ)

/-- The kernel after an announcement, which is not made if nobody waits for it. -/
def announce (notice : ShutdownNotice) (k : σ) : σ :=
  if PowerFlag.isSet PowerFlag.noWait notice.flags then k
  else (K.broadcast (notice.toEnvelope (K.now k)) k).2

theorem logAll_append (first rest : List String) (k : σ) :
    K.logAll (first ++ rest) k = K.logAll rest (K.logAll first k) :=
  List.foldl_append

end Kernel

namespace Endpoint

variable {σ : Type} (e : Endpoint σ)

/-- What is announced on a request for power. -/
def notice (kind : PowerKind) (reason : ShutdownReason) (flags : UInt32) (message : String) :
    ShutdownNotice :=
  { kind, reason, message := kind.announcedMessage message, flags, sender := e.pid }

theorem run_logUnlessQuiet (flags : UInt32) (line : String) (s : Session σ) :
    ∃ lines, (e.logUnlessQuiet flags line).run s =
      ((), { s with kernel := e.kernel.logAll lines s.kernel }) := by
  unfold logUnlessQuiet
  split
  · exact ⟨[], rfl⟩
  · exact ⟨["[eclib] " ++ line], rfl⟩

theorem run_broadcast {payload : Bytes} (h : payload.length ≤ maxPayloadLength)
    (kind : MessageKind) (flags : UInt32) (s : Session σ) :
    (e.broadcast kind flags payload).run.run s =
      let envelope : Envelope :=
        { kind, sender := e.pid, receiver := Pid.broadcast, payload, sequence := 0,
          timestamp := e.kernel.now s.kernel, flags }
      let taken := e.kernel.broadcast envelope s.kernel
      (taken.1.mapError Error.ofSendFault, { s with kernel := taken.2 }) := by
  rw [broadcast, if_neg (Nat.not_lt.2 h)]
  rfl

/-- An announcement is one broadcast, and lines if that fails. -/
theorem run_announcement {payload : Bytes} (h : payload.length ≤ maxPayloadLength)
    {failed : Error → Act σ Unit}
    (hfailed : ∀ error s, ∃ lines, (failed error).run s =
      ((), { s with kernel := e.kernel.logAll lines s.kernel }))
    (kind : MessageKind) (flags : UInt32) (s : Session σ) :
    ∃ lines, (do
        match ← (e.broadcast kind flags payload).run with
        | .ok () => pure ()
        | .error error => failed error : Act σ Unit).run s =
      let envelope : Envelope :=
        { kind, sender := e.pid, receiver := Pid.broadcast, payload, sequence := 0,
          timestamp := e.kernel.now s.kernel, flags }
      let k := (e.kernel.broadcast envelope s.kernel).2
      ((), { s with kernel := e.kernel.logAll lines k }) := by
  rw [Act.run_bind, e.run_broadcast h kind flags s]
  simp only
  rcases e.kernel.broadcast _ s.kernel with ⟨fault | _, k⟩
  · exact hfailed (Error.ofSendFault fault) { s with kernel := k }
  · exact ⟨[], rfl⟩

theorem run_announcePower {notice : ShutdownNotice} (hsender : notice.sender = e.pid)
    (hshort : (Utf8.encode notice.text).length ≤ maxPayloadLength) (s : Session σ) :
    ∃ lines, (e.announcePower notice).run s =
      let k := (e.kernel.broadcast (notice.toEnvelope (e.kernel.now s.kernel)) s.kernel).2
      ((), { s with kernel := e.kernel.logAll lines k }) := by
  obtain ⟨lines, hrun⟩ := e.run_announcement hshort
    (fun _ => e.run_logUnlessQuiet notice.flags _) MessageKind.shutdownRequest notice.flags s
  refine ⟨lines, hrun.trans ?_⟩
  rw [ShutdownNotice.toEnvelope, hsender]

variable {e} {kind : PowerKind} {s : Session σ}

/-- Who lacks the capability asks nothing of the kernel. -/
theorem run_powerOff_of_denied (h : ((e.check kind.capability).run s).1 = false)
    (reason : ShutdownReason) (flags : UInt32) (message : String) :
    ∃ lines, (e.powerOff kind reason flags message).run.run s =
      (.error .permissionDenied, { s with kernel := e.kernel.logAll lines s.kernel }) := by
  have hcheck : (liftM (e.check kind.capability) : Attempt σ Bool).run.run s = (.ok false, s) := by
    rw [Attempt.run_lift, h]
    rfl
  obtain ⟨lines, hlog⟩ := e.run_logUnlessQuiet flags (kind.verb ++ ": denied, capability missing") s
  refine ⟨lines, ?_⟩
  unfold powerOff
  rw [Attempt.run_bind_of_ok hcheck]
  simp only [Bool.not_false, if_true, Attempt.run_bind, Attempt.run_lift, Attempt.run_throw, hlog]

/-- Unless nobody waits, a request begins with its announcement. -/
theorem run_announcing {notice : ShutdownNotice} (hsender : notice.sender = e.pid)
    (hshort : (Utf8.encode notice.text).length ≤ maxPayloadLength) {α : Type} (f : Attempt σ α)
    (s : Session σ) :
    ∃ lines, (if !PowerFlag.isSet PowerFlag.noWait notice.flags then do
        e.announcePower notice
        f else f : Attempt σ α).run.run s =
      f.run.run { s with kernel := e.kernel.logAll lines (e.kernel.announce notice s.kernel) } := by
  unfold Kernel.announce
  cases PowerFlag.isSet PowerFlag.noWait notice.flags with
  | true => exact ⟨[], rfl⟩
  | false =>
      obtain ⟨lines, hrun⟩ := run_announcePower e hsender hshort s
      refine ⟨lines, ?_⟩
      simp only [Bool.not_false, if_true, Bool.false_eq_true, if_false, Attempt.run_bind,
        Attempt.run_lift, hrun]

theorem run_loggedRequest (flags : UInt32) (line : String)
    (f : σ → Except KernelFault Unit × σ) (s : Session σ) :
    ∃ lines, (do
        e.logUnlessQuiet flags line
        Attempt.onKernel f : Attempt σ Unit).run.run s =
      let asked := f (e.kernel.logAll lines s.kernel)
      (asked.1.mapError Error.ofKernelFault, { s with kernel := asked.2 }) := by
  obtain ⟨lines, hlog⟩ := e.run_logUnlessQuiet flags line s
  refine ⟨lines, ?_⟩
  simp only [Attempt.run_bind, Attempt.run_lift, hlog, Attempt.run_onKernel]

/-- Who holds the capability announces what it asks of the kernel, and then asks it once. -/
theorem run_powerOff_of_allowed (h : ((e.check kind.capability).run s).1 = true)
    (reason : ShutdownReason) (flags : UInt32) (message : String) :
    ∃ lines, (e.powerOff kind reason flags message).run.run s =
      let asked := e.kernel.powerOff kind reason.number flags (kind.announcedMessage message)
        (e.kernel.logAll lines (e.kernel.announce (e.notice kind reason flags message) s.kernel))
      (asked.1.mapError Error.ofKernelFault, { s with kernel := asked.2 }) := by
  have hcheck : (liftM (e.check kind.capability) : Attempt σ Bool).run.run s = (.ok true, s) := by
    rw [Attempt.run_lift, h]
    rfl
  have hshort : (Utf8.encode (e.notice kind reason flags message).text).length ≤
      maxPayloadLength :=
    ShutdownNotice.length_text_le (kind.length_announcedMessage_le message)
  let line := kind.verb ++ ": reason=" ++ reason.name ++ " flags=0x" ++ Text.hex flags.toNat ++
    " message=" ++ kind.announcedMessage message
  let ask := e.kernel.powerOff kind reason.number flags (kind.announcedMessage message)
  obtain ⟨first, hannounced⟩ := run_announcing (e := e) rfl hshort (do
    e.logUnlessQuiet flags line
    Attempt.onKernel ask : Attempt σ Unit) s
  let told := e.kernel.logAll first
    (e.kernel.announce (e.notice kind reason flags message) s.kernel)
  obtain ⟨second, hasked⟩ := run_loggedRequest (e := e) flags line ask { s with kernel := told }
  refine ⟨first ++ second, ?_⟩
  unfold powerOff
  rw [Attempt.run_bind_of_ok hcheck]
  simp only [Bool.not_true, Bool.false_eq_true, if_false]
  refine hannounced.trans (hasked.trans ?_)
  rw [Kernel.logAll_append]

end Endpoint

/-! ## Announcing and asking in a world -/

/-- The request by which a kernel is asked to bring the machine down. -/
def PowerKind.request : PowerKind → KernelRequest
  | shutdown => .shutdown
  | reboot => .reboot

namespace World

/-- The world after an announcement, which is not made if nobody waits for it. -/
def announce (notice : ShutdownNotice) (w : World) : World :=
  if PowerFlag.isSet PowerFlag.noWait notice.flags then w
  else (w.broadcast notice.sender (notice.toEnvelope w.clock)).2

variable {notice : ShutdownNotice} {w : World}

/-- An announcement reaches every mailbox but that of its sender. -/
theorem announce_of_heard (hwait : PowerFlag.isSet PowerFlag.noWait notice.flags = false)
    (htaken : w.broadcastFault = none) :
    w.announce notice =
      { w with broadcasts := w.broadcasts ++ [notice.toEnvelope w.clock] }.deliverAll
        notice.sender (notice.toEnvelope w.clock) := by
  rw [announce, hwait, broadcast, htaken]
  rfl

theorem announce_of_unheard (h : PowerFlag.isSet PowerFlag.noWait notice.flags = true ∨
      ∃ fault, w.broadcastFault = some fault) :
    w.announce notice = w := by
  unfold announce
  split
  · rfl
  · next hwait =>
      rcases h with hquiet | ⟨fault, hfault⟩
      · exact absurd hquiet hwait
      · rw [broadcast, hfault]

theorem machine_announce : (w.announce notice).machine = w.machine := by
  unfold announce broadcast
  split
  · rfl
  · split <;> rfl

end World

namespace Station

variable {station : Station} {w : World} {kind : PowerKind}

theorem kernel_announce {notice : ShutdownNotice} (hsender : notice.sender = station.pid)
    (k : KernelState) :
    station.endpoint.kernel.announce notice k = k.onWorld (World.announce notice) := by
  unfold Kernel.announce World.announce
  split
  · rfl
  · rw [hsender]
    rfl

theorem kernel_powerOff (kind : PowerKind) (reason : Nat) (flags : UInt32) (message : String)
    (k : KernelState) :
    station.endpoint.kernel.powerOff kind reason flags message k =
      station.adjustments.guarded kind.request (KernelState.fromWorld fun w =>
        (.ok (), w.powerOff station.pid kind reason flags message)) k := by
  cases kind <;> rfl

theorem run_perform_powerOff (station : Station) (w : World) (kind : PowerKind)
    (reason : ShutdownReason) (flags : UInt32) (message : String) :
    (station.endpoint.perform (.powerOff kind reason flags message)).run (station.session w) =
      let outcome := (station.endpoint.powerOff kind reason flags message).run.run
        (station.session w)
      (.ofDone outcome.1, outcome.2) :=
  rfl

/-- What a request for power leaves in the world, if it is authorised: the announcement, some
lines, and what the kernel did, unless it refused. -/
theorem after_powerOff_of_allowed (h : station.holds kind.capability w = true)
    (reason : ShutdownReason) (flags : UInt32) (message : String) :
    let operation := Operation.powerOff kind reason flags message
    let notice := station.endpoint.notice kind reason flags message
    ∃ lines,
      match station.adjustments.refusal? kind.request with
      | none => station.answer operation w = .ofDone (.ok ()) ∧
          (station.after operation w).kernel.world =
            { w.announce notice with lines }.powerOff station.pid kind reason.number flags
              notice.message
      | some fault => station.answer operation w = .ofDone (.error (Error.ofKernelFault fault)) ∧
          (station.after operation w).kernel.world = { w.announce notice with lines } := by
  intro operation notice
  obtain ⟨lines, hrun⟩ := Endpoint.run_powerOff_of_allowed (e := station.endpoint)
    (s := station.session w) h reason flags message
  rw [kernel_announce rfl, world_logAll] at hrun
  simp only [kernel_powerOff, Adjustments.guarded] at hrun
  refine ⟨(w.announce notice).lines ++ lines, ?_⟩
  have hperform := run_perform_powerOff station w kind reason flags message
  rw [hrun] at hperform
  rw [answer, after, hperform]
  cases station.adjustments.refusal? kind.request with
  | none => exact ⟨rfl, rfl⟩
  | some fault => exact ⟨rfl, rfl⟩

/-- An unauthorised request only writes to the log. -/
theorem after_powerOff_of_denied (h : station.holds kind.capability w = false)
    (reason : ShutdownReason) (flags : UInt32) (message : String) :
    let operation := Operation.powerOff kind reason flags message
    station.answer operation w = .ofDone (.error .permissionDenied) ∧
      ∃ lines, (station.after operation w).kernel.world = { w with lines } := by
  intro operation
  obtain ⟨lines, hrun⟩ := Endpoint.run_powerOff_of_denied (e := station.endpoint)
    (s := station.session w) h reason flags message
  rw [world_logAll] at hrun
  have hperform := run_perform_powerOff station w kind reason flags message
  rw [hrun] at hperform
  rw [answer, after, hperform]
  exact ⟨rfl, w.lines ++ lines, rfl⟩

/-- The mailboxes after an authorised request are those after its announcement. -/
theorem mailboxes_after_powerOff (h : station.holds kind.capability w = true)
    (reason : ShutdownReason) (flags : UInt32) (message : String) :
    let after := (station.after (.powerOff kind reason flags message) w).kernel.world
    let told := w.announce (station.endpoint.notice kind reason flags message)
    after.mailboxes = told.mailboxes ∧ after.broadcasts = told.broadcasts := by
  intro after told
  obtain ⟨lines, hafter⟩ := after_powerOff_of_allowed h reason flags message
  split at hafter
  · rw [show after = _ from hafter.2]
    exact ⟨rfl, rfl⟩
  · rw [show after = _ from hafter.2]
    exact ⟨rfl, rfl⟩

/-- The machine after an authorised request is as after the one call that the kernel takes. -/
theorem machine_after_allowed (h : station.holds kind.capability w = true)
    (reason : ShutdownReason) (flags : UInt32) (message : String) :
    let operation := Operation.powerOff kind reason flags message
    match station.adjustments.refusal? kind.request with
    | none => station.answer operation w = .ofDone (.ok ()) ∧
        (station.after operation w).kernel.world.machine =
          (w.powerOff station.pid kind reason.number flags
            (kind.announcedMessage message)).machine
    | some fault => station.answer operation w = .ofDone (.error (Error.ofKernelFault fault)) ∧
        (station.after operation w).kernel.world.machine = w.machine := by
  intro operation
  obtain ⟨lines, hafter⟩ := after_powerOff_of_allowed h reason flags message
  have htold : ({ w.announce (station.endpoint.notice kind reason flags message) with
      lines } : World).machine = w.machine := World.machine_announce
  cases hrefusal : station.adjustments.refusal? kind.request with
  | none =>
      rw [hrefusal] at hafter
      refine ⟨hafter.1, ?_⟩
      rw [hafter.2]
      exact World.machine_powerOff htold ..
  | some fault =>
      rw [hrefusal] at hafter
      refine ⟨hafter.1, ?_⟩
      rw [hafter.2]
      exact htold

end Station

/-- **What is announced is what is done.**  The message of a request is the standard one, or the
longest head of the given one that fits.  On any kernel, an authorised request announces it unless
nobody waits, and then asks the kernel once, with the same reason, flags and message.  In a world,
an announcement that is taken goes once into every mailbox but that of its sender, where it is read
as what was announced and handed to every handler; the call is noted once, unless the kernel refuses
it.  A request that is not authorised tells nobody and asks for nothing. -/
theorem announced_is_done (kind : PowerKind) (reason : ShutdownReason) (flags : UInt32)
    (message : String) :
    let cut := kind.announcedMessage message
    ((message = "" → cut = kind.standardMessage) ∧
      (message ≠ "" → Text.IsLongestHead maxShutdownMessageLength message cut)) ∧
    (∀ {σ : Type} (e : Endpoint σ) (s : Session σ),
      ((e.check kind.capability).run s).1 = true →
      ∃ lines, (e.powerOff kind reason flags message).run.run s =
        let notice := { kind, reason, message := cut, flags, sender := e.pid }
        let asked := e.kernel.powerOff kind reason.number flags cut
          (e.kernel.logAll lines (e.kernel.announce notice s.kernel))
        (asked.1.mapError Error.ofKernelFault, { s with kernel := asked.2 })) ∧
    ∀ (station : Station) (w : World),
      let operation := Operation.powerOff kind reason flags message
      let notice : ShutdownNotice := { kind, reason, message := cut, flags, sender := station.pid }
      let announcement := notice.toEnvelope w.clock
      let after := (station.after operation w).kernel.world
      (station.holds kind.capability w = true →
        (PowerFlag.isSet PowerFlag.noWait flags = false → w.broadcastFault = none →
          after.broadcasts = w.broadcasts ++ [announcement] ∧
          (∀ pid, after.mailboxes.find? pid = (w.mailboxes.find? pid).map fun waiting =>
            if pid = station.pid then waiting else waiting ++ [announcement]) ∧
          ∀ now, ShutdownNotice.ofEnvelope? (announcement.stamped now) = some notice ∧
            ∀ {m : Type → Type} [Monad m] (table : m CallbackTable)
              (run : Callback → ShutdownNotice → m Unit),
              dispatchNotice table run (announcement.stamped now) = (do
                let callbacks ← table
                callbacks.entries.forM fun callback => run callback notice
                pure (.ok callbacks.size))) ∧
        (PowerFlag.isSet PowerFlag.noWait flags = true ∨ (∃ fault, w.broadcastFault = some fault) →
          after.broadcasts = w.broadcasts ∧ after.mailboxes = w.mailboxes) ∧
        match station.adjustments.refusal? kind.request with
        | none => station.answer operation w = .ofDone (.ok ()) ∧
            after.machine = (w.powerOff station.pid kind reason.number flags cut).machine
        | some fault => station.answer operation w = .ofDone (.error (Error.ofKernelFault fault)) ∧
            after.machine = w.machine) ∧
      (station.holds kind.capability w = false →
        station.answer operation w = .ofDone (.error .permissionDenied) ∧
          after.broadcasts = w.broadcasts ∧ after.mailboxes = w.mailboxes ∧
            after.machine = w.machine) := by
  intro cut
  refine ⟨kind.announcedMessage_eq message,
    fun e s hallowed => Endpoint.run_powerOff_of_allowed hallowed reason flags message,
    fun station w => ⟨fun hholds => ⟨fun hwait htaken => ?_, fun hquiet => ?_, ?_⟩,
      fun hdenied => ?_⟩⟩
  · obtain ⟨hmailboxes, hbroadcasts⟩ :=
      Station.mailboxes_after_powerOff hholds reason flags message
    rw [World.announce_of_heard hwait htaken] at hmailboxes hbroadcasts
    refine ⟨hbroadcasts, fun pid => ?_, fun now => ⟨?_, fun table run => ?_⟩⟩
    · rw [hmailboxes]
      exact World.find?_deliverAll station.pid pid _ _
    · rw [ShutdownNotice.ofEnvelope?_stamped, ShutdownNotice.ofEnvelope?_toEnvelope]
    · exact ShutdownNotice.dispatchNotice_toEnvelope table run _ _ now
  · obtain ⟨hmailboxes, hbroadcasts⟩ :=
      Station.mailboxes_after_powerOff hholds reason flags message
    rw [World.announce_of_unheard hquiet] at hmailboxes hbroadcasts
    exact ⟨hbroadcasts, hmailboxes⟩
  · exact Station.machine_after_allowed hholds reason flags message
  · obtain ⟨hanswer, lines, hafter⟩ :=
      Station.after_powerOff_of_denied hdenied reason flags message
    refine ⟨hanswer, ?_⟩
    rw [hafter]
    exact ⟨rfl, rfl, rfl⟩

/-- A process asks for the capability and powers the machine off, with a message that contains the
mark by which an announcement is taken apart. -/
theorem announced_is_done_with_mark :
    let holder := Station.start 7 Config.standard
    let begun := ((System.start.spawn 7 Config.standard).2.spawn 8 Config.standard).2.world
    let asked := holder.after (.acquire Capability.shutdown "update" 60) begun
    let notice : ShutdownNotice :=
      { kind := .shutdown, reason := .userRequest, message := "a:message=b", flags := 0,
        sender := 7 }
    let ended := ((holder.resume asked).after
      (.powerOff .shutdown .userRequest 0 notice.message) asked.kernel.world).kernel.world
    ended.powerCalls = [{ caller := 7, kind := .shutdown, reason := 3, flags := 0,
                          message := notice.message }] ∧
      ∃ announcement, ended.mailboxes.find? 8 = some [announcement] ∧
        ShutdownNotice.ofEnvelope? (announcement.stamped 5) = some notice := by
  intro holder begun asked notice ended
  have hholds : (holder.resume asked).holds PowerKind.shutdown.capability asked.kernel.world =
      true := by
    decide +kernel
  have hcut : PowerKind.shutdown.announcedMessage notice.message = notice.message := by
    decide +kernel
  have hbox : asked.kernel.world.mailboxes.find? 8 = some [] := by decide +kernel
  have hcalls : asked.kernel.world.powerCalls = [] := by decide +kernel
  obtain ⟨-, -, hworld⟩ := announced_is_done .shutdown .userRequest 0 notice.message
  obtain ⟨htold, -, hmachine⟩ := (hworld (holder.resume asked) asked.kernel.world).1 hholds
  obtain ⟨-, hmailboxes, hread⟩ := htold rfl rfl
  have hcall := congrArg Prod.fst hmachine.2
  rw [hcut] at hread hcall
  refine ⟨hcall.trans ?_, _, (hmailboxes 8).trans ?_, (hread 5).1⟩
  · change asked.kernel.world.powerCalls ++ [_] = _
    rw [hcalls]
    rfl
  · rw [hbox, hcut]
    rfl

end Interprocess

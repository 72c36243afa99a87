import Interprocess.Proofs.Endpoint.Footprint
import Interprocess.Proofs.Endpoint.Transcript
import Interprocess.Proofs.Naming.Asking
import Interprocess.Proofs.Power.NoticeGrammar

/-!
# Asking for names, whoever answers

No process has to be a directory to be asked for names, and no kernel has to report what a peer
said.  Whatever comes back, a process makes something only of bytes that say so.

**Input.**  Any session of any kernel, and an operation that makes a request for a name.

**Service notices.**  A name that was entered or dropped is told to every process in a line of text
(`ServiceEvent.text`).  Names are not escaped in it, and may hold colons and digits; but the numeral
at the end of a line holds no colon, so the last colon of the line is where the name ends.

**Results.**
* `ServiceEvent.payload_injective`: a service notice tells one event.
* `Endpoint.reported_of_call`: a call ends with no bytes but those that were reported.
* `Endpoint.broadcasts_of_request`: what is told to every process, and when.
* `names_from_any_peer`: all of this for an operation that makes a request for a name.
-/

namespace Interprocess

/-! ## Service notices -/

/-- What is told to every process about a service. -/
inductive ServiceEvent
  /-- A process serves a name. -/
  | up (name : String) (pid : Pid)
  /-- Nobody serves a name. -/
  | down (name : String)
deriving DecidableEq

namespace ServiceEvent

/-- The line that tells of an event. -/
def text : ServiceEvent → String
  | up name pid => Announcement.serviceUpText name pid
  | down name => Announcement.serviceDownText name

/-- The service notice of an event. -/
def toEnvelope (event : ServiceEvent) (sender : Pid) (now : Nat) : Envelope where
  kind := MessageKind.serviceNotice
  sender := sender
  receiver := Pid.broadcast
  payload := Utf8.encode event.text
  sequence := 0
  timestamp := now
  flags := 0

theorem toList_text_up (name : String) (pid : Pid) :
    (up name pid).text.toList = Announcement.serviceUp.toList ++
      (name.toList ++ ':' :: (Text.decimal pid.toNat).toList) := by
  have hcolon : ":".toList = [':'] := rfl
  simp only [text, Announcement.serviceUpText, String.toList_append, hcolon, List.append_assoc,
    List.singleton_append]

theorem toList_text_down (name : String) :
    (down name).text.toList = Announcement.serviceDown.toList ++ name.toList := by
  rw [text, Announcement.serviceDownText, String.toList_append]

/-- The openings tell apart what is up and what is down. -/
theorem text_up_ne_text_down (name other : String) (pid : Pid) :
    (up name pid).text ≠ (down other).text := by
  intro h
  have hup : (Text.afterHead? Announcement.serviceUp.toList (up name pid).text.toList).isSome := by
    rw [toList_text_up, Text.afterHead?_append]
    rfl
  have hdown : Text.afterHead? Announcement.serviceUp.toList (down other).text.toList = none := by
    rw [toList_text_down]
    rfl
  rw [h, hdown] at hup
  cases hup

theorem text_injective : Function.Injective text := by
  intro event other h
  have hlists := congrArg String.toList h
  cases event with
  | up name pid =>
      cases other with
      | up name' pid' =>
          rw [toList_text_up, toList_text_up] at hlists
          obtain ⟨hname, hpid⟩ := Text.eq_of_append_mark (Text.isNumeral_decimal _).colon_notMem
            (Text.isNumeral_decimal _).colon_notMem (List.append_cancel_left hlists)
          have hnumber : pid.toNat = pid'.toNat := by
            have hread := Text.ofDecimal?_decimal pid.toNat
            rw [hpid, Text.ofDecimal?_decimal] at hread
            exact (Option.some.inj hread).symm
          rw [String.toList_inj.1 hname, UInt32.toNat_inj.1 hnumber]
      | down name' => exact absurd h (text_up_ne_text_down name name' pid)
  | down name =>
      cases other with
      | up name' pid' => exact absurd h.symm (text_up_ne_text_down name' name pid')
      | down name' =>
          rw [toList_text_down, toList_text_down] at hlists
          rw [String.toList_inj.1 (List.append_cancel_left hlists)]

/-- **A service notice tells one event.**  Its payload determines whether a service is up or down,
its name, and the process if it is up, whatever the name contains. -/
theorem payload_injective :
    Function.Injective fun event : ServiceEvent => Utf8.encode event.text := by
  intro event other h
  refine text_injective (Option.some.inj ?_)
  rw [← Utf8.decode?_encode, ← Utf8.decode?_encode]
  exact congrArg Utf8.decode? h

/-- A name may end in what looks like an address. -/
example : (up "vfs:1" 2).text = "SERVICE_REGISTER:vfs:1:2" ∧
    (up "vfs" 12).text = "SERVICE_REGISTER:vfs:12" := by
  decide +kernel

/-- The name of the service. -/
def name : ServiceEvent → String
  | up name _ | down name => name

/-- A service notice fits into a payload. -/
theorem length_payload_le {event : ServiceEvent} (h : isServiceName event.name = true) :
    (Utf8.encode event.text).length ≤ maxPayloadLength := by
  have hname : event.name.utf8ByteSize ≤ 63 := of_decide_eq_true (Bool.and_eq_true_iff.1 h).2
  have hopening : (Utf8.encode Announcement.serviceUp).length = 17 ∧
      (Utf8.encode Announcement.serviceDown).length = 19 ∧ (Utf8.encode ":").length = 1 := by
    decide
  cases event with
  | up name pid =>
      have hpid : (Utf8.encode (Text.decimal pid.toNat)).length ≤ 10 :=
        Text.length_decimal_le (by decide) (Nat.lt_of_lt_of_le pid.toNat_lt (by decide))
      simp only [ServiceEvent.name] at hname
      simp only [text, Announcement.serviceUpText, Utf8.encode_append, List.length_append,
        Utf8.length_encode, maxPayloadLength] at hopening hpid ⊢
      omega
  | down name =>
      simp only [ServiceEvent.name] at hname
      simp only [text, Announcement.serviceDownText, Utf8.encode_append, List.length_append,
        Utf8.length_encode, maxPayloadLength] at hopening ⊢
      omega

end ServiceEvent

/-- What is told to every process when a request is granted. -/
def NameRequest.event? : NameRequest → Option ServiceEvent
  | find _ => none
  | enter name pid => some (.up name pid)
  | drop name => some (.down name)

theorem NameRequest.name_event? {request : NameRequest} {event : ServiceEvent}
    (h : request.event? = some event) : event.name = request.name := by
  cases request with
  | find name => cases h
  | enter name pid | drop name =>
      obtain rfl := Option.some.inj h
      rfl

/-! ## Broadcasts -/

namespace Endpoint

variable {σ : Type} {e : Endpoint σ} {operation : Operation} {request : NameRequest}
  {bytes : Bytes} {s t : Session σ}

/-- What an operation hands over for every process, and whether the kernel takes it. -/
def broadcasts (e : Endpoint σ) (operation : Operation) (s : Session σ) :
    List (Envelope × Except SendFault Unit) :=
  (e.transcript operation s).filterMap Transfer.broadcast?

/-! ## What comes back -/

/-- A call ends with no bytes but those that were reported at one of its polls. -/
theorem reported_of_call (h : e.InOrder s) {destination : Pid} {kind : MessageKind}
    {payload : Bytes} {timeout : Nat} (hbytes : bytes ≠ [])
    (hcall : ((e.call destination kind payload timeout).run.run s).1 = .ok bytes) :
    ∃ posted, (e.sendWithTimeout destination kind payload true timeout).run.run s =
        (.ok s.process.nextSequence, posted) ∧
      ∃ poll < e.callPolls timeout,
        .received bytes ∈ e.pollReports s.process.nextSequence posted poll := by
  rcases hsend : (e.sendWithTimeout destination kind payload true timeout).run.run s with
    ⟨error | sequence, posted⟩
  · rw [call, Attempt.run_bind_of_error hsend] at hcall
    cases hcall
  · obtain rfl := eq_nextSequence_of_sendWithTimeout hsend
    refine ⟨posted, rfl, ?_⟩
    -- A call whose record was not retained ends without bytes.
    by_cases hgone : posted.process.ledger.find? s.process.nextSequence = none
    · rw [run_call_of_untracked (inOrder_posted h hsend) hsend hgone] at hcall
      exact absurd (Except.ok.inj hcall).symm hbytes
    · rw [run_call hsend] at hcall
      obtain ⟨poll, hpoll, hreason⟩ :=
        reported_or_late_of_ok (waiting_posted h hsend hgone) hcall
      exact ⟨poll, hpoll, hreason.resolve_right fun hnothing => hbytes hnothing.1⟩

/-! ## What is told -/

theorem run_announceService {event : ServiceEvent} (hname : isServiceName event.name = true)
    (t : Session σ) :
    ∃ lines, (e.announceService event.text).run t =
      let k := (e.kernel.broadcast (event.toEnvelope e.pid (e.kernel.now t.kernel)) t.kernel).2
      ((), { t with kernel := e.kernel.logAll lines k }) :=
  e.run_announcement (ServiceEvent.length_payload_le hname) (fun _ _ => ⟨[_], rfl⟩)
    MessageKind.serviceNotice 0 t

/-- A request that is granted is announced once. -/
theorem run_conclude_of_granted {value : Value} {event : ServiceEvent}
    (hname : isServiceName request.name = true) (houtcome : request.outcome bytes = .ok value)
    (hevent : request.event? = some event) (t : Session σ) :
    ∃ noted lines, (e.conclude request bytes).run t =
      let k := e.kernel.logAll noted t.kernel
      let told := (e.kernel.broadcast (event.toEnvelope e.pid (e.kernel.now k)) k).2
      ((), { t with kernel := e.kernel.logAll lines told }) := by
  rw [← NameRequest.name_event? hevent] at hname
  cases request with
  | find name => cases hevent
  | enter name pid =>
      obtain rfl := Option.some.inj hevent
      let noted := "directory: registered name=" ++ name ++ " pid=" ++ Text.decimal pid.toNat
      obtain ⟨lines, hrun⟩ := run_announceService (e := e) hname ((e.log noted).run t).2
      refine ⟨["[eclib] " ++ noted], lines, ?_⟩
      simp only [conclude, houtcome]
      exact hrun
  | drop name =>
      obtain rfl := Option.some.inj hevent
      obtain ⟨lines, hrun⟩ := run_announceService (e := e) hname t
      refine ⟨[], lines, ?_⟩
      simp only [conclude, houtcome]
      exact hrun

/-- A request that is refused, and a lookup, are not announced. -/
theorem run_conclude_of_untold
    (h : (∃ error, request.outcome bytes = .error error) ∨ request.event? = none) (t : Session σ) :
    ∃ lines, (e.conclude request bytes).run t =
      ((), { t with kernel := e.kernel.logAll lines t.kernel }) := by
  cases request with
  | find name =>
      cases houtcome : (NameRequest.find name).outcome bytes with
      | ok value =>
          simp only [conclude, houtcome]
          exact ⟨[], rfl⟩
      | error error =>
          simp only [conclude, houtcome]
          split
          · exact ⟨[_], rfl⟩
          · exact ⟨[], rfl⟩
  | enter name pid | drop name =>
      obtain ⟨error, houtcome⟩ := h.resolve_right (Option.some_ne_none _)
      refine ⟨[], ?_⟩
      simp only [conclude, houtcome]
      rfl

/-! ## What is broadcast -/

theorem broadcasts_logAll (lines : List String) (j : Journaled Transfer σ) :
    (e.journaled.kernel.logAll lines j).broadcasts = j.broadcasts :=
  keeps_logAll (K := e.journaled.kernel) (Q := fun j' => j'.broadcasts = j.broadcasts)
    (fun _ _ hj => hj) lines rfl

/-- A call tells nobody but the receiver. -/
theorem broadcasts_call (destination : Pid) (kind : MessageKind) (payload : Bytes) (timeout : Nat)
    (s : Session σ) :
    ((e.journaled.call destination kind payload timeout).run.run
      (journalBegun s)).2.kernel.broadcasts = [] := by
  refine keeps_call (e := e.journaled) (Q := fun j => j.broadcasts = []) (fun _ _ hj => hj)
    (fun _ _ hj => hj) ?_ (fun _ _ hj => hj) destination kind payload timeout rfl
  exact fun envelope wantsFeedback sequence j hj =>
    (broadcasts_send envelope wantsFeedback sequence j).trans hj

theorem broadcasts_conclude_of_granted {value : Value} {event : ServiceEvent}
    (hname : isServiceName request.name = true) (houtcome : request.outcome bytes = .ok value)
    (hevent : request.event? = some event) (t : Session (Journaled Transfer σ)) :
    ∃ now taken, ((e.journaled.conclude request bytes).run t).2.kernel.broadcasts =
      t.kernel.broadcasts ++ [(event.toEnvelope e.pid now, taken)] := by
  obtain ⟨noted, lines, hrun⟩ :=
    run_conclude_of_granted (e := e.journaled) hname houtcome hevent t
  rw [hrun]
  simp only [broadcasts_logAll, broadcasts_broadcast]
  exact ⟨_, _, rfl⟩

theorem broadcasts_conclude_of_untold
    (h : (∃ error, request.outcome bytes = .error error) ∨ request.event? = none)
    (t : Session (Journaled Transfer σ)) :
    ((e.journaled.conclude request bytes).run t).2.kernel.broadcasts = t.kernel.broadcasts := by
  obtain ⟨lines, hrun⟩ := run_conclude_of_untold (e := e.journaled) h t
  rw [hrun]
  exact broadcasts_logAll lines t.kernel

/-- **What is told to every process, and when.**  A granted request is broadcast once if there is
an event to tell; a refused one is not. -/
theorem broadcasts_of_request (h : operation.nameRequest? e.pid = some request)
    (hname : isServiceName request.name = true) :
    (∀ value event, ((e.perform operation).run s).1 = .attempt (.ok value) →
        request.event? = some event →
          ∃ now taken, e.broadcasts operation s = [(event.toEnvelope e.pid now, taken)]) ∧
      ((∃ error, ((e.perform operation).run s).1 = .attempt (.error error)) ∨
        request.event? = none → e.broadcasts operation s = []) := by
  have hanswer := congrArg Prod.fst (e.run_perform_journaled operation s)
  simp only at hanswer
  rw [← hanswer]
  have hsilent : ((e.journaled.askDirectory request.command request.payload
      request.timeout).run.run (journalBegun s)).2.kernel.broadcasts = [] :=
    broadcasts_call _ _ _ _ s
  change (∀ value event, _ → _ → ∃ now taken,
    ((e.journaled.perform operation).run (journalBegun s)).2.kernel.broadcasts = _) ∧
      (_ → ((e.journaled.perform operation).run (journalBegun s)).2.kernel.broadcasts = [])
  rcases hcall : (e.journaled.askDirectory request.command request.payload
    request.timeout).run.run (journalBegun s) with ⟨error | bytes, t⟩
  · rw [hcall] at hsilent
    rw [run_perform_of_failed (e := e.journaled) h hname hcall]
    exact ⟨nofun, fun _ => hsilent⟩
  · rw [hcall] at hsilent
    rw [run_perform_of_ended (e := e.journaled) h hname hcall]
    constructor
    · intro value event hvalue hevent
      have htold := broadcasts_conclude_of_granted (e := e) hname (Answer.attempt.inj hvalue)
        hevent t
      rwa [show t.kernel.broadcasts = [] from hsilent] at htold
    · intro huntold
      refine (broadcasts_conclude_of_untold (huntold.imp_left ?_) t).trans hsilent
      exact fun ⟨error, herror⟩ => ⟨error, Answer.attempt.inj herror⟩

/-! ## The operation -/

/-- What an operation answers is settled by its call. -/
theorem answer_of_request (h : operation.nameRequest? e.pid = some request)
    (hname : isServiceName request.name = true) (s : Session σ) :
    ((e.perform operation).run s).1 = .attempt
      (((e.askDirectory request.command request.payload request.timeout).run.run s).1.bind
        fun bytes => request.outcome bytes) := by
  rcases hcall : (e.askDirectory request.command request.payload request.timeout).run.run s with
    ⟨error | bytes, t⟩
  · rw [run_perform_of_failed h hname hcall]
    rfl
  · rw [run_perform_of_ended h hname hcall]
    rfl

/-- The same endpoint with a kernel that broadcasts in another way. -/
def withBroadcast (broadcast : Envelope → σ → Except SendFault Unit × σ) (e : Endpoint σ) :
    Endpoint σ :=
  { e with kernel := { e.kernel with broadcast } }

theorem awaitResponse_withBroadcast (broadcast : Envelope → σ → Except SendFault Unit × σ)
    (e : Endpoint σ) (sequence : Sequence) (call : String) (timeout polls : Nat) :
    (e.withBroadcast broadcast).awaitResponse sequence call timeout polls =
      e.awaitResponse sequence call timeout polls := by
  induction polls with
  | zero => rfl
  | succ polls ih =>
      unfold awaitResponse
      rw [ih]
      rfl

theorem askDirectory_withBroadcast (broadcast : Envelope → σ → Except SendFault Unit × σ)
    (e : Endpoint σ) (command : MessageKind) (payload : Bytes) (timeout : Nat) :
    (e.withBroadcast broadcast).askDirectory command payload timeout =
      e.askDirectory command payload timeout := by
  unfold askDirectory call
  simp only [awaitResponse_withBroadcast]
  rfl

/-- **Asking for names, whoever answers.**  An operation succeeds exactly if its call ended with
bytes that grant its request, and with the value that they grant; in a reachable session such bytes
were reported for this very request, unless there are none.  A name that was registered or
unregistered is broadcast once; what fails, and a lookup, is not broadcast.  What becomes of a
broadcast does not matter to the answer, and its text tells one event. -/
theorem names_from_any_peer (h : operation.nameRequest? e.pid = some request)
    (hname : isServiceName request.name = true) (s : Session σ) :
    let called := (e.askDirectory request.command request.payload request.timeout).run.run s
    let answer := ((e.perform operation).run s).1
    (∀ value, answer = .attempt (.ok value) ↔
        ∃ bytes, called.1 = .ok bytes ∧ request.Grants bytes value) ∧
      (e.Reachable s → ∀ bytes, called.1 = .ok bytes → bytes ≠ [] →
        ∃ posted, (e.sendWithTimeout e.config.directoryPid request.command request.payload true
            request.timeout).run.run s = (.ok s.process.nextSequence, posted) ∧
          ∃ poll < e.callPolls request.timeout,
            .received bytes ∈ e.pollReports s.process.nextSequence posted poll) ∧
      (∀ value event, answer = .attempt (.ok value) → request.event? = some event →
        ∃ now taken, e.broadcasts operation s = [(event.toEnvelope e.pid now, taken)]) ∧
      ((∃ error, answer = .attempt (.error error)) ∨ request.event? = none →
        e.broadcasts operation s = []) ∧
      (∀ broadcast, (((e.withBroadcast broadcast).perform operation).run s).1 = answer) ∧
      Function.Injective fun event : ServiceEvent => Utf8.encode event.text := by
  intro called answer
  obtain ⟨htold, huntold⟩ := broadcasts_of_request (s := s) h hname
  have hanswer : answer = .attempt (called.1.bind fun bytes => request.outcome bytes) :=
    answer_of_request h hname s
  refine ⟨fun value => ?_,
    fun hreachable bytes hcall hbytes => reported_of_call hreachable.inOrder hbytes hcall,
    htold, huntold, fun broadcast => ?_, ServiceEvent.payload_injective⟩
  · simp only [← NameRequest.outcome_eq_ok_iff]
    rw [hanswer]
    cases called.1 with
    | error error => simp [Except.bind]
    | ok bytes => simp [Except.bind]
  · have hother := answer_of_request (e := e.withBroadcast broadcast) h hname s
    rw [askDirectory_withBroadcast] at hother
    exact hother.trans hanswer.symm

/-- A peer gives the answer to a lookup to everybody, and no broadcast is taken.  A name with a
colon is looked up and registered all the same. -/
theorem names_from_peer_without_broadcasts :
    let reply := Json.encode ({ status := 0, pid := some 9 } : LookupResponse)
    let e := (Station.start 7 Config.standard).endpoint
    let s := (Station.start 7 Config.standard).session { World.start with
      responders := [(1, .reply reply)], broadcastFault := some .queueFull }
    ((e.perform (.lookup "vfs:1")).run s).1 = .attempt (.ok (.number 9)) ∧
      e.broadcasts (.lookup "vfs:1") s = [] ∧
      ((e.perform (.register "vfs:1" 2)).run s).1 = .attempt (.ok .nothing) ∧
      ∃ now taken, e.broadcasts (.register "vfs:1" 2) s =
        [((ServiceEvent.up "vfs:1" 2).toEnvelope 7 now, taken)] := by
  intro reply e s
  have hfind : (Operation.lookup "vfs:1").nameRequest? e.pid = some (.find "vfs:1") := rfl
  have henter : (Operation.register "vfs:1" 2).nameRequest? e.pid = some (.enter "vfs:1" 2) := rfl
  obtain ⟨hfound, -, -, hsilent, -⟩ := names_from_any_peer hfind (by decide) s
  obtain ⟨hentered, -, htold, -⟩ := names_from_any_peer henter (by decide) s
  have hregistered : ((e.perform (.register "vfs:1" 2)).run s).1 = .attempt (.ok .nothing) :=
    (hentered .nothing).2 ⟨reply, by decide +kernel, rfl, Or.inr (by decide +kernel)⟩
  refine ⟨(hfound (.number 9)).2 ⟨reply, by decide +kernel, by decide +kernel, 9, rfl, ?_⟩,
    hsilent (Or.inr rfl), hregistered, htold .nothing _ hregistered rfl⟩
  exact LookupResponse.decode?_encode _

end Endpoint

end Interprocess

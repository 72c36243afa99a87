import Interprocess.Proofs.Endpoint.Fitting
import Interprocess.Proofs.Naming.AnyPeer
import Interprocess.Proofs.Power.ExemptionBudget

/-!
# The payloads that the library words itself

Names, notices, announcements and exemptions go out in texts that the library puts together.  No
limit on payloads ever stands in their way: a name is short, though most of it may be escaped, a
message is cut before it is framed, and an address has few digits.

**Input.**  Any session of any kernel, and an operation with payloads of its own
(`Operation.payloads?`).

**Results.**
* `Operation.length_le_of_payloads?`: the payloads of an operation are not too long.
* `Endpoint.fits_of_payloads?`: an operation hands over its own payloads only, and does not fail
  because one is too long.
* `Endpoint.broadcasts_of_announces`: an announcement that is come to is handed over.
* `own_payloads_fit`: all of this for an operation with payloads of its own.
-/

namespace Interprocess

/-! ## Payloads of operations -/

/-- The payloads of a request for a name, which is not made if the name is refused: the request
itself, and what is told when it is granted. -/
def NameRequest.payloads (request : NameRequest) : List Bytes :=
  if isServiceName request.name then
    request.payload :: (request.event?.map fun event => Utf8.encode event.text).toList
  else []

/-- The payloads of an exemption of process `self`: the request, and what is told. -/
def exemptionPayloads (self : Pid) (emergencyOk : Bool) : List Bytes :=
  [littleEndian 4 self.toNat, Utf8.encode (Announcement.doNotKillText emergencyOk self)]

/-- The payloads that the library words for an operation of process `self`, if it words any. -/
def Operation.payloads? (self : Pid) (operation : Operation) : Option (List Bytes) :=
  match operation with
  | .lookup _ | .register .. | .registerSelf _ | .unregister _ =>
      (operation.nameRequest? self).map NameRequest.payloads
  | .powerOff kind reason flags message =>
      let notice : ShutdownNotice :=
        { kind, reason, message := kind.announcedMessage message, flags, sender := self }
      some [Utf8.encode notice.text]
  | .protectChildren emergencyOk => some (exemptionPayloads self emergencyOk)
  | .requestExemption _ => some (exemptionPayloads self false)
  | .beginSave => some (exemptionPayloads self false ++ [Utf8.encode Announcement.saveWait])
  | .saveComplete => some [Utf8.encode Announcement.saveDone]
  | _ => none

namespace NameRequest

variable (request : NameRequest)

theorem payload_mem_payloads (h : isServiceName request.name = true) :
    request.payload ∈ request.payloads := by
  rw [payloads, if_pos h]
  exact List.mem_cons_self

theorem text_mem_payloads (h : isServiceName request.name = true) {event : ServiceEvent}
    (hevent : request.event? = some event) :
    Utf8.encode event.text ∈ request.payloads := by
  rw [payloads, if_pos h, hevent]
  exact List.mem_cons_of_mem _ List.mem_cons_self

variable {request} in
theorem length_le_of_mem_payloads {payload : Bytes} (h : payload ∈ request.payloads) :
    payload.length ≤ maxPayloadLength := by
  unfold payloads at h
  split at h
  · next hname =>
      rcases List.mem_cons.1 h with rfl | hmem
      · exact length_payload_le hname
      · rw [Option.mem_toList, Option.map_eq_some_iff] at hmem
        obtain ⟨event, hevent, rfl⟩ := hmem
        exact ServiceEvent.length_payload_le (name_event? hevent ▸ hname)
  · cases h

end NameRequest

/-- An address takes ten digits at most. -/
theorem Announcement.length_doNotKillText_le (emergencyOk : Bool) (self : Pid) :
    (Utf8.encode (doNotKillText emergencyOk self)).length ≤ maxPayloadLength := by
  have hdigits : (Utf8.encode (Text.decimal self.toNat)).length ≤ 10 :=
    Text.length_decimal_le (by decide) (Nat.lt_trans self.toNat_lt (by decide))
  have hopening : (Utf8.encode (if emergencyOk then doNotKillEmergency else doNotKill)).length ≤
      22 := by
    cases emergencyOk <;> decide
  rw [doNotKillText, Utf8.encode_append, List.length_append, maxPayloadLength]
  omega

theorem length_le_of_mem_exemptionPayloads {self : Pid} {emergencyOk : Bool} {payload : Bytes}
    (h : payload ∈ exemptionPayloads self emergencyOk) :
    payload.length ≤ maxPayloadLength := by
  rcases List.mem_pair.1 h with rfl | rfl
  · rw [length_littleEndian]
    decide
  · exact Announcement.length_doNotKillText_le emergencyOk self

/-- The payloads of an operation are not too long. -/
theorem Operation.length_le_of_payloads? {self : Pid} {operation : Operation}
    {payloads : List Bytes} (h : operation.payloads? self = some payloads) :
    ∀ payload ∈ payloads, payload.length ≤ maxPayloadLength := by
  intro payload hmem
  cases operation with
  | lookup | register | registerSelf | unregister =>
      obtain rfl := Option.some.inj h
      exact NameRequest.length_le_of_mem_payloads hmem
  | powerOff kind reason flags message =>
      obtain rfl := Option.some.inj h
      obtain rfl := List.mem_singleton.1 hmem
      exact ShutdownNotice.length_text_le (kind.length_announcedMessage_le message)
  | protectChildren | requestExemption =>
      obtain rfl := Option.some.inj h
      exact length_le_of_mem_exemptionPayloads hmem
  | beginSave =>
      obtain rfl := Option.some.inj h
      rcases List.mem_append.1 hmem with hexemption | hwait
      · exact length_le_of_mem_exemptionPayloads hexemption
      · obtain rfl := List.mem_singleton.1 hwait
        decide
  | saveComplete =>
      obtain rfl := Option.some.inj h
      obtain rfl := List.mem_singleton.1 hmem
      decide
  | _ => cases h

/-! ## Answers of the directory -/

theorem DirectoryStatus.isOverflow_of_outcome {status : Int32} {error : Error}
    (h : outcome status = .error error) : error.isOverflow = false := by
  unfold outcome at h
  split_ifs at h <;> cases h <;> rfl

theorem isOverflow_of_readLookup {bytes : Bytes} {error : Error}
    (h : readLookup bytes = .error error) : error.isOverflow = false := by
  revert h
  unfold readLookup readAnswer
  rcases Json.decode? (α := LookupResponse) bytes with _ | ⟨status, found⟩
  · exact fun h => Except.error.inj h ▸ rfl
  · simp only [bind, Except.bind]
    cases houtcome : DirectoryStatus.outcome status with
    | error failure =>
        exact fun h => Except.error.inj h ▸ DirectoryStatus.isOverflow_of_outcome houtcome
    | ok =>
        cases found with
        | none => exact fun h => Except.error.inj h ▸ rfl
        | some pid => exact nofun

theorem isOverflow_of_readStatus {bytes : Bytes} {error : Error}
    (h : readStatus bytes = .error error) : error.isOverflow = false := by
  revert h
  unfold readStatus readAnswer
  split
  · exact nofun
  · rcases Json.decode? (α := StatusResponse) bytes with _ | ⟨⟨status⟩⟩
    · exact fun h => Except.error.inj h ▸ rfl
    · exact DirectoryStatus.isOverflow_of_outcome

namespace Endpoint

open Act Attempt

variable {σ : Type} {e : Endpoint σ} {payloads : List Bytes} {operation : Operation}

/-! ## Operations that fit -/

section Parts

variable (hshort : ∀ payload ∈ payloads, payload.length ≤ maxPayloadLength)

/-- A name that is refused hands nothing over. -/
theorem fits_checkName {α : Type} {name : String} {f : Unit → Attempt (Journaled Transfer σ) α}
    (h : isServiceName name = true → Fits payloads (f ())) :
    Fits payloads (checkName name >>= f) := by
  by_cases hname : isServiceName name = true
  · rw [checkName_bind hname]
    exact h hname
  · rw [checkName, if_neg hname]
    exact fits_throw rfl

include hshort

theorem fits_lookup {name : String}
    (h : isServiceName name = true → (NameRequest.find name).payload ∈ payloads) :
    Fits payloads (e.journaled.lookup name) := by
  refine fits_checkName fun hname => (fits_call (h hname) hshort _ _ _).bind fun bytes => ?_
  split
  · exact (fits_lift (handsOnly_log _)).bind fun _ => fits_throw rfl
  · exact fits_ofExcept fun _ => isOverflow_of_readLookup

theorem fits_register {name : String} {server : Pid}
    (h : isServiceName name = true → (NameRequest.enter name server).payload ∈ payloads)
    (htold : isServiceName name = true →
      Utf8.encode (ServiceEvent.up name server).text ∈ payloads) :
    Fits payloads (e.journaled.register name server) := by
  refine fits_checkName fun hname => (fits_call (h hname) hshort _ _ _).bind fun bytes => ?_
  refine (fits_ofExcept fun _ => isOverflow_of_readStatus).bind fun _ => ?_
  refine (fits_lift (handsOnly_log _)).bind fun _ => fits_lift ?_
  exact handsOnly_announcement (htold hname) hshort (fun _ => handsOnly_log _) _ _

theorem fits_unregister {name : String}
    (h : isServiceName name = true → (NameRequest.drop name).payload ∈ payloads)
    (htold : isServiceName name = true → Utf8.encode (ServiceEvent.down name).text ∈ payloads) :
    Fits payloads (e.journaled.unregister name) := by
  refine fits_checkName fun hname => (fits_call (h hname) hshort _ _ _).bind fun bytes => ?_
  refine (fits_ofExcept fun _ => isOverflow_of_readStatus).bind fun _ => fits_lift ?_
  exact handsOnly_announcement (htold hname) hshort (fun _ => handsOnly_log _) _ _

theorem fits_powerOff {kind : PowerKind} {reason : ShutdownReason} {flags : UInt32}
    {message : String} (h : Utf8.encode (e.notice kind reason flags message).text ∈ payloads) :
    Fits payloads (e.journaled.powerOff kind reason flags message) := by
  have hlog : ∀ line, Fits payloads (liftM (e.journaled.logUnlessQuiet flags line)) :=
    fun line => fits_lift (handsOnly_logUnlessQuiet flags line)
  unfold powerOff
  refine (fits_lift (handsOnly_of_journal_eq fun _ => rfl)).bind fun allowed => ?_
  split
  · exact (hlog _).bind fun _ => fits_throw rfl
  · have hask : Fits payloads (do
        e.journaled.logUnlessQuiet flags (kind.verb ++ ": reason=" ++ reason.name ++
          " flags=0x" ++ Text.hex flags.toNat ++ " message=" ++ kind.announcedMessage message)
        Attempt.onKernel (e.journaled.kernel.powerOff kind reason.number flags
          (kind.announcedMessage message)) : Attempt (Journaled Transfer σ) Unit) :=
      (hlog _).bind fun _ => fits_onKernel _
    simp only
    split
    · refine Fits.bind (fits_lift ?_) fun _ => hask
      exact handsOnly_announcement h hshort (fun _ => handsOnly_logUnlessQuiet _ _) _ _
    · exact hask

theorem fits_obtainExemption {emergencyOk : Bool}
    (h : exemptionPayloads e.pid emergencyOk ⊆ payloads) (polls : Nat) :
    Fits payloads (e.journaled.obtainExemption emergencyOk polls) := by
  have hrequest : littleEndian 4 e.pid.toNat ∈ payloads := h List.mem_cons_self
  have htold : Utf8.encode (Announcement.doNotKillText emergencyOk e.pid) ∈ payloads :=
    h (List.mem_cons_of_mem _ List.mem_cons_self)
  unfold obtainExemption
  refine (fits_onKernel (e.kernel.protectChildren emergencyOk)).bind fun _ => ?_
  refine (fits_sendWithTimeout hrequest hshort _ _ _ _).bind fun sequence => ?_
  refine Fits.bind (fits_lift ?_) fun _ => fits_awaitExemption _ _ _ _
  exact handsOnly_announcement htold hshort (fun _ => handsOnly_log _) _ _

theorem fits_beginSave (h : exemptionPayloads e.pid false ⊆ payloads)
    (hwait : Utf8.encode Announcement.saveWait ∈ payloads) :
    Fits payloads e.journaled.beginSave := by
  unfold beginSave
  refine (fits_obtainExemption hshort h _).bind fun _ => ?_
  refine (fits_sendWithTimeout hwait hshort _ _ _ _).bind fun _ => ?_
  refine (fits_lift (handsOnly_of_journal_eq fun _ => rfl)).bind fun now => ?_
  exact (fits_lift (handsOnly_of_journal_eq fun _ => rfl)).bind fun _ =>
    fits_lift (handsOnly_log _)

theorem fits_saveComplete (h : Utf8.encode Announcement.saveDone ∈ payloads) :
    Fits payloads e.journaled.saveComplete := by
  unfold saveComplete
  refine (fits_sendWithTimeout h hshort _ _ _ _).bind fun _ => ?_
  exact (fits_lift (handsOnly_of_journal_eq fun _ => rfl)).bind fun _ =>
    fits_lift (handsOnly_log _)

end Parts

/-- An operation with payloads of its own answers what an attempt ends in that fits. -/
theorem fits_of_payloads? (h : operation.payloads? e.pid = some payloads) :
    ∃ (α : Type) (tell : α → Value) (attempt : Attempt (Journaled Transfer σ) α),
      e.journaled.perform operation = answering tell attempt ∧ Fits payloads attempt := by
  have hshort := Operation.length_le_of_payloads? h
  cases operation with
  | lookup name =>
      obtain rfl := Option.some.inj h
      exact ⟨_, _, _, rfl, fits_lookup hshort (NameRequest.find name).payload_mem_payloads⟩
  | register name server =>
      obtain rfl := Option.some.inj h
      let request := NameRequest.enter name server
      exact ⟨_, _, _, rfl, fits_register hshort request.payload_mem_payloads
        fun hname => request.text_mem_payloads hname rfl⟩
  | registerSelf name =>
      obtain rfl := Option.some.inj h
      let request := NameRequest.enter name e.pid
      exact ⟨_, _, _, rfl, fits_register hshort request.payload_mem_payloads
        fun hname => request.text_mem_payloads hname rfl⟩
  | unregister name =>
      obtain rfl := Option.some.inj h
      let request := NameRequest.drop name
      exact ⟨_, _, _, rfl, fits_unregister hshort request.payload_mem_payloads
        fun hname => request.text_mem_payloads hname rfl⟩
  | powerOff kind reason flags message =>
      obtain rfl := Option.some.inj h
      exact ⟨_, _, _, rfl, fits_powerOff hshort List.mem_cons_self⟩
  | protectChildren | requestExemption =>
      obtain rfl := Option.some.inj h
      exact ⟨_, _, _, rfl, fits_obtainExemption hshort (List.Subset.refl _) _⟩
  | beginSave =>
      obtain rfl := Option.some.inj h
      exact ⟨_, _, _, rfl, fits_beginSave hshort (List.subset_append_left _ _)
        (List.mem_append_right _ List.mem_cons_self)⟩
  | saveComplete =>
      obtain rfl := Option.some.inj h
      exact ⟨_, _, _, rfl, fits_saveComplete hshort List.mem_cons_self⟩
  | _ => cases h

/-- What an operation with payloads of its own hands over, and how it does not fail. -/
theorem handed_of_payloads? (h : operation.payloads? e.pid = some payloads) (s : Session σ) :
    Transfer.AllAmong payloads (e.transcript operation s) ∧
      ∀ length limit,
        ((e.perform operation).run s).1 ≠ .attempt (.error (.bufferOverflow length limit)) := by
  obtain ⟨α, tell, attempt, hperform, hfits⟩ := fits_of_payloads? h
  have hanswer := congrArg Prod.fst (e.run_perform_journaled operation s)
  rw [hperform] at hanswer
  constructor
  · obtain ⟨handed, hjournal, hamong⟩ := hfits.hands (journalBegun s)
    have htranscript : e.transcript operation s = handed := by
      rw [transcript_eq, hperform]
      exact hjournal
    rw [htranscript]
    exact hamong
  · intro length limit hlong
    rcases hrun : attempt.run.run (journalBegun s) with ⟨error | a, t⟩
    · rw [run_answering_of_run hrun] at hanswer
      obtain rfl := Except.error.inj (Answer.attempt.inj (hanswer.trans hlong))
      exact Bool.noConfusion (hfits.error _ _ (congrArg Prod.fst hrun))
    · rw [run_answering_of_run hrun] at hanswer
      cases hanswer.trans hlong

end Endpoint

/-! ## Announcements -/

/-- Whether an operation begins with an exemption, and then whether that ends in an emergency. -/
def Operation.protection? : Operation → Option Bool
  | .beginSave => some false
  | operation => operation.exemption?

namespace Endpoint

variable {σ : Type} {e : Endpoint σ} {operation : Operation} {emergencyOk : Bool}
  {sequence : Sequence} {s : Session σ}

/-- The announcement that the children of a process are protected. -/
def exemptionNotice (e : Endpoint σ) (emergencyOk : Bool) (now : Nat) : Envelope where
  kind := MessageKind.doNotKill
  sender := e.pid
  receiver := Pid.broadcast
  payload := Utf8.encode (Announcement.doNotKillText emergencyOk e.pid)
  sequence := 0
  timestamp := now
  flags := 0

/-- Whether an operation comes to tell something to every process, and what. -/
inductive Announces (e : Endpoint σ) (s : Session σ) : Operation → (Nat → Envelope) → Prop
  /-- A name was entered or dropped. -/
  | service {operation : Operation} {request : NameRequest} {event : ServiceEvent} {value : Value}
      (hrequest : operation.nameRequest? e.pid = some request)
      (hname : isServiceName request.name = true) (hevent : request.event? = some event)
      (hgranted : ((e.perform operation).run s).1 = .attempt (.ok value)) :
      Announces e s operation (event.toEnvelope e.pid)
  /-- The machine is brought down by one who may do so, and somebody waits. -/
  | power {kind : PowerKind} (reason : ShutdownReason) {flags : UInt32} (message : String)
      (hallowed : ((e.check kind.capability).run s).1 = true)
      (hwait : PowerFlag.isSet PowerFlag.noWait flags = false) :
      Announces e s (.powerOff kind reason flags message)
        fun now => (e.notice kind reason flags message).toEnvelope now
  /-- The kernel protects the children, and takes the request for the exemption. -/
  | exemption {operation : Operation} {emergencyOk : Bool} {sequence : Sequence}
      (hoperation : operation.protection? = some emergencyOk)
      (htaken : ((e.askExemption emergencyOk).run.run s).1 = .ok sequence) :
      Announces e s operation (e.exemptionNotice emergencyOk)

theorem run_announceExemption (emergencyOk : Bool) (s : Session σ) :
    ∃ lines, (e.announceExemption emergencyOk).run s =
      let told := e.exemptionNotice emergencyOk (e.kernel.now s.kernel)
      ((), { s with kernel := e.kernel.logAll lines (e.kernel.broadcast told s.kernel).2 }) :=
  e.run_announcement (Announcement.length_doNotKillText_le emergencyOk e.pid)
    (fun _ _ => ⟨[_], rfl⟩) MessageKind.doNotKill 0 s

theorem broadcasts_sendWithTimeout (receiver : Pid) (kind : MessageKind) (payload : Bytes)
    (wantsFeedback : Bool) (timeout : Nat) (s : Session (Journaled Transfer σ)) :
    ((e.journaled.sendWithTimeout receiver kind payload wantsFeedback timeout).run.run
      s).2.kernel.broadcasts = s.kernel.broadcasts :=
  keeps_sendWithTimeout (e := e.journaled) (Q := fun j => j.broadcasts = s.kernel.broadcasts)
    (fun _ _ hj => hj)
    (fun envelope wantsFeedback sequence j hj =>
      (broadcasts_send envelope wantsFeedback sequence j).trans hj)
    receiver kind payload wantsFeedback timeout rfl

/-- A request for the exemption that is taken is announced once. -/
theorem broadcasts_askExemption {s t : Session (Journaled Transfer σ)}
    (h : (e.journaled.askExemption emergencyOk).run.run s = (.ok sequence, t)) :
    ∃ now taken, t.kernel.broadcasts =
      s.kernel.broadcasts ++ [(e.exemptionNotice emergencyOk now, taken)] := by
  obtain ⟨k, posted, hprotect, hsent, rfl⟩ := taken_of_askExemption h
  have hprotected : k.broadcasts = s.kernel.broadcasts :=
    (congrArg (fun r => r.2.broadcasts) hprotect).symm
  have hposted : posted.kernel.broadcasts = k.broadcasts :=
    (congrArg (fun r => r.2.kernel.broadcasts) hsent).symm.trans
      (broadcasts_sendWithTimeout (e := e) _ _ _ _ _ { s with kernel := k })
  obtain ⟨lines, hannounced⟩ := run_announceExemption (e := e.journaled) emergencyOk posted
  rw [announced, hannounced]
  simp only [broadcasts_logAll, broadcasts_broadcast]
  rw [hposted, hprotected]
  exact ⟨_, _, rfl⟩

theorem broadcasts_obtainExemption
    (htaken : ((e.askExemption emergencyOk).run.run s).1 = .ok sequence) (polls : Nat) :
    ∃ now taken, ((e.journaled.obtainExemption emergencyOk polls).run.run
        (journalBegun s)).2.kernel.broadcasts = [(e.exemptionNotice emergencyOk now, taken)] := by
  have hfollows : (e.askExemption emergencyOk).run.run s = _ :=
    follows_askExemption (e.kernel.mirrors_noting KernelEvent.transfer?) emergencyOk
      (journalBegun s)
  rw [hfollows] at htaken
  rcases hasked : (e.journaled.askExemption emergencyOk).run.run (journalBegun s) with
    ⟨result, t⟩
  obtain rfl : result = .ok sequence := (congrArg Prod.fst hasked).symm.trans htaken
  have hwait :=
    (fits_awaitExemption (e := e) sequence emergencyOk polls polls).hands.broadcasts_eq t
  rw [obtainExemption_eq, Attempt.run_bind_of_ok hasked, hwait]
  exact broadcasts_askExemption hasked

/-- To begin to save tells no more than to protect the children. -/
theorem broadcasts_beginSave :
    e.broadcasts .beginSave s = e.broadcasts (.protectChildren false) s := by
  change ((e.journaled.perform .beginSave).run (journalBegun s)).2.kernel.broadcasts =
    ((e.journaled.protectChildren false).run.run (journalBegun s)).2.kernel.broadcasts
  have hrequest : (e.journaled.requestSave.run.run (journalBegun s)).2.kernel.broadcasts =
      ((e.journaled.protectChildren false).run.run (journalBegun s)).2.kernel.broadcasts := by
    refine Attempt.bind_cases
      (P := fun t : Session (Journaled Transfer σ) => t.kernel.broadcasts = _)
      (fun error t hrun => ?_) fun _ t hrun => ?_
    · rw [hrun]
    · rw [hrun]
      exact broadcasts_sendWithTimeout ..
  rw [run_beginSave, ← hrequest]
  rcases e.journaled.requestSave.run.run (journalBegun s) with ⟨error | _, t⟩ <;> rfl

theorem broadcasts_powerOff {kind : PowerKind} {flags : UInt32}
    (hallowed : ((e.check kind.capability).run s).1 = true)
    (hwait : PowerFlag.isSet PowerFlag.noWait flags = false) (reason : ShutdownReason)
    (message : String) :
    ∃ now taken, e.broadcasts (.powerOff kind reason flags message) s =
      [((e.notice kind reason flags message).toEnvelope now, taken)] := by
  obtain ⟨lines, hrun⟩ := run_powerOff_of_allowed (e := e.journaled) (s := journalBegun s)
    hallowed reason flags message
  have hannounce : (e.journaled.kernel.announce (e.notice kind reason flags message)
      (journalBegun s).kernel) = (e.journaled.kernel.broadcast
        ((e.notice kind reason flags message).toEnvelope (e.kernel.now s.kernel))
        (journalBegun s).kernel).2 := by
    rw [Kernel.announce, show (e.notice kind reason flags message).flags = flags from rfl, hwait]
    rfl
  change ∃ now taken, ((e.journaled.powerOff kind reason flags message).run.run
    (journalBegun s)).2.kernel.broadcasts = _
  rw [hrun]
  change ∃ now taken, (e.journaled.kernel.logAll lines (e.journaled.kernel.announce
    (e.notice kind reason flags message) (journalBegun s).kernel)).broadcasts = _
  rw [broadcasts_logAll, hannounce, broadcasts_broadcast]
  exact ⟨_, _, rfl⟩

/-- An announcement that is come to is handed over, once. -/
theorem broadcasts_of_announces {announcement : Nat → Envelope}
    (h : e.Announces s operation announcement) :
    ∃ now taken, e.broadcasts operation s = [(announcement now, taken)] := by
  cases h with
  | service hrequest hname hevent hgranted =>
      exact (broadcasts_of_request hrequest hname).1 _ _ hgranted hevent
  | power reason message hallowed hwait =>
      exact broadcasts_powerOff hallowed hwait reason message
  | exemption hoperation htaken =>
      have hobtained := broadcasts_obtainExemption htaken
      cases operation with
      | protectChildren | requestExemption =>
          obtain rfl := Option.some.inj hoperation
          exact hobtained _
      | beginSave =>
          obtain rfl := Option.some.inj hoperation
          rw [broadcasts_beginSave]
          exact hobtained _
      | _ => cases hoperation

/-- **The library's own payloads always fit.**  The payloads that an operation words itself are not
too long, whatever the name, the address, the message and the reason.  So the operation hands over
those only and never fails because one is too long, and whatever it comes to announce is handed
over. -/
theorem own_payloads_fit {payloads : List Bytes} (h : operation.payloads? e.pid = some payloads)
    (s : Session σ) :
    (∀ payload ∈ payloads, payload.length ≤ maxPayloadLength) ∧
      (∀ transfer ∈ e.transcript operation s, ∀ payload,
        transfer.payload? = some payload → payload ∈ payloads) ∧
      (∀ length limit,
        ((e.perform operation).run s).1 ≠ .attempt (.error (.bufferOverflow length limit))) ∧
      ∀ announcement, e.Announces s operation announcement →
        ∃ now taken, e.broadcasts operation s = [(announcement now, taken)] := by
  obtain ⟨hhanded, hanswer⟩ := handed_of_payloads? h s
  exact ⟨Operation.length_le_of_payloads? h, hhanded, hanswer,
    fun _ hannounces => broadcasts_of_announces hannounces⟩

/-- A name of the largest size is registered for the largest address.  Every byte of it is escaped,
so its request is six times as long; it is sent, and what is told of it as well. -/
theorem own_payloads_fit_with_escapes :
    let name := String.ofList (List.replicate 63 '\x01')
    let request := NameRequest.enter name 0xFFFFFFFF
    let event := ServiceEvent.up name 0xFFFFFFFF
    let operation := Operation.register name 0xFFFFFFFF
    let e := (Station.start 7 Config.standard).endpoint
    let s := (Station.start 7 Config.standard).session { World.start with
      responders := [(1, .reply (Json.encode ({ status := 0 } : StatusResponse)))] }
    request.payload.length = 6 * 63 + 36 ∧
      operation.payloads? e.pid = some [request.payload, Utf8.encode event.text] ∧
      (∀ length limit,
        ((e.perform operation).run s).1 ≠ .attempt (.error (.bufferOverflow length limit))) ∧
      ∃ now taken, e.broadcasts operation s = [(event.toEnvelope 7 now, taken)] := by
  intro name request event operation e s
  have hname : isServiceName request.name = true := by decide +kernel
  have hrequest : operation.nameRequest? e.pid = some request := rfl
  have hpayloads : operation.payloads? e.pid = some [request.payload, Utf8.encode event.text] := by
    change some request.payloads = _
    rw [NameRequest.payloads, if_pos hname]
    rfl
  have hgranted : ((e.perform operation).run s).1 = .attempt (.ok .nothing) :=
    (answer_of_request hrequest hname s).trans (congrArg Answer.attempt (by decide +kernel))
  obtain ⟨-, -, hanswer, hannounced⟩ := own_payloads_fit hpayloads s
  have htold := hannounced _ (.service hrequest hname rfl hgranted)
  exact ⟨by decide +kernel, hpayloads, hanswer, htold⟩

end Endpoint

end Interprocess

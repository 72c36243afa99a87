import Interprocess.Proofs.Endpoint.LastPoll
import Interprocess.Proofs.Naming.AnyPeer

/-!
# Lookups without an answer

A directory may fail to answer a lookup in many ways: the kernel refuses the request, or has no news
of it, or reports that it came to nothing, or the ledger has no room to keep track of it.  This
module says with which error the lookup fails in each case, and whether that error is one of those
that mean that there is no such peer.

**Input.**  Any reachable session of any kernel, and a name that may be looked up at a directory
that is a single process.

**A full queue.**  A request that is refused because the queue of the directory is full fails with
`queueFull`, which is not among those errors; all the others are.

**Results.**
* `Endpoint.answer_of_unanswered`: the error of a lookup without an answer.
* `Endpoint.unanswered_or_heard`: there is no other way not to be answered.
* `Endpoint.lookup_unanswered`: both, and which of the errors mean that there is no such peer.
-/

namespace Interprocess

/-- Whether a report tells that a message came to nothing, other than for want of a right. -/
def Feedback.IsFailure : Feedback → Prop
  | deliveryFailed | lost | unknown => True
  | _ => False

/-- A decisive report tells of a failure, or is what the directory or its guard said. -/
theorem Feedback.failure_or_heard {state : DeliveryState} {before : List Feedback}
    {report : Feedback} (h : report.IsDecisive state before) :
    report.IsFailure ∨ report = .permissionDenied ∨ ∃ bytes, report = .received bytes := by
  cases report with
  | sending | delivered => cases h
  | received bytes => exact Or.inr (Or.inr ⟨bytes, rfl⟩)
  | permissionDenied => exact Or.inr (Or.inl rfl)
  | deliveryFailed | lost | unknown => exact Or.inl trivial

/-- Of all refused requests only one to a full queue is not taken for a request to nobody. -/
theorem Error.isNoSuchPeer_ofSendFault (fault : SendFault) :
    (ofSendFault fault).isNoSuchPeer = true ↔ fault ≠ .queueFull := by
  cases fault <;> decide

namespace Endpoint

variable {σ : Type}

/-! ## The request -/

/-- How a lookup sends its request. -/
def lookupSent (e : Endpoint σ) (name : String) (s : Session σ) :
    Except Error Sequence × Session σ :=
  (e.sendWithTimeout e.config.directoryPid DirectoryCommand.lookup (NameRequest.find name).payload
    true lookupTimeout).run.run s

/-- What the kernel answers to the request of a lookup. -/
def lookupTaken (e : Endpoint σ) (name : String) (s : Session σ) : Except SendFault Unit :=
  let now := e.kernel.now s.kernel
  let enrolled := s.process.enroll e.config.directoryPid DirectoryCommand.lookup now lookupTimeout
  let envelope := e.outgoing e.config.directoryPid DirectoryCommand.lookup
    (NameRequest.find name).payload enrolled.1.1 now
  (e.kernel.send envelope true enrolled.1.1
    (e.kernel.logAll (enrollLines enrolled.1.1 enrolled.1.2) s.kernel)).1

/-- The reports that a lookup finds until a poll, oldest first. -/
def lookupNews (e : Endpoint σ) (name : String) (s : Session σ) (last : Nat) : List Feedback :=
  e.pollNews s.process.nextSequence (e.lookupSent name s).2 (last + 1)

/-- Whether a poll is the last one of a lookup. -/
def LookupEnds (e : Endpoint σ) (name : String) (s : Session σ) (last : Nat) : Prop :=
  e.LastPoll s.process.nextSequence (e.lookupSent name s).2 (e.callPolls lookupTimeout) last

/-- The record of a lookup whose request the kernel took. -/
def lookupRecord (e : Endpoint σ) (s : Session σ) : SentRecord :=
  SentRecord.handedOver s.process.nextSequence e.config.directoryPid DirectoryCommand.lookup
    (e.kernel.now s.kernel) lookupTimeout .sent

/-- Whether a poll of a lookup comes too late. -/
def lookupLate (e : Endpoint σ) (name : String) (s : Session σ) (poll : Nat) : Bool :=
  (e.lookupRecord s).isStale
    (e.pollClock s.process.nextSequence (e.lookupSent name s).2 poll)

/-- The ways in which nobody answers a lookup, each with the error that it fails with. -/
inductive Unanswered (e : Endpoint σ) (name : String) (s : Session σ) : Error → Prop
  /-- The kernel refuses the request. -/
  | refused {fault : SendFault} (htaken : e.lookupTaken name s = .error fault) :
      Unanswered e name s (.ofSendFault fault)
  /-- The ledger has no room for the request, so nothing will be known of it. -/
  | untracked (htaken : e.lookupTaken name s = .ok ())
      (hfull : ¬ s.process.ledger.HasRoom (e.kernel.now s.kernel)) :
      Unanswered e name s .serviceUnavailable
  /-- After any progress the kernel reports that the request came to nothing. -/
  | failed {last : Nat} {before after : List Feedback} {report : Feedback}
      (htaken : e.lookupTaken name s = .ok ())
      (hroom : s.process.ledger.HasRoom (e.kernel.now s.kernel))
      (hlast : e.LookupEnds name s last)
      (hnews : e.lookupNews name s last = before ++ report :: after)
      (hbefore : Feedback.Undecided .sent before) (hreport : report.IsDecisive .sent before)
      (hfailure : report.IsFailure) :
      Unanswered e name s .serviceUnavailable
  /-- To the end the kernel reports no more than progress.  The last poll may come too late. -/
  | silent {last : Nat} (htaken : e.lookupTaken name s = .ok ())
      (hroom : s.process.ledger.HasRoom (e.kernel.now s.kernel))
      (hlast : e.LookupEnds name s last)
      (hnews : Feedback.Undecided .sent (e.lookupNews name s last)) :
      Unanswered e name s (if e.lookupLate name s last then .serviceUnavailable else .timeout)

variable {e : Endpoint σ} {name : String} {s : Session σ}

section Valid

variable (h : e.Reachable s) (hname : isServiceName name = true)
  (hsingle : e.config.directoryPid.isSingle = true)

include hname hsingle in
/-- The request of a lookup always comes to the kernel. -/
theorem fst_lookupSent :
    (e.lookupSent name s).1 =
      ((e.lookupTaken name s).map fun _ => s.process.nextSequence).mapError Error.ofSendFault := by
  have hfits : ¬ maxPayloadLength < (NameRequest.find name).payload.length :=
    Nat.not_lt.2 (NameRequest.length_payload_le hname)
  have hsequence := (nextSequence_enroll e.config.directoryPid DirectoryCommand.lookup
    (e.kernel.now s.kernel) lookupTimeout s.process).1
  rw [lookupSent, sendWithTimeout, if_neg (by simp [hsingle]), if_neg hfits, run_post]
  simp only [lookupTaken, hsequence]
  split
  · next hanswer => rw [hanswer]; rfl
  · next hanswer => rw [hanswer]; rfl

include hname hsingle in
theorem lookupSent_of_taken (htaken : e.lookupTaken name s = .ok ()) :
    e.lookupSent name s = (.ok s.process.nextSequence, (e.lookupSent name s).2) :=
  Prod.ext (by rw [fst_lookupSent hname hsingle, htaken]; rfl) rfl

include h hname hsingle in
/-- A request that the kernel took is waited for if there was room for its record. -/
theorem waiting_lookup (htaken : e.lookupTaken name s = .ok ())
    (hroom : s.process.ledger.HasRoom (e.kernel.now s.kernel)) :
    e.Waiting s.process.nextSequence (e.lookupRecord s) (e.lookupSent name s).2 := by
  have hsent := lookupSent_of_taken hname hsingle htaken
  refine waiting_posted h.inOrder hsent ?_
  rw [process_posted h.inOrder hsent]
  exact (h.inOrder.sound.find?_enter_ne_none_iff rfl _).2 hroom

/-! ## The error -/

include h hname hsingle in
/-- **The error of a lookup without an answer.** -/
theorem answer_of_unanswered {error : Error} (hunanswered : e.Unanswered name s error) :
    ((e.perform (.lookup name)).run s).1 = .attempt (.error error) := by
  have hfind : (Operation.lookup name).nameRequest? e.pid = some (.find name) := rfl
  have hanswer : ((e.perform (.lookup name)).run s).1 = .attempt
      (((e.askDirectory DirectoryCommand.lookup (NameRequest.find name).payload
        lookupTimeout).run.run s).1.bind fun bytes => (NameRequest.find name).outcome bytes) :=
    answer_of_request hfind hname s
  rw [hanswer, askDirectory]
  cases hunanswered with
  | refused htaken =>
      have hsent := fst_lookupSent (s := s) hname hsingle
      rw [htaken] at hsent
      rw [call, Attempt.run_bind_of_error (Prod.ext hsent rfl)]
      rfl
  | untracked htaken hfull =>
      have hsent := lookupSent_of_taken hname hsingle htaken
      rw [run_call_of_untracked (inOrder_posted h.inOrder hsent) hsent
        (untracked_posted h.inOrder hsent hfull)]
      rfl
  | @failed last before after report htaken hroom hlast hnews hbefore hreport hfailure =>
      have hwaiting := waiting_lookup h hname hsingle htaken hroom
      rw [run_call (lookupSent_of_taken hname hsingle htaken),
        result_of_first hwaiting hlast hnews hbefore hreport]
      cases report with
      | deliveryFailed | lost | unknown => rfl
      | sending | delivered | received | permissionDenied => cases hfailure
  | @silent last htaken hroom hlast hnews =>
      have hwaiting := waiting_lookup h hname hsingle htaken hroom
      rw [run_call (lookupSent_of_taken hname hsingle htaken),
        result_of_undecided hwaiting hlast hnews]
      rw [← lookupLate]
      cases e.lookupLate name s last <;> rfl

end Valid

/-- A lookup that was not left without an answer was denied, or heard of a response. -/
theorem unanswered_or_heard (e : Endpoint σ) (name : String) (s : Session σ) :
    (∃ error, e.Unanswered name s error) ∨
      ∃ last before report after, e.LookupEnds name s last ∧
        e.lookupNews name s last = before ++ report :: after ∧ Feedback.Undecided .sent before ∧
          (report = .permissionDenied ∨ ∃ bytes, report = .received bytes) := by
  rcases htaken : e.lookupTaken name s with fault | ⟨⟩
  · exact Or.inl ⟨_, .refused htaken⟩
  · by_cases hroom : s.process.ledger.HasRoom (e.kernel.now s.kernel)
    · obtain ⟨last, hlast⟩ := e.exists_lastPoll s.process.nextSequence (e.lookupSent name s).2
        (e.callPolls_pos lookupTimeout)
      rcases Feedback.undecided_or_first .sent (e.lookupNews name s last) with
        hnews | ⟨before, report, after, hnews, hbefore, hreport⟩
      · exact Or.inl ⟨_, .silent htaken hroom hlast hnews⟩
      · rcases Feedback.failure_or_heard hreport with hfailure | hheard
        · exact Or.inl ⟨_, .failed htaken hroom hlast hnews hbefore hreport hfailure⟩
        · exact Or.inr ⟨last, before, report, after, hlast, hnews, hbefore, hheard⟩
    · exact Or.inl ⟨_, .untracked htaken hroom⟩

/-- Which of the errors mean that there is no such peer. -/
theorem isNoSuchPeer_of_unanswered {error : Error} (hunanswered : e.Unanswered name s error) :
    error.isNoSuchPeer = true ↔ e.lookupTaken name s ≠ .error .queueFull := by
  cases hunanswered with
  | refused htaken => rw [Error.isNoSuchPeer_ofSendFault, htaken, Ne, Ne, Except.error.injEq]
  | untracked htaken | failed htaken => exact iff_of_true rfl (by rw [htaken]; exact nofun)
  | silent htaken =>
      refine iff_of_true ?_ (by rw [htaken]; exact nofun)
      split <;> rfl

theorem ne_notFound_of_unanswered {error : Error} (hunanswered : e.Unanswered name s error) :
    error ≠ .notFound := by
  cases hunanswered with
  | @refused fault => cases fault <;> exact nofun
  | untracked | failed => exact nofun
  | silent => split <;> exact nofun

/-- **Lookups without an answer.**  In every reachable session, whether or not its ledger is full, a
lookup to which nobody answers fails with the error of the way in which it is not answered.  That is
never `notFound`, and it means that there is no such peer, unless the kernel refused the request
because the queue of the directory is full.  Every other lookup was denied or heard of a
response. -/
theorem lookup_unanswered (h : e.Reachable s) (hname : isServiceName name = true)
    (hsingle : e.config.directoryPid.isSingle = true) :
    (∀ error, e.Unanswered name s error →
      ((e.perform (.lookup name)).run s).1 = .attempt (.error error) ∧ error ≠ .notFound ∧
        (error.isNoSuchPeer = true ↔ e.lookupTaken name s ≠ .error .queueFull)) ∧
      ((∃ error, e.Unanswered name s error) ∨
        ∃ last before report after, e.LookupEnds name s last ∧
          e.lookupNews name s last = before ++ report :: after ∧ Feedback.Undecided .sent before ∧
            (report = .permissionDenied ∨ ∃ bytes, report = .received bytes)) := by
  refine ⟨fun error hunanswered => ⟨?_, ?_, ?_⟩, e.unanswered_or_heard name s⟩
  · exact answer_of_unanswered h hname hsingle hunanswered
  · exact ne_notFound_of_unanswered hunanswered
  · exact isNoSuchPeer_of_unanswered hunanswered

/-- The request is delivered, and lost before it is read.  What is reported later does not count. -/
theorem lookup_of_lost_request :
    let fate : Timetable := [(15, .delivered), (25, .lost), (25, .received [1])]
    let station : Station := { Station.start 7 Config.standard with
      adjustments := { Adjustments.none with delays := [(1, fate)] } }
    let s := station.session { World.start with responders := [(1, .silent)] }
    ((station.endpoint.perform (.lookup "vfs")).run s).1 = .attempt (.error .serviceUnavailable) ∧
      Error.serviceUnavailable.isNoSuchPeer = true := by
  intro fate station s
  have hreachable : station.endpoint.Reachable s := ⟨s.kernel, Relation.ReflTransGen.refl⟩
  have hlast : station.endpoint.LookupEnds "vfs" s 3 :=
    ⟨by decide, by decide +kernel, Or.inl (by decide +kernel)⟩
  have hnews : station.endpoint.lookupNews "vfs" s 3 =
      [.delivered] ++ .lost :: [.received [1]] := by decide +kernel
  have hbefore : Feedback.Undecided .sent [.delivered] :=
    Feedback.undecided_append_singleton.2 ⟨Feedback.undecided_nil, id⟩
  have hlost : station.endpoint.Unanswered "vfs" s .serviceUnavailable :=
    .failed (by decide +kernel) ⟨by decide, Or.inl (by decide)⟩ hlast hnews hbefore trivial trivial
  obtain ⟨hanswer, -, hpeer⟩ :=
    (lookup_unanswered hreachable (by decide) (by decide)).1 _ hlost
  exact ⟨hanswer, hpeer.2 (by decide +kernel)⟩

/-- The queue of the directory is full, and that is not taken for a lack of a peer. -/
theorem lookup_of_full_queue :
    let station := Station.start 7 Config.standard
    let s := station.session { World.start with sendFaults := [(1, .queueFull)] }
    station.endpoint.Reachable s ∧ isServiceName "vfs" = true ∧
      station.endpoint.config.directoryPid.isSingle = true ∧
      station.endpoint.lookupTaken "vfs" s = .error .queueFull ∧
      ((station.endpoint.perform (.lookup "vfs")).run s).1 = .attempt (.error .queueFull) ∧
      Error.queueFull.isNoSuchPeer = false := by
  intro station s
  have hreachable : station.endpoint.Reachable s := ⟨s.kernel, Relation.ReflTransGen.refl⟩
  have htaken : station.endpoint.lookupTaken "vfs" s = .error .queueFull := by decide +kernel
  have hanswer := answer_of_unanswered hreachable (by decide) (by decide) (.refused htaken)
  exact ⟨hreachable, by decide, by decide, htaken, hanswer, rfl⟩

end Endpoint

end Interprocess

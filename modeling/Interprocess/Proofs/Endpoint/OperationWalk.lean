import Interprocess.Proofs.Endpoint.Course

/-!
# Every operation is a walk

The operations of a process are put together from acts and attempts, and so are their
walks: `Endpoint.Makes` says of an act that it is a walk of moves which an operation makes
besides its sends, and there is one rule for each way to put acts together.  `Endpoint.Opens`
says of an act with which an operation begins that it is on the course of the operation; its
first send gives out the sequence that the operation owns.

**Results.**
* `opens_send`: what follows the first send may use the sequence that the operation owns.
* `opens_call`, `opens_obtainExemption`: what waits for an answer sends one message, and
  queries and forgets only the sequence of that.
* `course_perform`: the course of a whole operation.
* `walk_perform`: a whole operation makes only moves that it permits.
-/

namespace Interprocess

namespace Endpoint

variable {σ α β : Type} {e : Endpoint σ} {operation : Operation} {first : Sequence}

/-- Whether an act makes only moves that `operation` makes besides its sends, when the operation
began with `first` as the next sequence. -/
def Makes (e : Endpoint σ) (operation : Operation) (first : Sequence) (x : Act σ α) : Prop :=
  ∀ s : Session σ, e.Walk (operation.makesQuietly e.pid first) s (x.run s).2

/-! ## Rules -/

/-- An act that only looks makes no move. -/
theorem makes_of_same {x : Act σ α} (h : ∀ s, (x.run s).2 = s) :
    e.Makes operation first x := by
  intro s
  rw [h s]
  exact Relation.ReflTransGen.refl

/-- An act may be a single move. -/
theorem makes_of_move {x : Act σ α} (move : Move)
    (hmakes : operation.makesQuietly e.pid first move)
    (h : ∀ s, (x.run s).2 = e.apply move s) :
    e.Makes operation first x := by
  intro s
  rw [h s]
  exact Walk.single hmakes s

theorem makes_of_use {x : Act σ α} (use : KernelUse) (huses : operation.uses e.pid use)
    (h : ∀ s, (x.run s).2 = { s with kernel := use.effect e.kernel s.kernel }) :
    e.Makes operation first x :=
  makes_of_move (.useKernel use) huses h

theorem makes_pure (a : α) : e.Makes operation first (pure a) :=
  makes_of_same fun _ => rfl

theorem makes_bind {x : Act σ α} {f : α → Act σ β} (hx : e.Makes operation first x)
    (hf : ∀ a, e.Makes operation first (f a)) :
    e.Makes operation first (x >>= f) :=
  fun s => (hx s).trans (hf _ _)

/-- A sequence goes through its first part, and through the second one if the first did not
fail. -/
theorem steps_attempt_bind {step : Session σ → Session σ → Prop} {x : Attempt σ α}
    {f : α → Attempt σ β} {s : Session σ} (hx : Relation.ReflTransGen step s (x.run.run s).2)
    (hf : ∀ a t, x.run.run s = (.ok a, t) →
      Relation.ReflTransGen step t ((f a).run.run t).2) :
    Relation.ReflTransGen step s ((x >>= f).run.run s).2 := by
  rw [Attempt.run_bind]
  rcases hrun : x.run.run s with ⟨result, t⟩
  rw [hrun] at hx
  cases result with
  | ok a => exact hx.trans (hf a t hrun)
  | error error => exact hx

theorem makes_attempt_bind {x : Attempt σ α} {f : α → Attempt σ β}
    (hx : e.Makes operation first x.run) (hf : ∀ a, e.Makes operation first (f a).run) :
    e.Makes operation first (x >>= f).run :=
  fun s => steps_attempt_bind (hx s) fun a t _ => hf a t

theorem makes_lift {x : Act σ α} (hx : e.Makes operation first x) :
    e.Makes operation first (liftM x : Attempt σ α).run :=
  hx

theorem makes_attempt_pure (a : α) :
    e.Makes operation first (pure a : Attempt σ α).run :=
  makes_of_same fun _ => rfl

theorem makes_throw (error : Error) :
    e.Makes operation first (throw error : Attempt σ α).run :=
  makes_of_same fun _ => rfl

theorem makes_ofExcept (result : Except Error α) :
    e.Makes operation first (Attempt.ofExcept result : Attempt σ α).run :=
  makes_of_same fun _ => rfl

theorem makes_ofKernel (f : σ → Except KernelFault α) :
    e.Makes operation first (Attempt.ofKernel f : Attempt σ α).run :=
  makes_of_same fun _ => rfl

/-- A request that the kernel may refuse is a use of the kernel. -/
theorem makes_request {f : σ → Except KernelFault α × σ} (use : KernelUse)
    (huses : operation.uses e.pid use) (h : ∀ k, (f k).2 = use.effect e.kernel k) :
    e.Makes operation first (Attempt.onKernel f : Attempt σ α).run := by
  refine makes_of_use use huses fun s => ?_
  show ({ s with kernel := (f s.kernel).2 } : Session σ) = _
  rw [h]

/-! ## Parts of operations -/

theorem makes_now : e.Makes operation first e.now :=
  makes_of_same fun _ => rfl

theorem makes_log (line : String) : e.Makes operation first (e.log line) :=
  makes_of_use (.log ("[eclib] " ++ line)) trivial fun _ => rfl

theorem makes_sleep (ms : Nat) : e.Makes operation first (e.sleep ms) :=
  makes_of_use (.sleep ms) trivial fun _ => rfl

theorem makes_check (required : UInt32) : e.Makes operation first (e.check required) :=
  makes_of_same fun _ => rfl

theorem makes_logUnlessQuiet (flags : UInt32) (line : String) :
    e.Makes operation first (e.logUnlessQuiet flags line) := by
  unfold logUnlessQuiet
  split
  · exact makes_pure ()
  · exact makes_log line

theorem makes_broadcast (kind : MessageKind) (flags : UInt32) (payload : Bytes) :
    e.Makes operation first (e.broadcast kind flags payload).run := by
  unfold broadcast
  split
  · exact makes_throw _
  · next hshort =>
      refine makes_attempt_bind (makes_lift makes_now) fun now => ?_
      exact makes_of_use (.broadcast _) ⟨rfl, rfl, rfl, Nat.not_lt.1 hshort⟩ fun _ => rfl

/-- A broadcast whose failure is only logged. -/
theorem makes_announcement {kind : MessageKind} {flags : UInt32} {payload : Bytes}
    {failed : Error → Act σ Unit} (hfailed : ∀ error, e.Makes operation first (failed error)) :
    e.Makes operation first (do
      match ← (e.broadcast kind flags payload).run with
      | .ok () => pure ()
      | .error error => failed error) := by
  refine makes_bind (makes_broadcast kind flags payload) fun result => ?_
  cases result with
  | ok _ => exact makes_pure ()
  | error error => exact hfailed error

theorem makes_announceService (text : String) :
    e.Makes operation first (e.announceService text) :=
  makes_announcement fun _ => makes_log _

/-- What a line and a send to the kernel keep, every send keeps. -/
theorem keeps_sendWithTimeout {Q : σ → Prop} (hlog : ∀ line k, Q k → Q (e.kernel.log line k))
    (hsend : ∀ envelope wantsFeedback sequence k, Q k →
      Q (e.kernel.send envelope wantsFeedback sequence k).2)
    (receiver : Pid) (kind : MessageKind) (payload : Bytes) (wantsFeedback : Bool) (timeout : Nat)
    {s : Session σ} (hs : Q s.kernel) :
    Q ((e.sendWithTimeout receiver kind payload wantsFeedback timeout).run.run s).2.kernel := by
  unfold sendWithTimeout
  split
  · exact hlog _ _ hs
  · split
    · exact hs
    · exact keeps_post hlog hlog (hsend _ _ _) hs

/-- A send that answers a sequence was posted. -/
theorem post_of_sendWithTimeout {receiver : Pid} {kind : MessageKind} {payload : Bytes}
    {wantsFeedback : Bool} {timeout : Nat} {s t : Session σ} {sequence : Sequence}
    (h : (e.sendWithTimeout receiver kind payload wantsFeedback timeout).run.run s =
      (.ok sequence, t)) :
    (e.post receiver kind payload wantsFeedback timeout).run.run s = (.ok sequence, t) := by
  unfold sendWithTimeout at h
  split at h
  · simp only [Attempt.run_bind, Attempt.run_lift, Attempt.run_throw] at h
    cases h
  · split at h
    · rw [Attempt.run_throw] at h
      cases h
    · exact h

/-- What it answers is the sequence that was the next one. -/
theorem eq_nextSequence_of_sendWithTimeout {receiver : Pid} {kind : MessageKind} {payload : Bytes}
    {wantsFeedback : Bool} {timeout : Nat} {s t : Session σ} {sequence : Sequence}
    (h : (e.sendWithTimeout receiver kind payload wantsFeedback timeout).run.run s =
      (.ok sequence, t)) :
    sequence = s.process.nextSequence :=
  eq_nextSequence_of_post e (congrArg Prod.fst (post_of_sendWithTimeout h))

/-! ## The sequence that an operation owns -/

/-- Whether an act with which an operation begins is on its course. -/
def Opens (e : Endpoint σ) (operation : Operation) (first : Sequence) (x : Act σ α) : Prop :=
  ∀ s : Session σ, s.process.nextSequence = first → e.Course operation first s (x.run s).2

theorem Makes.opens {x : Act σ α} (h : e.Makes operation first x) :
    e.Opens operation first x :=
  fun s _ => (h s).course

/-- What sends nothing may come before the first send. -/
theorem opens_after {x : Attempt σ α} {f : α → Attempt σ β}
    (hx : e.Makes operation first x.run) (hf : ∀ a, e.Opens operation first (f a).run) :
    e.Opens operation first (x >>= f).run := by
  intro s hfirst
  have hwalk := hx s
  refine steps_attempt_bind hwalk.course fun a t hrun => hf a t ?_
  have hstill := hwalk.nextSequence_eq
  rw [hrun] at hstill
  exact hstill.trans hfirst

theorem opens_bind {x : Attempt σ α} {f : α → Attempt σ β}
    (hx : e.Opens operation first x.run) (hf : ∀ a, e.Makes operation first (f a).run) :
    e.Opens operation first (x >>= f).run :=
  fun s hfirst => steps_attempt_bind (hx s hfirst) fun a t _ => (hf a t).course

/-- A send is refused on the spot, or it is one move. -/
theorem course_sendWithTimeout {receiver : Pid} {wantsFeedback : Bool} {s : Session σ}
    (hroom : s.process.nextSequence - first < operation.sendLimit)
    (hfeedback : wantsFeedback = true → s.process.nextSequence = first) (kind : MessageKind)
    (payload : Bytes) (timeout : Nat) :
    e.Course operation first s
      ((e.sendWithTimeout receiver kind payload wantsFeedback timeout).run.run s).2 := by
  unfold sendWithTimeout
  split
  · have hrefuse : e.Makes operation first (do
        e.log ("send: rejected pid=" ++ Text.decimal receiver.toNat ++ " above max")
        throw .permissionDenied : Attempt σ Sequence).run :=
      makes_attempt_bind (makes_lift (makes_log _)) fun _ => makes_throw _
    exact (hrefuse s).course
  · next hsingle =>
      rw [Bool.not_eq_true, Bool.not_eq_false'] at hsingle
      split
      · exact Relation.ReflTransGen.refl
      · next hshort =>
          exact Relation.ReflTransGen.single
            (.post hroom hfeedback hsingle (Nat.not_lt.1 hshort) kind timeout)

theorem opens_sendWithTimeout (hsends : operation.sends = true) (receiver : Pid)
    (kind : MessageKind) (payload : Bytes) (wantsFeedback : Bool) (timeout : Nat) :
    e.Opens operation first
      (e.sendWithTimeout receiver kind payload wantsFeedback timeout).run := by
  intro s hfirst
  refine course_sendWithTimeout ?_ (fun _ => hfirst) kind payload timeout
  rw [hfirst, Nat.sub_self]
  exact Operation.sendLimit_pos_iff.2 hsends

/-- The first send gives out the sequence that the operation owns. -/
theorem opens_send {receiver : Pid} {kind : MessageKind} {payload : Bytes}
    {wantsFeedback : Bool} {timeout : Nat} {f : Sequence → Attempt σ β}
    (hsends : operation.sends = true) (hf : e.Makes operation first (f first).run) :
    e.Opens operation first
      (e.sendWithTimeout receiver kind payload wantsFeedback timeout >>= f).run := by
  intro s hfirst
  refine steps_attempt_bind (opens_sendWithTimeout hsends _ _ _ _ _ s hfirst) ?_
  intro sequence t hrun
  have hnext := eq_nextSequence_of_sendWithTimeout hrun
  have howned : sequence = first := hnext.trans hfirst
  rw [howned]
  exact (hf t).course

theorem checkName_bind {name : String} (h : isServiceName name = true)
    (f : Unit → Attempt σ β) :
    (checkName name >>= f) = f () := by
  unfold checkName
  rw [if_pos h]
  rfl

theorem opens_checkName {name : String} {f : Unit → Attempt σ β}
    (hf : e.Opens operation first (f ()).run) :
    e.Opens operation first (checkName name >>= f).run := by
  unfold checkName
  split
  · exact opens_after (makes_attempt_pure ()) fun _ => hf
  · exact opens_after (makes_throw _) fun _ => hf

section Awaiting

variable (hawaits : operation.awaits = true)
include hawaits

theorem makes_query : e.Makes operation first (e.state first) :=
  makes_of_move (.query first) (Or.inr ⟨hawaits, rfl⟩) fun _ => rfl

theorem makes_drop : e.Makes operation first (Act.drop first) :=
  makes_of_move (.forget first) (Or.inr ⟨hawaits, rfl⟩) fun _ => rfl

theorem makes_takeResponse : e.Makes operation first (Act.takeResponse first) :=
  makes_of_move (.forget first) (Or.inr ⟨hawaits, rfl⟩) fun _ => rfl

theorem makes_awaitResponse (call : String) (timeout polls : Nat) :
    e.Makes operation first (e.awaitResponse first call timeout polls).run := by
  induction polls with
  | zero =>
      unfold awaitResponse
      refine makes_attempt_bind (makes_lift (makes_drop hawaits)) fun _ => ?_
      exact makes_attempt_bind (makes_lift (makes_log _)) fun _ => makes_throw _
  | succ polls ih =>
      unfold awaitResponse
      refine makes_attempt_bind (makes_lift (makes_query hawaits)) fun state => ?_
      cases state.callOutcome with
      | answered => exact makes_lift (makes_takeResponse hawaits)
      | unreported =>
          exact makes_attempt_bind (makes_lift (makes_drop hawaits)) fun _ =>
            makes_attempt_pure _
      | failed error =>
          refine makes_attempt_bind (makes_lift (makes_drop hawaits)) fun _ => ?_
          exact makes_attempt_bind (makes_lift (makes_log _)) fun _ => makes_throw _
      | undecided => exact makes_attempt_bind (makes_lift (makes_sleep _)) fun _ => ih

/-- A call sends one message, and queries and forgets only the sequence of that. -/
theorem opens_call (destination : Pid) (kind : MessageKind) (request : Bytes)
    (timeout : Nat) :
    e.Opens operation first (e.call destination kind request timeout).run :=
  opens_send (Operation.sends_of_awaits hawaits) (makes_awaitResponse hawaits _ _ _)

theorem opens_lookup (name : String) : e.Opens operation first (e.lookup name).run := by
  refine opens_checkName (opens_bind (opens_call hawaits _ _ _ _) fun bytes => ?_)
  split
  · exact makes_attempt_bind (makes_lift (makes_log _)) fun _ => makes_throw _
  · exact makes_ofExcept _

theorem opens_register (name : String) (pid : Pid) :
    e.Opens operation first (e.register name pid).run := by
  refine opens_checkName (opens_bind (opens_call hawaits _ _ _ _) fun bytes => ?_)
  refine makes_attempt_bind (makes_ofExcept _) fun _ => ?_
  refine makes_attempt_bind (makes_lift (makes_log _)) fun _ => ?_
  exact makes_lift (makes_announceService _)

theorem opens_unregister (name : String) :
    e.Opens operation first (e.unregister name).run := by
  refine opens_checkName (opens_bind (opens_call hawaits _ _ _ _) fun bytes => ?_)
  refine makes_attempt_bind (makes_ofExcept _) fun _ => ?_
  exact makes_lift (makes_announceService _)

theorem makes_awaitExemption (emergencyOk : Bool) (polls left : Nat) :
    e.Makes operation first (e.awaitExemption first emergencyOk polls left).run := by
  induction left with
  | zero =>
      unfold awaitExemption
      refine makes_attempt_bind (makes_lift (makes_drop hawaits)) fun _ => ?_
      exact makes_attempt_bind (makes_lift (makes_log _)) fun _ => makes_throw _
  | succ left ih =>
      unfold awaitExemption
      refine makes_attempt_bind (makes_lift (makes_query hawaits)) fun state => ?_
      cases state.exemptionOutcome with
      | granted =>
          refine makes_attempt_bind (makes_lift (makes_drop hawaits)) fun _ => ?_
          exact makes_lift (makes_log _)
      | refused error =>
          refine makes_attempt_bind (makes_lift (makes_drop hawaits)) fun _ => ?_
          exact makes_attempt_bind (makes_lift (makes_log _)) fun _ => makes_throw _
      | undecided => exact makes_attempt_bind (makes_lift (makes_sleep _)) fun _ => ih

/-- An exemption request does so too. -/
theorem opens_obtainExemption (emergencyOk : Bool) (polls : Nat) :
    e.Opens operation first (e.obtainExemption emergencyOk polls).run := by
  refine opens_after (makes_request (.protectChildren emergencyOk) hawaits fun _ => rfl)
    fun _ => ?_
  refine opens_send (Operation.sends_of_awaits hawaits) ?_
  refine makes_attempt_bind (makes_lift (makes_announcement fun _ => makes_log _))
    fun _ => ?_
  exact makes_awaitExemption hawaits _ _ _

end Awaiting

/-! ## Whole operations -/

/-- An operation is answered what its attempt ends in. -/
theorem run_answering_of_run {f : α → Value} {x : Attempt σ α} {s t : Session σ}
    {result : Except Error α} (h : x.run.run s = (result, t)) :
    (answering f x).run s = (.attempt (result.map f), t) := by
  rw [answering, Act.run_bind, h]
  rfl

theorem makes_answering (f : α → Value) {attempt : Attempt σ α}
    (h : e.Makes operation first attempt.run) :
    e.Makes operation first (answering f attempt) :=
  makes_bind h fun _ => makes_pure _

theorem opens_answering (f : α → Value) {attempt : Attempt σ α}
    (h : e.Opens operation first attempt.run) :
    e.Opens operation first (answering f attempt) :=
  fun s hfirst => (h s hfirst).trans Relation.ReflTransGen.refl

theorem makes_answeringToken (token : Token) {attempt : Attempt σ Token}
    (h : e.Makes operation first attempt.run) :
    e.Makes operation first (answeringToken token attempt) := by
  refine makes_bind h fun result => ?_
  cases result with
  | ok changed => exact makes_pure _
  | error error => exact makes_pure _

theorem makes_acquire {capabilities : UInt32} {description : String} {seconds : Nat}
    (h : operation = .acquire capabilities description seconds) :
    e.Makes operation first (e.acquire capabilities description seconds) := by
  unfold acquire
  refine makes_bind
    (makes_of_use
      (.acquire capabilities (Text.cut maxDescriptionLength description) seconds)
      ⟨description, rfl, h⟩ fun _ => rfl)
    fun token => ?_
  cases token with
  | none => exact makes_bind (makes_log _) fun _ => makes_pure _
  | some token =>
      simp only
      split
      · exact makes_bind (makes_log _) fun _ => makes_pure _
      · exact makes_pure _

theorem makes_checkOwner (token : Token) :
    e.Makes operation first (e.checkOwner token).run := by
  unfold checkOwner
  split
  · exact makes_attempt_pure _
  · exact makes_throw _

theorem makes_checkUsable (token : Token) :
    e.Makes operation first (e.checkUsable token).run := by
  unfold checkUsable
  split
  · exact makes_throw _
  · refine makes_attempt_bind (makes_lift (makes_of_same fun _ => rfl)) fun now => ?_
    split
    · exact makes_throw _
    · exact makes_attempt_pure _

theorem makes_powerOff {kind : PowerKind} {reason : ShutdownReason} {flags : UInt32}
    {message : String} (h : operation = .powerOff kind reason flags message) :
    e.Makes operation first (e.powerOff kind reason flags message).run := by
  unfold powerOff
  refine makes_attempt_bind (makes_lift (makes_check _)) fun allowed => ?_
  split
  · exact makes_attempt_bind (makes_lift (makes_logUnlessQuiet _ _)) fun _ => makes_throw _
  · have hask : e.Makes operation first (do
        e.logUnlessQuiet flags (kind.verb ++ ": reason=" ++ reason.name ++
          " flags=0x" ++ Text.hex flags.toNat ++ " message=" ++ kind.announcedMessage message)
        Attempt.onKernel (e.kernel.powerOff kind reason.number flags
          (kind.announcedMessage message)) : Attempt σ Unit).run :=
      makes_attempt_bind (makes_lift (makes_logUnlessQuiet _ _)) fun _ =>
        makes_request (.powerOff kind reason.number flags (kind.announcedMessage message))
          ⟨reason, message, rfl, rfl, h⟩ fun _ => rfl
    simp only
    split
    · refine makes_attempt_bind ?_ fun _ => hask
      exact makes_lift (makes_announcement fun _ => makes_logUnlessQuiet _ _)
    · exact hask

theorem makes_cancelPowerOff (h : operation = .cancelPowerOff) :
    e.Makes operation first e.cancelPowerOff.run := by
  unfold cancelPowerOff
  refine makes_attempt_bind (makes_lift (makes_check _)) fun allowed => ?_
  split
  · exact makes_throw _
  · refine makes_attempt_bind (makes_request .cancelPowerOff h fun _ => rfl) fun _ => ?_
    exact makes_lift (makes_log _)

/-- The first notice is taken, and if there was none the kernel is asked. -/
theorem makes_receive {timeout : Nat} (h : operation = .receive timeout) :
    e.Makes operation first (e.receive timeout).run := by
  unfold receive
  refine makes_attempt_bind
    (makes_lift (makes_of_move .takeNotice ⟨timeout, h⟩ fun _ => rfl)) fun notice => ?_
  cases notice with
  | some notice => exact makes_attempt_pure _
  | none =>
      refine makes_attempt_bind (makes_request (.receive timeout) h fun _ => rfl)
        fun envelope => ?_
      cases envelope with
      | some envelope =>
          exact makes_attempt_bind (makes_lift makes_now) fun _ => makes_attempt_pure _
      | none => exact makes_throw _

theorem makes_clearQueue (h : operation = .clearQueue) :
    e.Makes operation first e.clearQueue.run := by
  unfold clearQueue
  refine makes_attempt_bind
    (makes_lift (makes_of_move .dropNotices h fun _ => rfl)) fun _ => ?_
  exact makes_request .clear h fun _ => rfl

theorem makes_queueLength : e.Makes operation first e.queueLength.run := by
  unfold queueLength
  refine makes_attempt_bind (makes_lift (makes_of_same fun _ => rfl)) fun _ => ?_
  exact makes_attempt_bind (makes_ofKernel _) fun _ => makes_attempt_pure _

theorem makes_peek : e.Makes operation first e.peek.run := by
  unfold peek
  refine makes_attempt_bind (makes_lift (makes_of_same fun _ => rfl)) fun notice => ?_
  cases notice with
  | some notice => exact makes_attempt_pure _
  | none => exact makes_ofKernel _

theorem makes_release {token : Token} (h : operation = .release token) :
    e.Makes operation first (e.release token).run := by
  unfold release
  refine makes_attempt_bind (makes_checkOwner token) fun _ => ?_
  exact makes_attempt_bind (makes_request (.release token) h fun _ => rfl) fun _ =>
    makes_attempt_pure _

theorem makes_renew {token : Token} {seconds : Nat} (h : operation = .renew token seconds) :
    e.Makes operation first (e.renew token seconds).run := by
  unfold renew
  refine makes_attempt_bind (makes_checkOwner token) fun _ => ?_
  refine makes_attempt_bind (makes_checkUsable token) fun _ => ?_
  exact makes_attempt_bind (makes_request (.renew token seconds) h fun _ => rfl) fun _ =>
    makes_attempt_pure _

theorem makes_portSend {token : Token} (h : operation = .portSend token) :
    e.Makes operation first (e.portSend token).run := by
  unfold portSend
  refine makes_attempt_bind (makes_checkOwner token) fun _ => ?_
  refine makes_attempt_bind (makes_checkUsable token) fun _ => ?_
  refine makes_attempt_bind (makes_request (.portSend token) h fun _ => rfl) fun _ => ?_
  exact makes_lift (makes_log _)

/-- What one operation does may be followed by one more send, of another that may send more. -/
theorem opens_sendAgain (once : Operation) {x : Attempt σ α} {f : α → Attempt σ Sequence}
    (honce : once.sendLimit < operation.sendLimit) (hshort : e.Opens once first x.run)
    (hx : e.Opens operation first x.run) {receiver : Pid} {kind : MessageKind}
    {payload : Bytes} {timeout : Nat}
    (hf : ∀ a, f a = e.sendWithTimeout receiver kind payload false timeout) :
    e.Opens operation first (x >>= f).run := by
  intro s hfirst
  refine steps_attempt_bind (hx s hfirst) fun a t hrun => ?_
  have hcourse := hshort s hfirst
  rw [hrun] at hcourse
  have hsent : t.process.nextSequence ≤ first + once.sendLimit :=
    hcourse.within (Nat.le_trans (Nat.le_of_eq hfirst) (Nat.le_add_right _ _))
  rw [hf a]
  apply course_sendWithTimeout
  · exact Nat.lt_of_le_of_lt (Nat.sub_le_iff_le_add'.2 hsent) honce
  · simp

/-- What must go well before the window for saving state opens. -/
def requestSave (e : Endpoint σ) : Attempt σ Sequence := do
  e.protectChildren false
  e.send e.config.powerManagerPid MessageKind.saveWait (Utf8.encode Announcement.saveWait) false

/-- Open the window for saving state. -/
def openWindow (e : Endpoint σ) : Act σ Unit := do
  let now ← e.now
  Act.changeProcess fun p => { p with saveDeadline := some (timeAfter now e.config.saveGrace) }

theorem beginSave_eq (e : Endpoint σ) :
    e.beginSave = e.requestSave >>= fun _ => (do
      e.openWindow
      e.log ("appendix-s: save started grace=" ++ Text.decimal e.config.saveGrace ++ "ms")) :=
  (bind_assoc _ _ _).symm

/-- To begin to save is to protect the children, to send once more, and to open the window if
everything before went well. -/
theorem opens_beginSave (h : operation = .beginSave) :
    e.Opens operation first e.beginSave.run := by
  have hawaits : operation.awaits = true := by
    rw [h]
    rfl
  have hopen : e.Makes operation first e.openWindow :=
    makes_of_move .openWindow h fun _ => rfl
  have hrequest : e.Opens operation first e.requestSave.run :=
    opens_sendAgain (.protectChildren false) (by rw [h]; decide)
      (opens_obtainExemption rfl false _) (opens_obtainExemption hawaits false _) fun _ => rfl
  rw [beginSave_eq]
  exact opens_bind hrequest fun _ => makes_bind hopen fun _ => makes_log _

theorem opens_saveComplete (h : operation = .saveComplete) :
    e.Opens operation first e.saveComplete.run := by
  have hsends : operation.sends = true := by
    rw [h]
    rfl
  unfold saveComplete
  refine opens_bind (opens_sendWithTimeout hsends _ _ _ _ _) fun _ => ?_
  refine makes_attempt_bind
    (makes_lift (makes_of_move .closeWindow h fun _ => rfl)) fun _ => ?_
  exact makes_lift (makes_log _)

theorem opens_perform (operation : Operation) (first : Sequence) :
    e.Opens operation first (e.perform operation) := by
  cases operation with
  | pid | config | handlerCount | remainingTime | isSaving | record =>
      exact (makes_of_same fun _ => rfl).opens
  | validate | check | checkFor => exact (makes_of_same fun _ => rfl).opens
  | queueLength => exact (makes_answering _ makes_queueLength).opens
  | send receiver kind payload wantsFeedback timeout =>
      cases timeout with
      | none => exact opens_answering _ (opens_sendWithTimeout rfl _ _ _ _ _)
      | some timeout => exact opens_answering _ (opens_sendWithTimeout rfl _ _ _ _ _)
  | broadcast kind flags payload => exact (makes_answering _ (makes_broadcast _ _ _)).opens
  | receive timeout => exact (makes_answering _ (makes_receive rfl)).opens
  | peek => exact (makes_answering _ makes_peek).opens
  | clearQueue => exact (makes_answering _ (makes_clearQueue rfl)).opens
  | state sequence =>
      exact (makes_of_move (.query sequence) (Or.inl rfl) fun _ => rfl).opens
  | forget sequence =>
      exact (makes_of_move (.forget sequence) (Or.inl rfl) fun _ => rfl).opens
  | shutdownLedger => exact (makes_of_move .shutdownLedger rfl fun _ => rfl).opens
  | call => exact opens_answering _ (opens_call rfl _ _ _ _)
  | lookup => exact opens_answering _ (opens_lookup rfl _)
  | registerSelf => exact opens_answering _ (opens_register rfl _ _)
  | register => exact opens_answering _ (opens_register rfl _ _)
  | unregister => exact opens_answering _ (opens_unregister rfl _)
  | acquire => exact (makes_bind (makes_acquire rfl) fun _ => makes_pure _).opens
  | release token => exact (makes_answeringToken token (makes_release rfl)).opens
  | renew token seconds => exact (makes_answeringToken token (makes_renew rfl)).opens
  | portSend token => exact (makes_answering _ (makes_portSend rfl)).opens
  | portReceive => exact (makes_answering _ (makes_request .portReceive rfl fun _ => rfl)).opens
  | portClear => exact (makes_answering _ (makes_request .portClear rfl fun _ => rfl)).opens
  | powerOff => exact (makes_answering _ (makes_powerOff rfl)).opens
  | powerState => exact (makes_answering _ (makes_of_same fun _ => rfl)).opens
  | cancelPowerOff => exact (makes_answering _ (makes_cancelPowerOff rfl)).opens
  | registerHandler handler userData =>
      exact (makes_of_move (.registerHandler handler userData) rfl fun _ => rfl).opens
  | unregisterHandler handler =>
      exact (makes_of_move (.unregisterHandler handler) rfl fun _ => rfl).opens
  | protectChildren => exact opens_answering _ (opens_obtainExemption rfl _ _)
  | requestExemption => exact opens_answering _ (opens_obtainExemption rfl _ _)
  | beginSave => exact opens_answering _ (opens_beginSave rfl)
  | saveComplete => exact opens_answering _ (opens_saveComplete rfl)

/-- **Every operation keeps to its course.** -/
theorem course_perform (e : Endpoint σ) (operation : Operation) (s : Session σ) :
    e.Course operation s.process.nextSequence s ((e.perform operation).run s).2 :=
  opens_perform operation s.process.nextSequence s rfl

/-- An operation is a walk of moves that it permits. -/
theorem walk_perform (e : Endpoint σ) (operation : Operation) (s : Session σ) :
    e.Walk (operation.permits s.process.nextSequence) s ((e.perform operation).run s).2 :=
  (e.course_perform operation s).walk

end Endpoint

end Interprocess

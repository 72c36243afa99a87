import Interprocess.Operation
import Interprocess.Proofs.Kernel.Mirror

/-!
# Operations on a kernel that mirrors another one

An operation uses its kernel through requests only, so it does the same on a kernel that mirrors
another one as on that kernel.  This holds of every way to write an operation, but not of every
function on sessions; so it is shown for each part of the operations, from rules for how parts are
put together.

**Input.**  A kernel `K'` that mirrors the kernel of an endpoint, seen through `plain`.

**Result.**
* `follows_perform`: every operation follows.
-/

namespace Interprocess

variable {σ τ α β : Type}

/-- A session whose kernel is seen through `plain`. -/
def Session.through (plain : τ → σ) (s : Session τ) : Session σ :=
  { kernel := plain s.kernel, process := s.process }

/-- Whether an act does what another one does, seen through `plain`. -/
def Act.Follows (plain : τ → σ) (x' : Act τ α) (x : Act σ α) : Prop :=
  ∀ s, x.run (s.through plain) = ((x'.run s).1, (x'.run s).2.through plain)

/-- Whether an attempt does what another one does, seen through `plain`. -/
def Attempt.Follows (plain : τ → σ) (x' : Attempt τ α) (x : Attempt σ α) : Prop :=
  Act.Follows plain x'.run x.run

variable {plain : τ → σ}

namespace Act

theorem Follows.bind {x' : Act τ α} {x : Act σ α} {f' : α → Act τ β}
    {f : α → Act σ β} (hx : Follows plain x' x) (hf : ∀ a, Follows plain (f' a) (f a)) :
    Follows plain (x' >>= f') (x >>= f) := by
  intro s
  rw [run_bind, hx s, run_bind]
  exact hf _ _

theorem follows_pure (a : α) : Follows plain (pure a) (pure a : Act σ α) := fun _ => rfl

theorem follows_ofProcess (f : Process → α) :
    Follows plain (ofProcess f) (ofProcess f : Act σ α) := fun _ => rfl

theorem follows_onProcess (f : Process → α × Process) :
    Follows plain (onProcess f) (onProcess f : Act σ α) := fun _ => rfl

theorem follows_changeProcess (f : Process → Process) :
    Follows plain (changeProcess f) (changeProcess f : Act σ Unit) := fun _ => rfl

theorem follows_forM {act' : α → Act τ Unit} {act : α → Act σ Unit}
    (h : ∀ a, Follows plain (act' a) (act a)) (items : List α) :
    Follows plain (items.forM act') (items.forM act) := by
  induction items with
  | nil => exact follows_pure ()
  | cons item rest ih => exact (h item).bind fun _ => ih

theorem follows_mark (tracked : Bool) (sequence : Sequence) (next : DeliveryState) :
    Follows plain (mark tracked sequence next) (mark tracked sequence next : Act σ Unit) := by
  cases tracked <;> exact fun _ => rfl

/-- A request to the kernel follows if the kernel does. -/
theorem follows_onKernel {f' : τ → α × τ} {f : σ → α × σ} (h : Kernel.Passes plain f' f) :
    Follows plain (onKernel f') (onKernel f) := by
  intro s
  rw [run_onKernel, run_onKernel, Session.through, h s.kernel]
  rfl

theorem follows_ofKernel {f' : τ → α} {f : σ → α} (h : ∀ k, f' k = f (plain k)) :
    Follows plain (ofKernel f') (ofKernel f) := by
  intro s
  exact congrArg (fun a => (a, s.through plain)) (h s.kernel).symm

theorem follows_drop (sequence : Sequence) :
    Follows plain (drop sequence) (drop sequence : Act σ Unit) := fun _ => rfl

end Act

namespace Attempt

theorem Follows.bind {x' : Attempt τ α} {x : Attempt σ α}
    {f' : α → Attempt τ β} {f : α → Attempt σ β} (hx : Follows plain x' x)
    (hf : ∀ a, Follows plain (f' a) (f a)) :
    Follows plain (x' >>= f') (x >>= f) := by
  intro s
  rw [run_bind, run_bind, hx s]
  rcases x'.run.run s with ⟨result, t⟩
  cases result with
  | ok a => exact hf a t
  | error error => rfl

theorem follows_lift {x' : Act τ α} {x : Act σ α} (h : Act.Follows plain x' x) :
    Follows plain (liftM x') (liftM x : Attempt σ α) := by
  intro s
  rw [run_lift, run_lift, h s]

theorem follows_pure (a : α) : Follows plain (pure a) (pure a : Attempt σ α) := fun _ => rfl

theorem follows_throw (error : Error) :
    Follows plain (throw error) (throw error : Attempt σ α) := fun _ => rfl

theorem follows_ofExcept (result : Except Error α) :
    Follows plain (ofExcept result) (ofExcept result : Attempt σ α) := fun _ => rfl

theorem follows_ofResult {ε : Type} {error : ε → Error} {act' : Act τ (Except ε α)}
    {act : Act σ (Except ε α)} (h : Act.Follows plain act' act) :
    Follows plain (ofResult error act') (ofResult error act) :=
  Act.Follows.bind h fun _ => Act.follows_pure _

theorem follows_onKernel {f' : τ → Except KernelFault α × τ} {f : σ → Except KernelFault α × σ}
    (h : Kernel.Passes plain f' f) :
    Follows plain (onKernel f') (onKernel f) :=
  follows_ofResult (Act.follows_onKernel h)

theorem follows_ofKernel {f' : τ → Except KernelFault α} {f : σ → Except KernelFault α}
    (h : ∀ k, f' k = f (plain k)) :
    Follows plain (ofKernel f') (ofKernel f) :=
  follows_ofResult (Act.follows_ofKernel h)

end Attempt

namespace Endpoint

/-- An endpoint of the same process with another kernel. -/
def withKernel (K' : Kernel τ) (e : Endpoint σ) : Endpoint τ :=
  { kernel := { K' with pid := e.pid }, config := e.config }

theorem pid_withKernel (K' : Kernel τ) (e : Endpoint σ) : (e.withKernel K').pid = e.pid := rfl

section Parts

open Act Attempt

variable {e : Endpoint σ} {K' : Kernel τ} (h : K'.Mirrors plain e.kernel)
include h

/-! ## Tracking and sending -/

theorem follows_now : Act.Follows plain (e.withKernel K').now e.now := follows_ofKernel h.now

theorem follows_log (line : String) : Act.Follows plain ((e.withKernel K').log line) (e.log line) :=
  Act.follows_onKernel fun k => congrArg (Prod.mk ()) (h.log _ k).symm

theorem follows_sleep (ms : Nat) : Act.Follows plain ((e.withKernel K').sleep ms) (e.sleep ms) :=
  Act.follows_onKernel fun k => congrArg (Prod.mk ()) (h.sleep ms k).symm

theorem follows_state (sequence : Sequence) :
    Act.Follows plain ((e.withKernel K').state sequence) (e.state sequence) := by
  unfold state
  refine (Act.follows_onKernel (h.reports sequence)).bind fun reports => ?_
  refine (follows_now h).bind fun now => (follows_onProcess _).bind fun review => ?_
  refine (follows_forM (fun _ => follows_log h _) _).bind fun _ => ?_
  exact (follows_forM (fun _ => follows_log h _) _).bind fun _ => Act.follows_pure _

theorem follows_enroll (receiver : Pid) (kind : MessageKind) (now timeout : Nat) :
    Act.Follows plain ((e.withKernel K').enroll receiver kind now timeout)
      (e.enroll receiver kind now timeout) := by
  unfold enroll
  refine (follows_onProcess _).bind fun enrolled => ?_
  rcases enrolled with ⟨sequence, tracked⟩
  cases tracked with
  | true => exact Act.follows_pure _
  | false => exact (follows_log h _).bind fun _ => Act.follows_pure _

theorem follows_refuse (envelope : Envelope) (wantsFeedback tracked : Bool)
    (fault : SendFault) :
    Act.Follows plain ((e.withKernel K').refuse envelope wantsFeedback tracked fault)
      (e.refuse envelope wantsFeedback tracked fault) := by
  unfold refuse
  refine (follows_now h).bind fun now => (follows_mark _ _ _).bind fun _ => ?_
  cases wantsFeedback with
  | true => exact (follows_onProcess _).bind fun _ => follows_log h _
  | false => exact (Act.follows_pure _).bind fun _ => follows_log h _

theorem follows_post (receiver : Pid) (kind : MessageKind) (payload : Bytes)
    (wantsFeedback : Bool) (timeout : Nat) :
    Attempt.Follows plain ((e.withKernel K').post receiver kind payload wantsFeedback timeout)
      (e.post receiver kind payload wantsFeedback timeout) := by
  have hsubmit : ∀ envelope sequence,
      Act.Follows plain ((e.withKernel K').submit envelope wantsFeedback sequence)
        (e.submit envelope wantsFeedback sequence) :=
    fun _ _ => Act.follows_onKernel (h.send _ _ _)
  unfold post
  refine (follows_lift (follows_now h)).bind fun now => ?_
  refine (follows_lift (follows_enroll h _ _ _ _)).bind fun enrolled => ?_
  refine (follows_lift (hsubmit _ _)).bind fun answer => ?_
  cases answer with
  | ok _ => exact (follows_lift (follows_mark _ _ _)).bind fun _ => Attempt.follows_pure _
  | error fault => exact (follows_lift (follows_refuse h _ _ _ _)).bind fun _ => follows_throw _

theorem follows_sendWithTimeout (receiver : Pid) (kind : MessageKind) (payload : Bytes)
    (wantsFeedback : Bool) (timeout : Nat) :
    Attempt.Follows plain
      ((e.withKernel K').sendWithTimeout receiver kind payload wantsFeedback timeout)
      (e.sendWithTimeout receiver kind payload wantsFeedback timeout) := by
  unfold sendWithTimeout
  split
  · exact (follows_lift (follows_log h _)).bind fun _ => follows_throw _
  · split
    · exact follows_throw _
    · exact follows_post h _ _ _ _ _

theorem follows_broadcast (kind : MessageKind) (flags : UInt32) (payload : Bytes) :
    Attempt.Follows plain ((e.withKernel K').broadcast kind flags payload)
      (e.broadcast kind flags payload) := by
  unfold broadcast
  split
  · exact follows_throw _
  · refine (follows_lift (follows_now h)).bind fun now => ?_
    exact follows_ofResult (Act.follows_onKernel (h.broadcast _))

/-- A broadcast whose failure is only logged. -/
theorem follows_announcement {kind : MessageKind} {flags : UInt32} {payload : Bytes}
    {failed' : Error → Act τ Unit} {failed : Error → Act σ Unit}
    (hfailed : ∀ error, Act.Follows plain (failed' error) (failed error)) :
    Act.Follows plain
      (do
        match ← ((e.withKernel K').broadcast kind flags payload).run with
        | .ok () => pure ()
        | .error error => failed' error)
      (do
        match ← (e.broadcast kind flags payload).run with
        | .ok () => pure ()
        | .error error => failed error) := by
  refine Act.Follows.bind (follows_broadcast h kind flags payload) fun result => ?_
  cases result with
  | ok _ => exact Act.follows_pure ()
  | error error => exact hfailed error

/-! ## Receiving and calling -/

theorem follows_receive (timeout : Nat) :
    Attempt.Follows plain ((e.withKernel K').receive timeout) (e.receive timeout) := by
  unfold receive
  refine (follows_lift (follows_onProcess _)).bind fun notice => ?_
  cases notice with
  | some notice => exact Attempt.follows_pure _
  | none =>
      refine (Attempt.follows_onKernel (h.receive timeout)).bind fun envelope => ?_
      cases envelope with
      | some envelope =>
          exact (follows_lift (follows_now h)).bind fun _ => Attempt.follows_pure _
      | none => exact follows_throw _

theorem follows_queueLength :
    Attempt.Follows plain (e.withKernel K').queueLength e.queueLength := by
  unfold queueLength
  refine (follows_lift (follows_ofProcess _)).bind fun here => ?_
  exact (Attempt.follows_ofKernel h.pending).bind fun _ => Attempt.follows_pure _

theorem follows_peek : Attempt.Follows plain (e.withKernel K').peek e.peek := by
  unfold peek
  refine (follows_lift (follows_ofProcess _)).bind fun notice => ?_
  cases notice with
  | some notice => exact Attempt.follows_pure _
  | none => exact Attempt.follows_ofKernel h.peek

theorem follows_awaitResponse (sequence : Sequence) (call : String) (timeout polls : Nat) :
    Attempt.Follows plain ((e.withKernel K').awaitResponse sequence call timeout polls)
      (e.awaitResponse sequence call timeout polls) := by
  induction polls with
  | zero =>
      unfold awaitResponse
      refine (follows_lift (follows_drop _)).bind fun _ => ?_
      exact (follows_lift (follows_log h _)).bind fun _ => follows_throw _
  | succ polls ih =>
      unfold awaitResponse
      refine (follows_lift (follows_state h _)).bind fun state => ?_
      cases state.callOutcome with
      | answered => exact fun _ => rfl
      | unreported => exact (follows_lift (follows_drop _)).bind fun _ => Attempt.follows_pure _
      | failed error =>
          refine (follows_lift (follows_drop _)).bind fun _ => ?_
          exact (follows_lift (follows_log h _)).bind fun _ => follows_throw _
      | undecided => exact (follows_lift (follows_sleep h _)).bind fun _ => ih

theorem follows_call (destination : Pid) (kind : MessageKind) (request : Bytes)
    (timeout : Nat) :
    Attempt.Follows plain ((e.withKernel K').call destination kind request timeout)
      (e.call destination kind request timeout) :=
  (follows_sendWithTimeout h _ _ _ _ _).bind fun _ => follows_awaitResponse h _ _ _ _

/-! ## Names -/

omit h in
theorem follows_checkName (name : String) :
    Attempt.Follows plain (checkName name) (checkName name : Attempt σ Unit) := by
  unfold checkName
  split
  · exact Attempt.follows_pure ()
  · exact follows_throw _

theorem follows_announceService (text : String) :
    Act.Follows plain ((e.withKernel K').announceService text) (e.announceService text) :=
  follows_announcement h fun _ => follows_log h _

theorem follows_lookup (name : String) :
    Attempt.Follows plain ((e.withKernel K').lookup name) (e.lookup name) := by
  unfold lookup
  refine (follows_checkName name).bind fun _ => (follows_call h _ _ _ _).bind fun bytes => ?_
  split
  · exact (follows_lift (follows_log h _)).bind fun _ => follows_throw _
  · exact follows_ofExcept _

theorem follows_register (name : String) (pid : Pid) :
    Attempt.Follows plain ((e.withKernel K').register name pid) (e.register name pid) := by
  unfold register
  refine (follows_checkName name).bind fun _ => (follows_call h _ _ _ _).bind fun bytes => ?_
  refine (follows_ofExcept _).bind fun _ => (follows_lift (follows_log h _)).bind fun _ => ?_
  exact follows_lift (follows_announceService h _)

theorem follows_unregister (name : String) :
    Attempt.Follows plain ((e.withKernel K').unregister name) (e.unregister name) := by
  unfold unregister
  refine (follows_checkName name).bind fun _ => (follows_call h _ _ _ _).bind fun bytes => ?_
  exact (follows_ofExcept _).bind fun _ => follows_lift (follows_announceService h _)

/-! ## Tokens -/

theorem follows_acquire (capabilities : UInt32) (description : String) (seconds : Nat) :
    Act.Follows plain ((e.withKernel K').acquire capabilities description seconds)
      (e.acquire capabilities description seconds) := by
  unfold acquire
  refine (Act.follows_onKernel (h.acquire _ _ _)).bind fun token => ?_
  cases token with
  | none => exact (follows_log h _).bind fun _ => Act.follows_pure _
  | some token =>
      by_cases howner : token.owner ≠ e.pid
      · have howner' : token.owner ≠ (e.withKernel K').pid := howner
        simp only [if_pos howner, if_pos howner']
        exact (follows_log h _).bind fun _ => Act.follows_pure _
      · have howner' : ¬ token.owner ≠ (e.withKernel K').pid := howner
        simp only [if_neg howner, if_neg howner']
        exact Act.follows_pure _

omit h in
theorem follows_checkOwner (token : Token) :
    Attempt.Follows plain ((e.withKernel K').checkOwner token) (e.checkOwner token) := by
  unfold checkOwner
  rw [pid_withKernel]
  split
  · exact Attempt.follows_pure ()
  · exact follows_throw _

theorem follows_wallclock : Act.Follows plain (e.withKernel K').wallclock e.wallclock :=
  follows_ofKernel h.wallclock

theorem follows_checkUsable (token : Token) :
    Attempt.Follows plain ((e.withKernel K').checkUsable token) (e.checkUsable token) := by
  unfold checkUsable
  split
  · exact follows_throw _
  · refine (follows_lift (follows_wallclock h)).bind fun now => ?_
    split
    · exact follows_throw _
    · exact Attempt.follows_pure ()

theorem follows_release (token : Token) :
    Attempt.Follows plain ((e.withKernel K').release token) (e.release token) := by
  unfold release
  refine (follows_checkOwner token).bind fun _ => ?_
  exact (Attempt.follows_onKernel (h.release token)).bind fun _ => Attempt.follows_pure _

theorem follows_renew (token : Token) (seconds : Nat) :
    Attempt.Follows plain ((e.withKernel K').renew token seconds) (e.renew token seconds) := by
  unfold renew
  refine (follows_checkOwner token).bind fun _ => (follows_checkUsable h token).bind fun _ => ?_
  exact (Attempt.follows_onKernel (h.renew _ _)).bind fun _ => Attempt.follows_pure _

theorem follows_portSend (token : Token) :
    Attempt.Follows plain ((e.withKernel K').portSend token) (e.portSend token) := by
  unfold portSend
  refine (follows_checkOwner token).bind fun _ => (follows_checkUsable h token).bind fun _ => ?_
  exact (Attempt.follows_onKernel (h.portSend token)).bind fun _ => follows_lift (follows_log h _)

/-! ## Power and exemption -/

theorem follows_validate (token : Token) (required : UInt32) :
    Act.Follows plain ((e.withKernel K').validate token required) (e.validate token required) := by
  unfold validate
  exact (follows_wallclock h).bind fun _ => Act.follows_pure _

theorem follows_checkFor (required : UInt32) (pid : Pid) :
    Act.Follows plain ((e.withKernel K').checkFor required pid) (e.checkFor required pid) := by
  unfold checkFor
  refine (follows_wallclock h).bind fun now => ?_
  exact (follows_ofKernel (h.grantsOf pid)).bind fun _ => Act.follows_pure _

theorem follows_check (required : UInt32) :
    Act.Follows plain ((e.withKernel K').check required) (e.check required) :=
  follows_checkFor h required e.pid

theorem follows_logUnlessQuiet (flags : UInt32) (line : String) :
    Act.Follows plain ((e.withKernel K').logUnlessQuiet flags line)
      (e.logUnlessQuiet flags line) := by
  unfold logUnlessQuiet
  split
  · exact Act.follows_pure ()
  · exact follows_log h line

theorem follows_powerOff (kind : PowerKind) (reason : ShutdownReason) (flags : UInt32)
    (message : String) :
    Attempt.Follows plain ((e.withKernel K').powerOff kind reason flags message)
      (e.powerOff kind reason flags message) := by
  unfold powerOff
  refine (follows_lift (follows_check h _)).bind fun allowed => ?_
  cases allowed with
  | false =>
      exact (follows_lift (follows_logUnlessQuiet h _ _)).bind fun _ => follows_throw _
  | true =>
      have hask : Attempt.Follows plain
          (do
            (e.withKernel K').logUnlessQuiet flags (kind.verb ++ ": reason=" ++ reason.name ++
              " flags=0x" ++ Text.hex flags.toNat ++ " message=" ++ kind.announcedMessage message)
            Attempt.onKernel (K'.powerOff kind reason.number flags
              (kind.announcedMessage message)) : Attempt τ Unit)
          (do
            e.logUnlessQuiet flags (kind.verb ++ ": reason=" ++ reason.name ++
              " flags=0x" ++ Text.hex flags.toNat ++ " message=" ++ kind.announcedMessage message)
            Attempt.onKernel (e.kernel.powerOff kind reason.number flags
              (kind.announcedMessage message))) :=
        (follows_lift (follows_logUnlessQuiet h _ _)).bind fun _ =>
          Attempt.follows_onKernel (h.powerOff _ _ _ _)
      simp only [Bool.not_true, Bool.false_eq_true, if_false]
      split
      · refine Attempt.Follows.bind ?_ fun _ => hask
        exact follows_lift (follows_announcement h fun _ => follows_logUnlessQuiet h _ _)
      · exact hask

theorem follows_cancelPowerOff :
    Attempt.Follows plain (e.withKernel K').cancelPowerOff e.cancelPowerOff := by
  unfold cancelPowerOff
  refine (follows_lift (follows_check h _)).bind fun allowed => ?_
  split
  · exact follows_throw _
  · exact (Attempt.follows_onKernel h.cancelPowerOff).bind fun _ => follows_lift (follows_log h _)

theorem follows_awaitExemption (sequence : Sequence) (emergencyOk : Bool) (polls left : Nat) :
    Attempt.Follows plain ((e.withKernel K').awaitExemption sequence emergencyOk polls left)
      (e.awaitExemption sequence emergencyOk polls left) := by
  induction left with
  | zero =>
      unfold awaitExemption
      refine (follows_lift (follows_drop _)).bind fun _ => ?_
      exact (follows_lift (follows_log h _)).bind fun _ => follows_throw _
  | succ left ih =>
      unfold awaitExemption
      refine (follows_lift (follows_state h _)).bind fun state => ?_
      cases state.exemptionOutcome with
      | granted =>
          exact (follows_lift (follows_drop _)).bind fun _ => follows_lift (follows_log h _)
      | refused error =>
          refine (follows_lift (follows_drop _)).bind fun _ => ?_
          exact (follows_lift (follows_log h _)).bind fun _ => follows_throw _
      | undecided => exact (follows_lift (follows_sleep h _)).bind fun _ => ih

theorem follows_obtainExemption (emergencyOk : Bool) (polls : Nat) :
    Attempt.Follows plain ((e.withKernel K').obtainExemption emergencyOk polls)
      (e.obtainExemption emergencyOk polls) := by
  unfold obtainExemption
  refine (Attempt.follows_onKernel (h.protectChildren emergencyOk)).bind fun _ => ?_
  refine (follows_sendWithTimeout h _ _ _ _ _).bind fun sequence => ?_
  refine Attempt.Follows.bind ?_ fun _ => follows_awaitExemption h _ _ _ _
  exact follows_lift (follows_announcement h fun _ => follows_log h _)

theorem follows_beginSave : Attempt.Follows plain (e.withKernel K').beginSave e.beginSave := by
  unfold beginSave
  refine (follows_obtainExemption h _ _).bind fun _ => ?_
  refine (follows_sendWithTimeout h _ _ _ _ _).bind fun _ => ?_
  refine (follows_lift (follows_now h)).bind fun now => ?_
  exact (follows_lift (follows_changeProcess _)).bind fun _ => follows_lift (follows_log h _)

theorem follows_saveComplete :
    Attempt.Follows plain (e.withKernel K').saveComplete e.saveComplete := by
  unfold saveComplete
  refine (follows_sendWithTimeout h _ _ _ _ _).bind fun _ => ?_
  exact (follows_lift (follows_changeProcess _)).bind fun _ => follows_lift (follows_log h _)

theorem follows_remainingTime :
    Act.Follows plain (e.withKernel K').remainingTime e.remainingTime := by
  unfold remainingTime
  refine (follows_now h).bind fun now => (follows_ofProcess _).bind fun deadline => ?_
  exact Act.follows_pure _

/-! ## Whole operations -/

omit h in
theorem follows_answering (f : α → Value) {attempt' : Attempt τ α}
    {attempt : Attempt σ α} (hattempt : Attempt.Follows plain attempt' attempt) :
    Act.Follows plain (answering f attempt') (answering f attempt) :=
  Act.Follows.bind hattempt fun _ => Act.follows_pure _

omit h in
theorem follows_answeringToken (token : Token) {attempt' : Attempt τ Token}
    {attempt : Attempt σ Token} (hattempt : Attempt.Follows plain attempt' attempt) :
    Act.Follows plain (answeringToken token attempt') (answeringToken token attempt) := by
  refine Act.Follows.bind hattempt fun result => ?_
  cases result with
  | ok changed => exact Act.follows_pure _
  | error error => exact Act.follows_pure _

/-- **Every operation does the same on a kernel that mirrors another one as on that kernel.** -/
theorem follows_perform (operation : Operation) :
    Act.Follows plain ((e.withKernel K').perform operation) (e.perform operation) := by
  cases operation with
  | pid | config | handlerCount | isSaving | record => exact fun _ => rfl
  | remainingTime => exact (follows_remainingTime h).bind fun _ => Act.follows_pure _
  | validate => exact (follows_validate h _ _).bind fun _ => Act.follows_pure _
  | check => exact (follows_check h _).bind fun _ => Act.follows_pure _
  | checkFor => exact (follows_checkFor h _ _).bind fun _ => Act.follows_pure _
  | forget | shutdownLedger | registerHandler | unregisterHandler => exact fun _ => rfl
  | queueLength => exact follows_answering _ (follows_queueLength h)
  | portReceive => exact follows_answering _ (Attempt.follows_onKernel h.portReceive)
  | portClear => exact follows_answering _ (Attempt.follows_onKernel h.portClear)
  | powerState => exact follows_answering _ (Attempt.follows_ofKernel h.powerState)
  | clearQueue =>
      refine follows_answering _ ((follows_lift (follows_changeProcess _)).bind fun _ => ?_)
      exact Attempt.follows_onKernel h.clear
  | send receiver kind payload wantsFeedback timeout =>
      cases timeout with
      | none => exact follows_answering _ (follows_sendWithTimeout h _ _ _ _ _)
      | some timeout => exact follows_answering _ (follows_sendWithTimeout h _ _ _ _ _)
  | broadcast => exact follows_answering _ (follows_broadcast h _ _ _)
  | receive => exact follows_answering _ (follows_receive h _)
  | peek => exact follows_answering _ (follows_peek h)
  | state sequence => exact (follows_state h sequence).bind fun _ => Act.follows_pure _
  | call => exact follows_answering _ (follows_call h _ _ _ _)
  | lookup => exact follows_answering _ (follows_lookup h _)
  | registerSelf => exact follows_answering _ (follows_register h _ _)
  | register => exact follows_answering _ (follows_register h _ _)
  | unregister => exact follows_answering _ (follows_unregister h _)
  | acquire => exact (follows_acquire h _ _ _).bind fun _ => Act.follows_pure _
  | release token => exact follows_answeringToken token (follows_release h token)
  | renew token seconds => exact follows_answeringToken token (follows_renew h token seconds)
  | portSend => exact follows_answering _ (follows_portSend h _)
  | powerOff => exact follows_answering _ (follows_powerOff h _ _ _ _)
  | cancelPowerOff => exact follows_answering _ (follows_cancelPowerOff h)
  | protectChildren => exact follows_answering _ (follows_obtainExemption h _ _)
  | requestExemption => exact follows_answering _ (follows_obtainExemption h _ _)
  | beginSave => exact follows_answering _ (follows_beginSave h)
  | saveComplete => exact follows_answering _ (follows_saveComplete h)

end Parts

end Endpoint

end Interprocess

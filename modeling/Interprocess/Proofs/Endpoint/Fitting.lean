import Interprocess.Proofs.Endpoint.Posting
import Interprocess.Proofs.Naming.AnyPeer
import Interprocess.Proofs.Power.Announcement

/-!
# Attempts that hand over certain payloads

A send fails on the spot if its payload is too long, and an announcement is then dropped with a line
in the log.  Neither happens to an attempt that hands over short payloads only.  As an attempt is
put together from parts, this is shown by rules for how parts are put together.

**Input.**  Any endpoint with a journal, and a list of payloads, none of which is too long.

**Fitting.**  An attempt `Fits` the list if it hands over no payload but those, and never fails
because one is too long.

**Results.**
* `Attempt.Fits.bind`: a sequence fits if its parts do.
* `Endpoint.fits_sendWithTimeout`, `Endpoint.handsOnly_announcement`: a send and an announcement fit
  if their payload is in the list.
* `Endpoint.fits_call`: so does a call.
-/

namespace Interprocess

/-- Whether an error tells that a payload is too long. -/
def Error.isOverflow : Error → Bool
  | bufferOverflow _ _ => true
  | _ => false

theorem Error.isOverflow_ofSendFault (fault : SendFault) :
    (ofSendFault fault).isOverflow = false := by
  cases fault <;> rfl

theorem Error.isOverflow_ofKernelFault (fault : KernelFault) :
    (ofKernelFault fault).isOverflow = false := by
  cases fault <;> rfl

/-- The payload that a transfer hands over. -/
def Transfer.payload? : Transfer → Option Bytes
  | send submission _ _ => some submission.envelope.payload
  | broadcast envelope _ => some envelope.payload
  | _ => none

variable {σ α β : Type} {payloads : List Bytes}

/-- Whether no payloads but these are handed over. -/
def Transfer.AllAmong (payloads : List Bytes) (handed : List Transfer) : Prop :=
  ∀ transfer ∈ handed, ∀ payload, transfer.payload? = some payload → payload ∈ payloads

/-! ## Rules -/

namespace Act

/-- Whether an act hands over no payloads but these. -/
def HandsOnly (payloads : List Bytes) (x : Act (Journaled Transfer σ) α) : Prop :=
  ∀ s, ∃ handed, (x.run s).2.kernel.journal = s.kernel.journal ++ handed ∧
    Transfer.AllAmong payloads handed

/-- An act that leaves the journal hands nothing over. -/
theorem handsOnly_of_journal_eq {x : Act (Journaled Transfer σ) α}
    (h : ∀ s, (x.run s).2.kernel.journal = s.kernel.journal) :
    HandsOnly payloads x :=
  fun s => ⟨[], (h s).trans (List.append_nil _).symm, fun _ hmem => nomatch hmem⟩

/-- An act may hand over one payload. -/
theorem handsOnly_of_append {x : Act (Journaled Transfer σ) α} {payload : Bytes}
    (hmem : payload ∈ payloads)
    (h : ∀ s, ∃ transfer, (x.run s).2.kernel.journal = s.kernel.journal ++ [transfer] ∧
      transfer.payload? = some payload) :
    HandsOnly payloads x := by
  intro s
  obtain ⟨transfer, hjournal, hpayload⟩ := h s
  refine ⟨[transfer], hjournal, fun other hother found hfound => ?_⟩
  rw [List.mem_singleton.1 hother, hpayload] at hfound
  exact Option.some.inj hfound ▸ hmem

theorem handsOnly_pure (a : α) : HandsOnly payloads (pure a : Act (Journaled Transfer σ) α) :=
  handsOnly_of_journal_eq fun _ => rfl

theorem HandsOnly.bind {x : Act (Journaled Transfer σ) α} {f : α → Act (Journaled Transfer σ) β}
    (hx : HandsOnly payloads x) (hf : ∀ a, HandsOnly payloads (f a)) :
    HandsOnly payloads (x >>= f) := by
  intro s
  obtain ⟨first, hfirst, hamong⟩ := hx s
  obtain ⟨rest, hrest, hlater⟩ := hf (x.run s).1 (x.run s).2
  refine ⟨first ++ rest, ?_, fun transfer hmem => ?_⟩
  · rw [run_bind, hrest, hfirst, List.append_assoc]
  · exact (List.mem_append.1 hmem).elim (hamong transfer) (hlater transfer)

/-- Who hands over no payload broadcasts nothing. -/
theorem HandsOnly.broadcasts_eq {x : Act (Journaled Transfer σ) α} (h : HandsOnly [] x)
    (s : Session (Journaled Transfer σ)) :
    (x.run s).2.kernel.broadcasts = s.kernel.broadcasts := by
  obtain ⟨handed, hjournal, hamong⟩ := h s
  have hnone : handed.filterMap Transfer.broadcast? = [] := by
    refine List.filterMap_eq_nil_iff.2 fun transfer hmem => ?_
    cases transfer with
    | broadcast envelope => exact absurd (hamong _ hmem _ rfl) List.not_mem_nil
    | _ => rfl
  rw [Journaled.broadcasts, hjournal, List.filterMap_append, hnone, List.append_nil]
  rfl

end Act

namespace Attempt

/-- Whether an attempt hands over no payloads but these, and does not fail because one of them is
too long. -/
structure Fits (payloads : List Bytes) (x : Attempt (Journaled Transfer σ) α) : Prop where
  hands : Act.HandsOnly payloads x.run
  error : ∀ s error, (x.run.run s).1 = .error error → error.isOverflow = false

theorem fits_pure (a : α) : Fits payloads (pure a : Attempt (Journaled Transfer σ) α) :=
  ⟨Act.handsOnly_pure _, nofun⟩

theorem fits_ofExcept {result : Except Error α}
    (h : ∀ error, result = .error error → error.isOverflow = false) :
    Fits payloads (ofExcept result : Attempt (Journaled Transfer σ) α) :=
  ⟨Act.handsOnly_pure _, fun _ => h⟩

theorem fits_throw {error : Error} (h : error.isOverflow = false) :
    Fits payloads (throw error : Attempt (Journaled Transfer σ) α) :=
  ⟨Act.handsOnly_pure _, fun _ _ hthrown => Except.error.inj hthrown ▸ h⟩

theorem fits_lift {x : Act (Journaled Transfer σ) α} (h : Act.HandsOnly payloads x) :
    Fits payloads (liftM x : Attempt (Journaled Transfer σ) α) :=
  ⟨h, nofun⟩

theorem Fits.bind {x : Attempt (Journaled Transfer σ) α} {f : α → Attempt (Journaled Transfer σ) β}
    (hx : Fits payloads x) (hf : ∀ a, Fits payloads (f a)) :
    Fits payloads (x >>= f) where
  hands := by
    -- What follows a failure is to report it.
    have hrest : ∀ result, Act.HandsOnly payloads (ExceptT.bindCont f result) := by
      intro result
      cases result with
      | ok a => exact (hf a).hands
      | error error => exact Act.handsOnly_pure _
    exact Act.HandsOnly.bind hx.hands hrest
  error := by
    intro s error herror
    rcases hrun : x.run.run s with ⟨failure | a, t⟩
    · rw [run_bind_of_error hrun] at herror
      obtain rfl := Except.error.inj herror
      exact hx.error s failure (congrArg Prod.fst hrun)
    · rw [run_bind_of_ok hrun] at herror
      exact (hf a).error t error herror

/-- A request that the kernel may refuse fits if it is not entered in the journal. -/
theorem fits_onKernel (f : σ → Except KernelFault α × σ) :
    Fits payloads (onKernel (Journaled.pass f)) where
  hands := Act.handsOnly_of_journal_eq fun _ => rfl
  error := by
    intro s error herror
    rw [run_onKernel] at herror
    revert herror
    rcases (Journaled.pass f s.kernel).1 with fault | a
    · exact fun herror => Except.error.inj herror ▸ Error.isOverflow_ofKernelFault fault
    · exact nofun

end Attempt

namespace Endpoint

open Act Attempt

variable {e : Endpoint σ}

/-! ## Looking and waiting -/

theorem handsOnly_log (line : String) : HandsOnly payloads (e.journaled.log line) :=
  handsOnly_of_journal_eq fun _ => rfl

theorem handsOnly_sleep (ms : Nat) : HandsOnly payloads (e.journaled.sleep ms) :=
  handsOnly_of_journal_eq fun _ => rfl

theorem handsOnly_drop (sequence : Sequence) :
    HandsOnly payloads (drop sequence : Act (Journaled Transfer σ) Unit) :=
  handsOnly_of_journal_eq fun _ => rfl

theorem handsOnly_state (sequence : Sequence) :
    HandsOnly payloads (e.journaled.state sequence) := by
  refine handsOnly_of_journal_eq fun s => ?_
  rw [run_state, show e.journaled.kernel = e.kernel.journaled from rfl]
  simp only [logAll_journaled]
  rfl

theorem handsOnly_logUnlessQuiet (flags : UInt32) (line : String) :
    HandsOnly payloads (e.journaled.logUnlessQuiet flags line) := by
  unfold logUnlessQuiet
  split
  · exact handsOnly_pure ()
  · exact handsOnly_log line

/-- A wait that is given up hands nothing over. -/
theorem fits_giveUp (sequence : Sequence) (line : String) {error : Error}
    (h : error.isOverflow = false) :
    Fits payloads (do
      (drop sequence : Act (Journaled Transfer σ) Unit)
      e.journaled.log line
      throw error : Attempt (Journaled Transfer σ) α) :=
  (fits_lift (handsOnly_drop sequence)).bind fun _ =>
    (fits_lift (handsOnly_log line)).bind fun _ => fits_throw h

theorem fits_awaitResponse (sequence : Sequence) (call : String) (timeout polls : Nat) :
    Fits payloads (e.journaled.awaitResponse sequence call timeout polls) := by
  induction polls with
  | zero =>
      unfold awaitResponse
      exact fits_giveUp sequence _ rfl
  | succ polls ih =>
      unfold awaitResponse
      refine (fits_lift (handsOnly_state sequence)).bind fun state => ?_
      cases houtcome : state.callOutcome with
      | answered => exact fits_lift (handsOnly_of_journal_eq fun _ => rfl)
      | unreported =>
          exact (fits_lift (handsOnly_drop sequence)).bind fun _ => fits_pure []
      | failed error =>
          refine fits_giveUp sequence _ ?_
          cases state <;> cases houtcome <;> rfl
      | undecided => exact (fits_lift (handsOnly_sleep _)).bind fun _ => ih

theorem fits_awaitExemption (sequence : Sequence) (emergencyOk : Bool) (polls left : Nat) :
    Fits payloads (e.journaled.awaitExemption sequence emergencyOk polls left) := by
  induction left with
  | zero =>
      unfold awaitExemption
      exact fits_giveUp sequence _ rfl
  | succ left ih =>
      unfold awaitExemption
      refine (fits_lift (handsOnly_state sequence)).bind fun state => ?_
      cases houtcome : state.exemptionOutcome with
      | granted =>
          exact (fits_lift (handsOnly_drop sequence)).bind fun _ => fits_lift (handsOnly_log _)
      | refused error =>
          refine fits_giveUp sequence _ ?_
          cases state <;> cases houtcome <;> rfl
      | undecided => exact (fits_lift (handsOnly_sleep _)).bind fun _ => ih

/-! ## Handing over -/

section HandingOver

variable {payload : Bytes} (hmem : payload ∈ payloads)
include hmem

theorem fits_post (receiver : Pid) (kind : MessageKind) (wantsFeedback : Bool) (timeout : Nat) :
    Fits payloads (e.journaled.post receiver kind payload wantsFeedback timeout) where
  hands := by
    refine handsOnly_of_append hmem fun s => ?_
    obtain ⟨answer, time, transfer, rfl, hjournal, -⟩ :=
      run_post_journaled (e := e) receiver kind payload wantsFeedback timeout s
    exact ⟨_, hjournal, rfl⟩
  error := by
    intro s error herror
    obtain ⟨answer, -, -, -, -, -, hanswer⟩ :=
      run_post_journaled (e := e) receiver kind payload wantsFeedback timeout s
    rw [hanswer] at herror
    cases answer with
    | error fault => exact Except.error.inj herror ▸ Error.isOverflow_ofSendFault fault
    | ok => cases herror

variable (hshort : ∀ payload ∈ payloads, payload.length ≤ maxPayloadLength)
include hshort

theorem fits_sendWithTimeout (receiver : Pid) (kind : MessageKind) (wantsFeedback : Bool)
    (timeout : Nat) :
    Fits payloads (e.journaled.sendWithTimeout receiver kind payload wantsFeedback timeout) := by
  unfold sendWithTimeout
  split
  · exact (fits_lift (handsOnly_log _)).bind fun _ => fits_throw rfl
  · rw [if_neg (Nat.not_lt.2 (hshort payload hmem))]
    exact fits_post hmem receiver kind wantsFeedback timeout

/-- A call hands over its request only. -/
theorem fits_call (destination : Pid) (kind : MessageKind) (timeout : Nat) :
    Fits payloads (e.journaled.call destination kind payload timeout) :=
  (fits_sendWithTimeout hmem hshort destination kind true timeout).bind fun _ =>
    fits_awaitResponse _ _ _ _

theorem handsOnly_announcement {failed : Error → Act (Journaled Transfer σ) Unit}
    (hfailed : ∀ error, HandsOnly payloads (failed error)) (kind : MessageKind) (flags : UInt32) :
    HandsOnly payloads (do
      match ← (e.journaled.broadcast kind flags payload).run with
      | .ok () => pure ()
      | .error error => failed error) := by
  have htold : HandsOnly payloads (e.journaled.broadcast kind flags payload).run := by
    refine handsOnly_of_append hmem fun s => ?_
    rw [e.journaled.run_broadcast (hshort payload hmem)]
    exact ⟨_, rfl, rfl⟩
  refine HandsOnly.bind htold fun result => ?_
  cases result with
  | ok _ => exact handsOnly_pure ()
  | error error => exact hfailed error

end HandingOver

end Endpoint

end Interprocess

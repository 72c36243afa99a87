import Interprocess.Proofs.Endpoint.Posting

/-!
# The window for saving state

To begin to save takes five steps: the children are protected, the exemption is requested and
announced, it is waited for, the power manager is asked to wait, and the window opens.  Each step
may fail, and the window may be open already.

**Input.**  A history of operations, over any kernel.

**Which deeds count.**  A deed `settles` the window if it begins to save or ends it, and succeeds.
The last one that does decides what the window is.

**Results.**
* `run_beginSave`: the window opens only if everything before went well.
* `History.saveDeadline_eq`: the window after a history.
* `transcript_beginSave`: what is handed over to begin to save.
* `save_window_is_exact`: all of this for every history.
-/

namespace Interprocess

variable {σ : Type}

namespace Endpoint

/-- An exemption up to its polls. -/
def askExemption (e : Endpoint σ) (emergencyOk : Bool) : Attempt σ Sequence := do
  Attempt.onKernel (e.kernel.protectChildren emergencyOk)
  let sequence ← e.send e.config.kernelPid MessageKind.doNotKill
    (littleEndian 4 e.pid.toNat) true
  e.announceExemption emergencyOk
  pure sequence

/-- When the window opens. -/
def saveStart (e : Endpoint σ) (s : Session σ) : Nat :=
  e.kernel.now (e.requestSave.run.run s).2.kernel

variable {e : Endpoint σ} {s t : Session σ}

theorem obtainExemption_eq (e : Endpoint σ) (emergencyOk : Bool) (polls : Nat) :
    e.obtainExemption emergencyOk polls =
      e.askExemption emergencyOk >>= fun sequence =>
        e.awaitExemption sequence emergencyOk polls polls := by
  simp only [obtainExemption, askExemption, bind_assoc, pure_bind]

/-! ## Opening and closing -/

/-- A session in which the window was opened. -/
def opened (e : Endpoint σ) (s : Session σ) : Session σ where
  kernel := e.kernel.log ("[eclib] " ++ ("appendix-s: save started grace=" ++
    Text.decimal e.config.saveGrace ++ "ms")) s.kernel
  process := { s.process with
    saveDeadline := some (timeAfter (e.kernel.now s.kernel) e.config.saveGrace) }

/-- A session in which the window was closed. -/
def closed (e : Endpoint σ) (s : Session σ) : Session σ where
  kernel := e.kernel.log ("[eclib] " ++ "appendix-s: save complete") s.kernel
  process := { s.process with saveDeadline := none }

/-- The window opens only if everything before went well. -/
theorem run_beginSave (e : Endpoint σ) (s : Session σ) :
    (e.perform .beginSave).run s =
      match e.requestSave.run.run s with
      | (.ok _, t) => (.attempt (.ok .nothing), e.opened t)
      | (.error error, t) => (.attempt (.error error), t) := by
  rw [perform, answeringDone, answering, beginSave_eq, Act.run_bind, Attempt.run_bind]
  rcases e.requestSave.run.run s with ⟨error | _, t⟩ <;> rfl

/-- The window closes only if the power manager was told. -/
theorem run_saveComplete (e : Endpoint σ) (s : Session σ) :
    (e.perform .saveComplete).run s =
      match (e.send e.config.powerManagerPid MessageKind.saveDone
        (Utf8.encode Announcement.saveDone) false).run.run s with
      | (.ok _, t) => (.attempt (.ok .nothing), e.closed t)
      | (.error error, t) => (.attempt (.error error), t) := by
  rw [perform, answeringDone, answering, saveComplete, Act.run_bind, Attempt.run_bind]
  rcases (e.send e.config.powerManagerPid MessageKind.saveDone
    (Utf8.encode Announcement.saveDone) false).run.run s with ⟨error | _, t⟩ <;> rfl

theorem saveDeadline_send (receiver : Pid) (kind : MessageKind) (payload : Bytes)
    (wantsFeedback : Bool) (s : Session σ) :
    ((e.send receiver kind payload wantsFeedback).run.run s).2.process.saveDeadline =
      s.process.saveDeadline := by
  have hcourse : e.Course (.send receiver kind payload wantsFeedback none)
      s.process.nextSequence s
      ((e.send receiver kind payload wantsFeedback).run.run s).2 :=
    course_sendWithTimeout (by simp [Operation.sendLimit, Operation.sends]) (fun _ => rfl)
      kind payload e.config.recordTimeout
  exact hcourse.saveDeadline_eq (fun heq => Operation.noConfusion heq)
    fun heq => Operation.noConfusion heq

theorem saveDeadline_protectChildren (emergencyOk : Bool) (s : Session σ) :
    ((e.protectChildren emergencyOk).run.run s).2.process.saveDeadline =
      s.process.saveDeadline := by
  have hcourse : e.Course (.protectChildren emergencyOk) s.process.nextSequence s
      ((e.protectChildren emergencyOk).run.run s).2 :=
    opens_obtainExemption rfl emergencyOk e.config.exemptionRetries s rfl
  exact hcourse.saveDeadline_eq (fun heq => Operation.noConfusion heq)
    fun heq => Operation.noConfusion heq

theorem saveDeadline_requestSave (s : Session σ) :
    (e.requestSave.run.run s).2.process.saveDeadline = s.process.saveDeadline := by
  have hprotect := e.saveDeadline_protectChildren false s
  refine Attempt.bind_cases (P := fun t => t.process.saveDeadline = s.process.saveDeadline)
    (fun error t hrun => ?_) fun _ t hrun => ?_
  · rw [hrun] at hprotect
    exact hprotect
  · rw [hrun] at hprotect
    exact (saveDeadline_send _ _ _ _ t).trans hprotect

end Endpoint

/-- Whether an answer is that of an attempt that went well. -/
def Answer.isDone : Answer → Bool
  | attempt (.ok _) => true
  | _ => false

namespace Deed

/-- Whether a deed begins to save or ends it, and succeeds. -/
def settles (e : Endpoint σ) (deed : Deed σ) : Bool :=
  match deed.operation with
  | .beginSave | .saveComplete => ((e.perform deed.operation).run deed.before).1.isDone
  | _ => false

/-- When the window ends that a deed opens. -/
def window (e : Endpoint σ) (deed : Deed σ) : Option Nat :=
  match deed.operation with
  | .beginSave => some (timeAfter (e.saveStart deed.before) e.config.saveGrace)
  | _ => none

end Deed

namespace Endpoint

variable {e : Endpoint σ} {s t : Session σ} {operation : Operation}

/-- What an operation does to the window. -/
theorem saveDeadline_perform (operation : Operation) (s : Session σ) :
    ((e.perform operation).run s).2.process.saveDeadline =
      if Deed.settles e ⟨operation, s⟩ then Deed.window e ⟨operation, s⟩
      else s.process.saveDeadline := by
  by_cases hbegin : operation = .beginSave
  · subst hbegin
    have hkept := saveDeadline_requestSave (e := e) s
    simp only [Deed.settles, Deed.window, saveStart, run_beginSave]
    revert hkept
    rcases e.requestSave.run.run s with ⟨error | sequence, t⟩
    · exact fun hkept => hkept
    · exact fun _ => rfl
  · by_cases hdone : operation = .saveComplete
    · subst hdone
      have hkept := saveDeadline_send (e := e) e.config.powerManagerPid MessageKind.saveDone
        (Utf8.encode Announcement.saveDone) false s
      simp only [Deed.settles, Deed.window, run_saveComplete]
      revert hkept
      rcases (e.send e.config.powerManagerPid MessageKind.saveDone
        (Utf8.encode Announcement.saveDone) false).run.run s with ⟨error | sequence, t⟩
      · exact fun hkept => hkept
      · exact fun _ => rfl
    · have hsettles : Deed.settles e ⟨operation, s⟩ = false := by
        cases operation with
        | beginSave => exact absurd rfl hbegin
        | saveComplete => exact absurd rfl hdone
        | _ => rfl
      rw [hsettles]
      exact (e.course_perform operation s).saveDeadline_eq hbegin hdone

/-- The window is what the last deed that settles it makes of it. -/
theorem History.saveDeadline_eq {deeds : List (Deed σ)} (h : e.History deeds s) :
    s.process.saveDeadline = (deeds.find? (Deed.settles e)).bind (Deed.window e) := by
  induction h with
  | start => rfl
  | @operate deeds s _ operation ih =>
      rw [saveDeadline_perform, List.find?_cons]
      split
      · next hsettles => rw [hsettles]; rfl
      · next hsettles => rw [Bool.eq_false_iff.2 hsettles]; exact ih
  | outside _ _ ih => exact ih

/-! ## What is handed over -/

/-- A request for the exemption, under the sequence `first`. -/
structure IsExemptionRequest (e : Endpoint σ) (first : Sequence) (submission : Submission) :
    Prop where
  kind : submission.envelope.kind = MessageKind.doNotKill
  receiver : submission.envelope.receiver = e.config.kernelPid
  wantsFeedback : submission.wantsFeedback = true
  sequence : submission.sequence = first

variable {s' t' : Session (Journaled Transfer σ)} {receiver : Pid} {kind : MessageKind}
  {payload : Bytes} {wantsFeedback : Bool}

/-- A send is refused on the spot and hands nothing over, or it hands over one envelope, and is
answered by the kernel. -/
theorem sends_of_send (receiver : Pid) (kind : MessageKind) (payload : Bytes)
    (wantsFeedback : Bool) (s' : Session (Journaled Transfer σ)) :
    let sent := (e.journaled.send receiver kind payload wantsFeedback).run.run s'
    (∃ error, sent.1 = .error error ∧ sent.2.kernel.sends = s'.kernel.sends) ∨
      ∃ answer time,
        sent.2.kernel.sends = s'.kernel.sends ++
          [.send ⟨e.outgoing receiver kind payload s'.process.nextSequence
            (e.kernel.now s'.kernel.kernel), wantsFeedback, s'.process.nextSequence⟩
            answer time] ∧
        sent.1 = (answer.map fun _ => s'.process.nextSequence).mapError Error.ofSendFault := by
  unfold send sendWithTimeout
  split
  · exact Or.inl ⟨.permissionDenied, rfl, rfl⟩
  · split
    · exact Or.inl ⟨_, rfl, rfl⟩
    · obtain ⟨answer, time, transfer, rfl, hjournal, -, hanswer⟩ :=
        run_post_journaled (e := e) receiver kind payload wantsFeedback
          e.config.recordTimeout s'
      refine Or.inr ⟨answer, time, ?_, hanswer⟩
      exact (congrArg (List.filter Transfer.isSend) hjournal).trans (List.filter_append _ _)

/-- Whether an attempt that began in a session handed over nothing but a request for the exemption,
and ended well only if the kernel took that. -/
def HandsRequest (e : Endpoint σ) (s' : Session (Journaled Transfer σ))
    (r : Except Error Unit × Session (Journaled Transfer σ)) : Prop :=
  ∃ handed, r.2.kernel.sends = s'.kernel.sends ++ handed ∧
    (∀ transfer ∈ handed, ∃ request answer time, transfer = .send request answer time ∧
      e.IsExemptionRequest s'.process.nextSequence request) ∧
    (r.1 = .ok () → ∃ request time, handed = [.send request (.ok ()) time])

/-- Once the children are protected, one request is handed over, and nothing else. -/
theorem handsRequest_ask (emergencyOk : Bool) (polls : Nat) (s' : Session (Journaled Transfer σ)) :
    e.HandsRequest s' ((do
      let sequence ← e.journaled.send e.config.kernelPid MessageKind.doNotKill
        (littleEndian 4 e.pid.toNat) true
      e.journaled.announceExemption emergencyOk
      e.journaled.awaitExemption sequence emergencyOk polls polls :
        Attempt (Journaled Transfer σ) Unit).run.run s') := by
  have hsent := sends_of_send (e := e) e.config.kernelPid MessageKind.doNotKill
    (littleEndian 4 e.pid.toNat) true s'
  rw [Attempt.run_bind]
  revert hsent
  rcases (e.journaled.send e.config.kernelPid MessageKind.doNotKill
    (littleEndian 4 e.pid.toNat) true).run.run s' with ⟨result, t'⟩
  rintro (⟨error, rfl, hsends⟩ | ⟨answer, time, hsends, rfl⟩)
  · exact ⟨[], hsends.trans (List.append_nil _).symm, by simp, nofun⟩
  · have hown : ∀ transfer ∈ [Transfer.send ⟨e.outgoing e.config.kernelPid MessageKind.doNotKill
          (littleEndian 4 e.pid.toNat) s'.process.nextSequence (e.kernel.now s'.kernel.kernel),
            true, s'.process.nextSequence⟩ answer time],
        ∃ request answer time, transfer = .send request answer time ∧
          e.IsExemptionRequest s'.process.nextSequence request :=
      fun transfer hmem => ⟨_, answer, time, List.mem_singleton.1 hmem, rfl, rfl, rfl, rfl⟩
    cases answer with
    | error fault => exact ⟨_, hsends, hown, nofun⟩
    | ok =>
        -- Announcing and polling hand nothing over.
        have hrest : e.journaled.Makes (.protectChildren emergencyOk) s'.process.nextSequence
            (do
              e.journaled.announceExemption emergencyOk
              e.journaled.awaitExemption s'.process.nextSequence emergencyOk polls polls :
                Attempt (Journaled Transfer σ) Unit).run :=
          makes_attempt_bind (makes_lift (makes_announcement fun _ => makes_log _))
            fun _ => makes_awaitExemption rfl _ _ _
        exact ⟨_, (sends_of_walk (hrest t')).trans hsends, hown, fun _ => ⟨_, time, rfl⟩⟩

theorem handsRequest_obtainExemption (emergencyOk : Bool) (polls : Nat)
    (s' : Session (Journaled Transfer σ)) :
    e.HandsRequest s' ((e.journaled.obtainExemption emergencyOk polls).run.run s') := by
  unfold obtainExemption
  rw [Attempt.run_bind, Attempt.run_onKernel]
  cases (e.journaled.kernel.protectChildren emergencyOk s'.kernel).1 with
  | error fault => exact ⟨[], (List.append_nil _).symm, by simp, nofun⟩
  | ok =>
      exact handsRequest_ask emergencyOk polls
        { s' with kernel := (e.journaled.kernel.protectChildren emergencyOk s'.kernel).2 }

theorem sends_transcript_beginSave (s : Session σ) :
    (e.transcript .beginSave s).filter Transfer.isSend =
      (e.journaled.requestSave.run.run (journalBegun s)).2.kernel.sends := by
  rw [transcript_eq, run_beginSave]
  rcases e.journaled.requestSave.run.run (journalBegun s) with ⟨error | sequence, t⟩ <;> rfl

/-- What is handed over to begin to save: the request for the exemption, and if that goes well,
what the power manager is told. -/
theorem transcript_beginSave (s : Session σ) :
    let handed := (e.transcript .beginSave s).filter Transfer.isSend
    (∀ error t, (e.protectChildren false).run.run s = (.error error, t) →
      ∀ transfer ∈ handed, ∃ request answer time, transfer = .send request answer time ∧
        e.IsExemptionRequest s.process.nextSequence request) ∧
    ∀ t, (e.protectChildren false).run.run s = (.ok (), t) →
      ∃ request time waits, handed = .send request (.ok ()) time :: waits ∧
        e.IsExemptionRequest s.process.nextSequence request ∧
        ∀ transfer ∈ waits, ∃ submission answer time, transfer = .send submission answer time ∧
          submission.envelope.kind = MessageKind.saveWait := by
  have hfollows : Attempt.Follows Journaled.kernel (e.journaled.protectChildren false)
      (e.protectChildren false) :=
    follows_obtainExemption (e.kernel.mirrors_noting KernelEvent.transfer?) false
      e.config.exemptionRetries
  have hfollows := hfollows (journalBegun s)
  have hhands : e.HandsRequest (journalBegun s)
      ((e.journaled.protectChildren false).run.run (journalBegun s)) :=
    handsRequest_obtainExemption false e.config.exemptionRetries (journalBegun s)
  rw [sends_transcript_beginSave, requestSave, Attempt.run_bind]
  rcases hprotect : (e.journaled.protectChildren false).run.run (journalBegun s) with ⟨result, t'⟩
  rw [hprotect] at hfollows hhands
  obtain ⟨handed, hsends, hown, hok⟩ := hhands
  have hhanded : t'.kernel.sends = handed := hsends
  cases result with
  | error error =>
      refine ⟨fun _ _ _ => hhanded ▸ hown, fun t hprotected => ?_⟩
      cases hfollows.symm.trans hprotected
  | ok =>
      refine ⟨fun error t hprotected => ?_, fun t _ => ?_⟩
      · cases hfollows.symm.trans hprotected
      · obtain ⟨request, time, rfl⟩ := hok rfl
        obtain ⟨_, _, _, heq, hrequest⟩ := hown _ (List.mem_singleton_self _)
        cases heq
        rcases sends_of_send (e := e) e.config.powerManagerPid MessageKind.saveWait
          (Utf8.encode Announcement.saveWait) false t' with ⟨_, -, hwaits⟩ | ⟨_, _, hwaits, -⟩
        · exact ⟨request, time, [], hwaits.trans hhanded, hrequest, by simp⟩
        · refine ⟨request, time, [_], hwaits.trans (congrArg (· ++ _) hhanded), hrequest, ?_⟩
          exact fun transfer hmem => ⟨_, _, _, List.mem_singleton.1 hmem, rfl⟩

/-! ## The first poll -/

/-- An exemption is not waited for with success if the first state that is polled is a failure. -/
theorem not_isFailure_of_awaitExemption {sequence : Sequence} {emergencyOk : Bool}
    {polls left : Nat} {s t : Session σ}
    (h : (e.awaitExemption sequence emergencyOk polls left).run.run s = (.ok (), t)) :
    ((e.state sequence).run s).1.isFailure = false := by
  cases left with
  | zero =>
      simp only [awaitExemption, Attempt.run_bind, Attempt.run_lift, Attempt.run_throw] at h
      cases h
  | succ left =>
      rw [awaitExemption, Attempt.run_bind, Attempt.run_lift] at h
      cases hstate : ((e.state sequence).run s).1 with
      | sentFailed | deliveryFailed | permissionDenied | lost =>
          simp only [hstate, DeliveryState.exemptionOutcome, Attempt.run_bind, Attempt.run_lift,
            Attempt.run_throw] at h
          cases h
      | _ => rfl

theorem sequence_of_askExemption {sequence : Sequence} {emergencyOk : Bool} {s t : Session σ}
    (h : (e.askExemption emergencyOk).run.run s = (.ok sequence, t)) :
    sequence = s.process.nextSequence := by
  obtain ⟨_, u, hprotect, h⟩ := Attempt.exists_of_bind_eq_ok h
  obtain ⟨posted, v, hsend, h⟩ := Attempt.exists_of_bind_eq_ok h
  obtain ⟨_, _, _, h⟩ := Attempt.exists_of_bind_eq_ok h
  rw [Attempt.run_pure] at h
  have hposted := eq_nextSequence_of_sendWithTimeout hsend
  have hprocess : u.process = s.process := by
    rw [Attempt.run_onKernel] at hprotect
    rw [← (Prod.mk.inj hprotect).2]
  rw [hprocess] at hposted
  cases h
  exact hposted

/-- The first state that is polled for an exemption that is granted is no failure. -/
theorem first_poll_of_protectChildren {s t : Session σ}
    (h : (e.protectChildren false).run.run s = (.ok (), t)) :
    ∃ asked, (e.askExemption false).run.run s = (.ok s.process.nextSequence, asked) ∧
      ((e.state s.process.nextSequence).run asked).1.isFailure = false := by
  rw [protectChildren, obtainExemption_eq] at h
  obtain ⟨sequence, asked, hask, h⟩ := Attempt.exists_of_bind_eq_ok h
  obtain rfl := sequence_of_askExemption hask
  exact ⟨asked, hask, not_isFailure_of_awaitExemption h⟩

/-- What is handed over before the power manager is told to wait. -/
theorem requested_before_wait {s : Session σ} {earlier later : List Transfer}
    {submission : Submission} {answer : Except SendFault Unit} {time : Nat}
    (h : e.transcript .beginSave s = earlier ++ .send submission answer time :: later)
    (hwait : submission.envelope.kind = MessageKind.saveWait) :
    ∃ request requested asked, .send request (.ok ()) requested ∈ earlier ∧
      e.IsExemptionRequest s.process.nextSequence request ∧
      (e.askExemption false).run.run s = (.ok request.sequence, asked) ∧
      ((e.state request.sequence).run asked).1.isFailure = false := by
  have hkinds : MessageKind.doNotKill ≠ MessageKind.saveWait := by decide
  obtain ⟨hrefused, hgranted⟩ := e.transcript_beginSave s
  rcases hprotect : (e.protectChildren false).run.run s with ⟨error | _, t⟩
  · have hmem : Transfer.send submission answer time ∈
        (e.transcript .beginSave s).filter Transfer.isSend := by
      rw [h]
      simp [Transfer.isSend]
    obtain ⟨_, _, _, heq, hrequest⟩ := hrefused error t hprotect _ hmem
    cases heq
    exact absurd (hrequest.kind.symm.trans hwait) hkinds
  · obtain ⟨request, requested, waits, hhanded, hrequest, -⟩ := hgranted t hprotect
    obtain ⟨asked, hask, hpolled⟩ := first_poll_of_protectChildren hprotect
    rw [h, List.filter_append, List.filter_cons_of_pos rfl] at hhanded
    -- The request is the first send, and the power manager is told to wait by a later one.
    cases hearlier : earlier.filter Transfer.isSend with
    | nil =>
        rw [hearlier] at hhanded
        cases hhanded
        exact absurd (hrequest.kind.symm.trans hwait) hkinds
    | cons first rest =>
        rw [hearlier] at hhanded
        have hfirst : first = .send request (.ok ()) requested := (List.cons.inj hhanded).1
        have hmem : first ∈ earlier.filter Transfer.isSend := by
          rw [hearlier]
          exact List.mem_cons_self
        refine ⟨request, requested, asked, hfirst ▸ (List.mem_filter.1 hmem).1, hrequest, ?_, ?_⟩
        · rw [hrequest.sequence]
          exact hask
        · rw [hrequest.sequence]
          exact hpolled

/-! ## The law of the window -/

theorem run_isSaving (s : Session σ) :
    (e.perform .isSaving).run s = (.value (.flag s.process.saveDeadline.isSome), s) := rfl

theorem run_remainingTime (s : Session σ) :
    (e.perform .remainingTime).run s =
      (.value (.number (match s.process.saveDeadline with
        | some deadline => deadline - e.kernel.now s.kernel
        | none => 0)), s) := rfl

/-- A deed opens a window if and only if it begins to save. -/
theorem isSome_window_iff (deed : Deed σ) :
    (deed.window e).isSome = true ↔ deed.operation = .beginSave := by
  obtain ⟨operation, before⟩ := deed
  cases operation <;> simp [Deed.window]

/-- **The window is exact.**  A process is saving if and only if the last deed that settled the
window opened it, and then the time that remains is counted from when it did, to an end that starts
over where the clock does; an attempt that fails leaves the window alone.  To begin to save hands
over nothing but the request for the exemption if that is not granted, and the power manager is told
to wait only after the kernel took that request and its first state that was polled was no
failure. -/
theorem save_window_is_exact (e : Endpoint σ) :
    (∀ s, e.Reachable s → ∃ deeds, e.History deeds s) ∧
      ∀ deeds s, e.History deeds s →
        (((e.perform .isSaving).run s).1 = .value (.flag true) ↔
            ∃ before, deeds.find? (Deed.settles e) = some ⟨.beginSave, before⟩) ∧
          (∀ before, deeds.find? (Deed.settles e) = some ⟨.beginSave, before⟩ →
            ((e.perform .remainingTime).run s).1 = .value (.number
                (timeAfter (e.saveStart before) e.config.saveGrace - e.kernel.now s.kernel)) ∧
              (e.saveStart before + e.config.saveGrace < clockPeriod →
                ((e.perform .remainingTime).run s).1 = .value (.number
                  (e.saveStart before + e.config.saveGrace - e.kernel.now s.kernel))) ∧
              ((∀ line k, e.kernel.now (e.kernel.log line k) = e.kernel.now k) →
                e.saveStart before =
                  e.kernel.now ((e.perform .beginSave).run before).2.kernel)) ∧
          (((e.perform .isSaving).run s).1 = .value (.flag false) →
            ((e.perform .remainingTime).run s).1 = .value (.number 0)) ∧
          (∀ operation error t, operation = .beginSave ∨ operation = .saveComplete →
            (e.perform operation).run s = (.attempt (.error error), t) →
              t.process.saveDeadline = s.process.saveDeadline) ∧
          (∀ error t, (e.protectChildren false).run.run s = (.error error, t) →
            (e.perform .beginSave).run s = (.attempt (.error error), t) ∧
              ∀ submission answer time,
                .send submission answer time ∈ e.transcript .beginSave s →
                  e.IsExemptionRequest s.process.nextSequence submission) ∧
          ∀ earlier later submission answer time,
            e.transcript .beginSave s = earlier ++ .send submission answer time :: later →
              submission.envelope.kind = MessageKind.saveWait →
                ∃ request requested asked, .send request (.ok ()) requested ∈ earlier ∧
                  e.IsExemptionRequest s.process.nextSequence request ∧
                  (e.askExemption false).run.run s = (.ok request.sequence, asked) ∧
                  ((e.state request.sequence).run asked).1.isFailure = false := by
  refine ⟨fun s h => h.exists_history, fun deeds s h => ?_⟩
  have hdeadline := h.saveDeadline_eq
  have hremains : ∀ before, deeds.find? (Deed.settles e) = some ⟨.beginSave, before⟩ →
      ((e.perform .remainingTime).run s).1 = .value (.number
        (timeAfter (e.saveStart before) e.config.saveGrace - e.kernel.now s.kernel)) := by
    intro before hlast
    rw [run_remainingTime, hdeadline, hlast]
    rfl
  refine ⟨?_, fun before hlast => ⟨hremains before hlast, fun hends => ?_, fun hlog => ?_⟩,
    fun hidle => ?_, ?_, ?_,
    fun earlier later submission answer time htranscript hwait =>
      requested_before_wait htranscript hwait⟩
  · rw [run_isSaving, hdeadline]
    cases hlast : deeds.find? (Deed.settles e) with
    | none => simp
    | some deed =>
        obtain ⟨operation, before⟩ := deed
        have hopens := isSome_window_iff (e := e) ⟨operation, before⟩
        simp [hopens]
  · rw [hremains before hlast, timeAfter_of_lt hends]
  · have hsettles := List.find?_some hlast
    simp only [Deed.settles, run_beginSave] at hsettles
    rw [run_beginSave, saveStart]
    revert hsettles
    rcases e.requestSave.run.run before with ⟨error | sequence, t⟩
    · exact fun hfailed => Bool.noConfusion hfailed
    · exact fun _ => (hlog _ _).symm
  · rw [run_isSaving] at hidle
    rw [run_remainingTime]
    cases hopen : s.process.saveDeadline with
    | none => rfl
    | some deadline => simp [hopen] at hidle
  · intro operation error t hsaves hfailed
    have hunsettled : Deed.settles e ⟨operation, s⟩ = false := by
      rcases hsaves with rfl | rfl <;> simp [Deed.settles, hfailed, Answer.isDone]
    have hafter := saveDeadline_perform (e := e) operation s
    rw [hunsettled, hfailed] at hafter
    exact hafter
  · intro error t hrefused
    refine ⟨?_, fun submission answer time hmem => ?_⟩
    · have hrequest : e.requestSave.run.run s = (.error error, t) :=
        Attempt.run_bind_of_error hrefused _
      rw [run_beginSave, hrequest]
    · obtain ⟨_, _, _, heq, hrequest⟩ := (e.transcript_beginSave s).1 error t hrefused _
        (List.mem_filter.2 ⟨hmem, rfl⟩)
      cases heq
      exact hrequest

/-- A process begins to save.  Later neither a second beginning nor the end gets through, and the
window stays what the first one made it. -/
theorem save_window_is_exact_after_failures :
    let station := Station.start 7 Config.standard
    let e := station.endpoint
    let s := station.session World.start
    let s₁ := ((e.perform .beginSave).run s).2
    let deaf : World := { s₁.kernel.world with
      clock := s₁.kernel.world.clock + 100
      sendFaults := [(e.config.kernelPid, .queueFull), (e.config.powerManagerPid, .unavailable)] }
    let s₂ : Session KernelState := { s₁ with kernel := { s₁.kernel with world := deaf } }
    let s₃ := ((e.perform .beginSave).run s₂).2
    let s₄ := ((e.perform .saveComplete).run s₃).2
    ((e.perform .isSaving).run s₄).1 = .value (.flag true) ∧
      ((e.perform .remainingTime).run s₄).1 = .value (.number (Config.standard.saveGrace - 100)) ∧
      s₃.process.saveDeadline = s₁.process.saveDeadline := by
  intro station e s s₁ deaf s₂ s₃ s₄
  have hstart : e.History [] s := .start s.kernel
  have hbegun : e.History [⟨.beginSave, s⟩] s₁ := hstart.operate .beginSave
  have hdeaf : e.History [⟨.beginSave, s⟩] s₂ := hbegun.outside _
  have hhistory : e.History [⟨.saveComplete, s₃⟩, ⟨.beginSave, s₂⟩, ⟨.beginSave, s⟩] s₄ :=
    (hdeaf.operate .beginSave).operate .saveComplete
  have hlast : [⟨.saveComplete, s₃⟩, ⟨.beginSave, s₂⟩, ⟨.beginSave, s⟩].find?
      (Deed.settles e) = some ⟨.beginSave, s⟩ := by
    rw [List.find?_cons_of_neg (by decide +kernel), List.find?_cons_of_neg (by decide +kernel),
      List.find?_cons_of_pos (by decide +kernel)]
  obtain ⟨-, hexact⟩ := save_window_is_exact e
  obtain ⟨hsaving, hremains, -⟩ := hexact _ s₄ hhistory
  refine ⟨hsaving.2 ⟨s, hlast⟩, ?_, by decide +kernel⟩
  obtain ⟨-, hexactly, -⟩ := hremains s hlast
  rw [hexactly (by decide +kernel)]
  exact congrArg (fun n => Answer.value (.number n)) (by decide +kernel)

end Endpoint

end Interprocess

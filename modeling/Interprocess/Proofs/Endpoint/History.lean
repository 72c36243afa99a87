import Interprocess.Proofs.Endpoint.Reachable

/-!
# The history of a process

What a process remembers is the outcome of the operations that it carried out.  Some statements need
all of them, in order: which one was the last to succeed, which envelopes came and went.

**Histories.**  `e.History deeds s` says that a process comes to `s` after `deeds`, the last one
first.  A `Deed` is an operation with the session in which it began, so what it answered can be
computed.  Between two deeds the kernel may do anything.  What a handler does when an announcement
is handed out are deeds as well, in the order in which it does them.

**Results.**
* `Reachable.exists_history`: every session to which a process comes has a history.
* `frame_apply`: which moves touch the save window, the handlers and the inbox.
* `Course.saveDeadline_eq`, `Course.callbacks_eq`: which operations do.
-/

namespace Interprocess

variable {σ : Type}

/-- An operation that was carried out, and the session in which it began. -/
structure Deed (σ : Type) where
  operation : Operation
  before : Session σ

namespace Endpoint

/-- Whether a process comes to a session after these deeds, the last one first. -/
inductive History (e : Endpoint σ) : List (Deed σ) → Session σ → Prop
  | start (k : σ) : History e [] { kernel := k, process := Process.start e.config }
  | operate {deeds : List (Deed σ)} {s : Session σ} (h : History e deeds s)
      (operation : Operation) :
      History e (⟨operation, s⟩ :: deeds) ((e.perform operation).run s).2
  | outside {deeds : List (Deed σ)} {s : Session σ} (h : History e deeds s) (k : σ) :
      History e deeds { s with kernel := k }

variable {e : Endpoint σ} {deeds : List (Deed σ)} {s t : Session σ}

theorem History.continues (h : e.History deeds s) (hruns : e.Continues s t) :
    ∃ later, e.History (later ++ deeds) t := by
  induction hruns with
  | refl => exact ⟨[], h⟩
  | tail _ hstep ih =>
      obtain ⟨later, hhistory⟩ := ih
      cases hstep with
      | operate operation => exact ⟨_ :: later, hhistory.operate operation⟩
      | outside k => exact ⟨later, hhistory.outside k⟩

/-- Every session to which a process comes has a history. -/
theorem Reachable.exists_history (h : e.Reachable s) : ∃ deeds, e.History deeds s := by
  obtain ⟨k, hruns⟩ := h
  obtain ⟨deeds, hhistory⟩ := (History.start k).continues hruns
  exact ⟨_, hhistory⟩

end Endpoint

/-! ## What moves leave alone -/

namespace Move

/-- Whether a move opens or closes the save window. -/
def isWindow : Move → Bool
  | openWindow | closeWindow => true
  | _ => false

/-- Whether a move changes who hears of announcements. -/
def isHandler : Move → Bool
  | registerHandler .. | unregisterHandler _ => true
  | _ => false

/-- Whether a move may change the inbox. -/
def isInbox : Move → Bool
  | post .. | takeNotice | dropNotices | shutdownLedger => true
  | _ => false

end Move

namespace Process

variable (p : Process)

theorem enroll_frame (destination : Pid) (kind : MessageKind) (now timeout : Nat) :
    (p.enroll destination kind now timeout).2.saveDeadline = p.saveDeadline ∧
      (p.enroll destination kind now timeout).2.callbacks = p.callbacks ∧
      (p.enroll destination kind now timeout).2.inbox = p.inbox := by
  unfold enroll
  simp only
  split <;> exact ⟨rfl, rfl, rfl⟩

theorem notify_frame (notice : Envelope) :
    (p.notify notice).2.saveDeadline = p.saveDeadline ∧
      (p.notify notice).2.callbacks = p.callbacks := by
  unfold notify
  split <;> exact ⟨rfl, rfl⟩

end Process

namespace Endpoint

variable (e : Endpoint σ)

theorem refused_frame (s : Session σ) (envelope : Envelope) (wantsFeedback tracked : Bool)
    (fault : SendFault) :
    (e.refused s envelope wantsFeedback tracked fault).2.saveDeadline = s.process.saveDeadline ∧
      (e.refused s envelope wantsFeedback tracked fault).2.callbacks = s.process.callbacks := by
  unfold refused
  have hmark : ∀ marked : Process, marked = (if tracked then
        s.process.mark envelope.sequence .sentFailed else s.process) →
      marked.saveDeadline = s.process.saveDeadline ∧ marked.callbacks = s.process.callbacks := by
    rintro _ rfl
    cases tracked <;> exact ⟨rfl, rfl⟩
  obtain ⟨hdeadline, hcallbacks⟩ := hmark _ rfl
  cases wantsFeedback with
  | true =>
      obtain ⟨hdeadline', hcallbacks'⟩ := Process.notify_frame _ _
      exact ⟨hdeadline'.trans hdeadline, hcallbacks'.trans hcallbacks⟩
  | false => exact ⟨hdeadline, hcallbacks⟩

theorem post_frame (receiver : Pid) (kind : MessageKind) (payload : Bytes)
    (wantsFeedback : Bool) (timeout : Nat) (s : Session σ) :
    let t := ((e.post receiver kind payload wantsFeedback timeout).run.run s).2
    t.process.saveDeadline = s.process.saveDeadline ∧
      t.process.callbacks = s.process.callbacks := by
  intro t
  obtain ⟨hdeadline, hcallbacks, -⟩ :=
    s.process.enroll_frame receiver kind (e.kernel.now s.kernel) timeout
  show ((e.post receiver kind payload wantsFeedback timeout).run.run s).2.process.saveDeadline =
      _ ∧ ((e.post receiver kind payload wantsFeedback timeout).run.run s).2.process.callbacks = _
  rw [run_post]
  simp only
  split
  · split <;> exact ⟨hdeadline, hcallbacks⟩
  · rw [run_refuse]
    obtain ⟨hdeadline', hcallbacks'⟩ := e.refused_frame _ _ _ _ _
    exact ⟨hdeadline'.trans hdeadline, hcallbacks'.trans hcallbacks⟩

/-- What a move leaves alone. -/
theorem frame_apply (move : Move) (s : Session σ) :
    (move.isWindow = false →
      (e.apply move s).process.saveDeadline = s.process.saveDeadline) ∧
      (move.isHandler = false → (e.apply move s).process.callbacks = s.process.callbacks) ∧
      (move.isInbox = false → (e.apply move s).process.inbox = s.process.inbox) := by
  cases move with
  | post receiver kind payload wantsFeedback timeout =>
      obtain ⟨hdeadline, hcallbacks⟩ :=
        e.post_frame receiver kind payload wantsFeedback timeout s
      exact ⟨fun _ => hdeadline, fun _ => hcallbacks, fun h => Bool.noConfusion h⟩
  | query sequence =>
      rw [apply, run_state]
      exact ⟨fun _ => rfl, fun _ => rfl, fun _ => rfl⟩
  | takeNotice =>
      simp only [apply, Process.nextNotice]
      split <;> exact ⟨fun _ => rfl, fun _ => rfl, fun h => Bool.noConfusion h⟩
  | registerHandler handler userData =>
      simp only [apply, Process.registerHandler]
      split <;> exact ⟨fun _ => rfl, fun h => Bool.noConfusion h, fun _ => rfl⟩
  | unregisterHandler handler =>
      simp only [apply, Process.unregisterHandler]
      split <;> exact ⟨fun _ => rfl, fun h => Bool.noConfusion h, fun _ => rfl⟩
  | shutdownLedger | dropNotices =>
      exact ⟨fun _ => rfl, fun _ => rfl, fun h => Bool.noConfusion h⟩
  | openWindow | closeWindow =>
      exact ⟨fun h => Bool.noConfusion h, fun _ => rfl, fun _ => rfl⟩
  | forget | useKernel => exact ⟨fun _ => rfl, fun _ => rfl, fun _ => rfl⟩

variable {e} {operation : Operation} {first : Sequence} {s t : Session σ}

theorem Walk.saveDeadline_eq {allowed : Move → Prop} (h : e.Walk allowed s t)
    (hallowed : ∀ move, allowed move → move.isWindow = false) :
    t.process.saveDeadline = s.process.saveDeadline := by
  induction h with
  | refl => rfl
  | tail _ hmove ih =>
      obtain ⟨move, hmoves, rfl⟩ := hmove
      exact ((e.frame_apply move _).1 (hallowed move hmoves)).trans ih

theorem Walk.callbacks_eq {allowed : Move → Prop} (h : e.Walk allowed s t)
    (hallowed : ∀ move, allowed move → move.isHandler = false) :
    t.process.callbacks = s.process.callbacks := by
  induction h with
  | refl => rfl
  | tail _ hmove ih =>
      obtain ⟨move, hmoves, rfl⟩ := hmove
      exact ((e.frame_apply move _).2.1 (hallowed move hmoves)).trans ih

/-- Only to begin to save and to end it changes the window. -/
theorem Course.saveDeadline_eq (h : e.Course operation first s t)
    (hbegin : operation ≠ .beginSave) (hdone : operation ≠ .saveComplete) :
    t.process.saveDeadline = s.process.saveDeadline := by
  refine h.walk.saveDeadline_eq fun move hpermits => ?_
  cases move with
  | openWindow => exact absurd hpermits hbegin
  | closeWindow => exact absurd hpermits hdone
  | _ => rfl

/-- Only to register and to unregister changes who hears of announcements. -/
theorem Course.callbacks_eq (h : e.Course operation first s t)
    (hregister : ∀ handler userData, operation ≠ .registerHandler handler userData)
    (hunregister : ∀ handler, operation ≠ .unregisterHandler handler) :
    t.process.callbacks = s.process.callbacks := by
  refine h.walk.callbacks_eq fun move hpermits => ?_
  cases move with
  | registerHandler handler userData => exact absurd hpermits (hregister handler userData)
  | unregisterHandler handler => exact absurd hpermits (hunregister handler)
  | _ => rfl

end Endpoint

end Interprocess

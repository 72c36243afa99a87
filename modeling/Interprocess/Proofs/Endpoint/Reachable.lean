import Interprocess.Proofs.Endpoint.LedgerEffect
import Interprocess.Proofs.Endpoint.OperationWalk
import Interprocess.Simulation.Station

/-!
# Every run keeps the ledger in order

A process carries out operations one after the other.  Between two operations anything may
happen outside of it, so the kernel may then be in any state, and what the kernel answers
during an operation is not restricted either.

**Runs.**  `Activity` is what a single-threaded program does: it carries out operations,
waits for the world to change, and hands shutdown announcements to its handlers, which do
activities of their own.  `Endpoint.Continues` follows the sessions between operations, also
between those that a handler carries out.

**Results.**
* `continues_pursueAll`: activities only continue a session.
* `Reachable.inOrder`: every reachable session is in order.
* `ledger_after_pursueAll`: what this means for the records of the ledger.
-/

namespace Interprocess

/-- What a single-threaded program does with a process: it lets the kernel change on its own,
carries out an operation, or hands an announcement to the handlers, which react. -/
inductive Activity (σ : Type)
  | meanwhile (change : σ → σ)
  | operate (operation : Operation)
  | dispatch (envelope : Envelope)
      (reactions : Callback → ShutdownNotice → List (Activity σ))

namespace Endpoint

variable {σ : Type} (e : Endpoint σ)

mutual

/-- Do an activity. -/
def pursue : Activity σ → Act σ Unit
  | .meanwhile change => Act.onKernel fun k => ((), change k)
  | .operate operation => do
      let _ ← e.perform operation
  | .dispatch envelope reactions => do
      let _ ← dispatchNotice (Act.ofProcess Process.callbacks)
        (fun callback notice => pursueAll (reactions callback notice)) envelope
termination_by structural activity => activity

/-- Do activities one after the other. -/
def pursueAll : List (Activity σ) → Act σ Unit
  | [] => pure ()
  | activity :: rest => do
      pursue activity
      pursueAll rest
termination_by structural activities => activities

end

/-- One step from a session between operations to the next: the process carries out an
operation, or something happens outside of it. -/
inductive Step : Session σ → Session σ → Prop
  | operate (operation : Operation) (s : Session σ) :
      Step s ((e.perform operation).run s).2
  | outside (k : σ) (s : Session σ) : Step s { s with kernel := k }

/-- Whether a session is followed by another, after any number of steps. -/
def Continues : Session σ → Session σ → Prop :=
  Relation.ReflTransGen e.Step

/-- Whether a process comes to a session, in any run with any kernel. -/
def Reachable (s : Session σ) : Prop :=
  ∃ k, e.Continues { kernel := k, process := Process.start e.config } s

variable {e}

/-! ## Activities are runs -/

theorem keeps_forM {τ α : Type} {P : τ → Prop} {act : α → StateM τ Unit}
    (h : ∀ a s, P s → P ((act a).run s).2) (items : List α) {s : τ} (hs : P s) :
    P ((items.forM act).run s).2 := by
  induction items generalizing s with
  | nil => exact hs
  | cons item rest ih => exact ih (h item s hs)

/-- What every handler keeps is kept when an announcement is handed out. -/
theorem keeps_dispatchNotice {τ : Type} {P : τ → Prop} {table : StateM τ CallbackTable}
    (htable : ∀ s, (table.run s).2 = s) {react : Callback → ShutdownNotice → StateM τ Unit}
    (h : ∀ callback notice s, P s → P ((react callback notice).run s).2)
    (envelope : Envelope) {s : τ} (hs : P s) :
    P ((dispatchNotice table react envelope).run s).2 := by
  unfold dispatchNotice
  split
  · exact hs
  · next notice hnotice =>
      have hfetched : P (table.run s).2 := by
        rw [htable]
        exact hs
      exact keeps_forM (fun callback => h callback notice) (table.run s).1.entries hfetched

mutual

theorem continues_pursue (activity : Activity σ) (s : Session σ) :
    e.Continues s ((e.pursue activity).run s).2 := by
  match activity with
  | .meanwhile change => exact Relation.ReflTransGen.single (.outside _ s)
  | .operate operation => exact Relation.ReflTransGen.single (.operate operation s)
  | .dispatch envelope reactions =>
      refine keeps_dispatchNotice (P := e.Continues s) (fun _ => rfl) ?_ envelope
        Relation.ReflTransGen.refl
      exact fun callback notice t hruns =>
        hruns.trans (continues_pursueAll (reactions callback notice) t)

/-- Activities only continue a session. -/
theorem continues_pursueAll (activities : List (Activity σ)) (s : Session σ) :
    e.Continues s ((e.pursueAll activities).run s).2 := by
  match activities with
  | [] => exact Relation.ReflTransGen.refl
  | activity :: rest => exact (continues_pursue activity s).trans (continues_pursueAll rest _)

end

/-! ## The invariant -/

theorem Step.inOrder {s t : Session σ} (hstep : e.Step s t) (h : e.InOrder s) :
    e.InOrder t := by
  cases hstep with
  | operate operation => exact (e.walk_perform operation s).inOrder h
  | outside k => exact ⟨h.sound, h.capacity⟩

theorem Continues.inOrder {s t : Session σ} (hruns : e.Continues s t) (h : e.InOrder s) :
    e.InOrder t := by
  induction hruns with
  | refl => exact h
  | tail _ hstep ih => exact hstep.inOrder ih

/-- Every reachable session is in order. -/
theorem Reachable.inOrder {s : Session σ} (h : e.Reachable s) : e.InOrder s := by
  obtain ⟨k, hruns⟩ := h
  exact hruns.inOrder (e.inOrder_start k)

theorem Reachable.trans {s t : Session σ} (h : e.Reachable s) (hruns : e.Continues s t) :
    e.Reachable t := by
  obtain ⟨k, hstart⟩ := h
  exact ⟨k, Relation.ReflTransGen.trans hstart hruns⟩

end Endpoint

namespace Station

/-- The session of a process in a world. -/
def session (station : Station) (w : World) : Session KernelState :=
  { kernel := { world := w, late := station.late }, process := station.process }

theorem reachable_start (pid : Pid) (config : Config) (w : World) :
    (start pid config).endpoint.Reachable ((start pid config).session w) :=
  ⟨_, Relation.ReflTransGen.refl⟩

end Station

namespace Endpoint

variable {σ : Type} {e : Endpoint σ}

/-- **The ledger after any activities in any reachable session**: it keeps the configured
capacity, its sequences are distinct, increasing and given out, no record waits to be handed
over, and a record has a response exactly if its message was received. -/
theorem ledger_after_pursueAll {s : Session σ} (h : e.Reachable s)
    (activities : List (Activity σ)) :
    let t := ((e.pursueAll activities).run s).2
    t.process.ledger.records.length ≤ e.config.ledgerCapacity ∧
      (t.process.ledger.records.map SentRecord.sequence).Nodup ∧
      t.process.ledger.records.Pairwise (fun r r' => r.sequence < r'.sequence) ∧
      (∀ r ∈ t.process.ledger.records, r.sequence < t.process.nextSequence) ∧
      (∀ r ∈ t.process.ledger.records, r.state ≠ .pending ∧ r.state ≠ .sending) ∧
      (∀ r ∈ t.process.ledger.records, r.response.isSome = true ↔ r.state = .received) := by
  intro t
  obtain ⟨hsound, hcapacity⟩ := (h.trans (continues_pursueAll activities s)).inOrder
  refine ⟨?_, hsound.nodup_sequences, hsound.increasing, hsound.givenOut, ?_, ?_⟩
  · rw [← hcapacity]
    exact hsound.within
  · intro r hr
    exact (hsound.coherent r hr).handed
  · intro r hr
    exact (hsound.coherent r hr).answered

/-- A message that the other side answers leaves one record, with a response. -/
theorem ledger_after_answered_send :
    let station := Station.start 7 Config.standard
    let t := ((station.endpoint.pursueAll
      [.operate (.send 9 0x1000 [1, 2] true none), .operate (.state 1)]).run
        (station.session World.start)).2
    t.process.ledger.records.map (fun r => (r.sequence, r.state, r.response)) =
        [(1, .received, some [])] ∧
      t.process.ledger.records.length ≤ Config.standard.ledgerCapacity := by
  refine ⟨by decide, ?_⟩
  exact (ledger_after_pursueAll (Station.reachable_start 7 Config.standard World.start)
    [.operate (.send 9 0x1000 [1, 2] true none), .operate (.state 1)]).1

end Endpoint

end Interprocess

import Interprocess.Proofs.Endpoint.Running
import Interprocess.Simulation.Station

/-!
# Kernels with a quiet clock

Nothing is assumed of a kernel in general.  What a query or a call takes depends on the clock
of the kernel, and what a query learns depends on which requests disturb the reports.  This
module names the assumptions under which both can be told, and shows that the simulated
kernel meets them.

**Assumptions.**
* `Kernel.StillClock`: no time passes in a query or in the log.
* `Kernel.InstantSend`: moreover no time passes in a send.
* `Kernel.PunctualUntil`: moreover a sleep takes exactly as long as asked if it ends before some
  time.
* `Kernel.SeparateReports`: to take the reports about one sequence, or to write to the log,
  leaves the reports about the others.

**Results.**
* `punctualUntil_kernel`, `separateReports_kernel`: the simulated kernel meets them.
-/

namespace Interprocess

namespace Kernel

variable {σ : Type}

/-- Whether no time passes in a query or in the log. -/
structure StillClock (K : Kernel σ) : Prop where
  reports : ∀ sequence k, K.now (K.reports sequence k).2 = K.now k
  log : ∀ line k, K.now (K.log line k) = K.now k

/-- Whether no time passes in a send either. -/
structure InstantSend (K : Kernel σ) : Prop extends StillClock K where
  send : ∀ envelope wantsFeedback sequence k,
    K.now (K.send envelope wantsFeedback sequence k).2 = K.now k

/-- Whether, up to a time, the clock moves in sleep only, and then as far as asked. -/
structure PunctualUntil (K : Kernel σ) (horizon : Nat) : Prop extends InstantSend K where
  sleep : ∀ ms k, K.now k + ms ≤ horizon → K.now (K.sleep ms k) = K.now k + ms

/-- Whether the reports about one sequence stay when those about another are taken. -/
structure SeparateReports (K : Kernel σ) : Prop where
  reports : ∀ {taken other}, other ≠ taken → ∀ k,
    (K.reports other (K.reports taken k).2).1 = (K.reports other k).1
  log : ∀ line sequence k, (K.reports sequence (K.log line k)).1 = (K.reports sequence k).1

theorem StillClock.logAll {K : Kernel σ} (h : K.StillClock) (lines : List String) (k : σ) :
    K.now (K.logAll lines k) = K.now k := by
  induction lines generalizing k with
  | nil => rfl
  | cons line rest ih => exact (ih (K.log line k)).trans (h.log line k)

theorem SeparateReports.logAll {K : Kernel σ} (h : K.SeparateReports) (lines : List String)
    (sequence : Sequence) (k : σ) :
    (K.reports sequence (K.logAll lines k)).1 = (K.reports sequence k).1 := by
  induction lines generalizing k with
  | nil => rfl
  | cons line rest ih => exact (ih (K.log line k)).trans (h.log line sequence k)

end Kernel

/-! ## The simulated kernel -/

namespace World

theorem clock_respond (envelope : Envelope) (w : World) :
    (w.respond envelope).2.clock = w.clock := by
  unfold respond
  split <;> rfl

theorem clock_send (sender : Pid) (envelope : Envelope) (wantsFeedback : Bool)
    (sequence : Sequence) (w : World) :
    (w.send sender envelope wantsFeedback sequence).2.clock = w.clock := by
  unfold send
  simp only
  split
  · rfl
  · split <;> exact clock_respond envelope _

theorem clock_takeReports (sender : Pid) (sequence : Sequence) (w : World) :
    (w.takeReports sender sequence).2.clock = w.clock := by
  unfold takeReports
  split <;> rfl

theorem takeReports_fst (sender : Pid) (sequence : Sequence) (w : World) :
    (w.takeReports sender sequence).1 = w.dueReports sender sequence := by
  unfold takeReports
  split
  · next hnone => exact hnone.symm
  · rfl

theorem dueReports_takeReports {taken other : Sequence} (hne : other ≠ taken) (sender : Pid)
    (w : World) :
    (w.takeReports sender taken).2.dueReports sender other = w.dueReports sender other := by
  unfold takeReports
  split
  · rfl
  · have hkey : (sender, other) ≠ (sender, taken) := by
      intro heq
      exact hne (congrArg Prod.snd heq)
    simp only [setReports, dueReports, Table.find?_insert_of_ne hkey]

end World

namespace KernelState

/-- The reports that are handed out are those of the world and the late ones that are due. -/
theorem takeReports_fst (pid : Pid) (sequence : Sequence) (k : KernelState) :
    (k.takeReports pid sequence).1 =
      k.world.dueReports pid sequence ++
        (Timetable.takeDue k.world.clock (k.lateReports sequence)).1 := by
  have hworld := World.takeReports_fst pid sequence k.world
  have hclock := World.clock_takeReports pid sequence k.world
  unfold takeReports fromWorld
  simp only [hclock, lateReports]
  split
  · next hnone => rw [hnone, hworld, List.append_nil]
  · next due left _ hdue => rw [hdue, hworld]

theorem lateReports_takeReports {taken other : Sequence} (hne : other ≠ taken) (pid : Pid)
    (k : KernelState) :
    (k.takeReports pid taken).2.lateReports other = k.lateReports other := by
  unfold takeReports fromWorld
  simp only
  split
  · rfl
  · simp only [lateReports, Table.find?_insert_of_ne hne]

theorem world_takeReports (pid : Pid) (sequence : Sequence) (k : KernelState) :
    (k.takeReports pid sequence).2.world = (k.world.takeReports pid sequence).2 := by
  unfold takeReports fromWorld
  simp only
  split <;> rfl

end KernelState

namespace Adjustments

variable {pid : Pid} {a : Adjustments}

theorem clock_send (pid : Pid) (a : Adjustments) (envelope : Envelope) (wantsFeedback : Bool)
    (sequence : Sequence) (k : KernelState) :
    (a.send pid envelope wantsFeedback sequence k).2.world.clock = k.world.clock := by
  have hworld := World.clock_send pid envelope wantsFeedback sequence k.world
  simp only [send, KernelState.fromWorld]
  rcases hsent : World.send pid envelope wantsFeedback sequence k.world with ⟨result, w⟩
  rw [hsent] at hworld
  cases result with
  | error fault => exact hworld
  | ok _ =>
      simp only
      split
      · split <;> exact hworld
      · exact hworld

theorem stillClock_kernel : (a.kernel pid).StillClock where
  reports := by
    intro sequence k
    simp only [kernel]
    rw [KernelState.world_takeReports, World.clock_takeReports]
  log := fun _ _ => rfl

theorem instantSend_kernel : (a.kernel pid).InstantSend where
  toStillClock := stillClock_kernel
  send := clock_send pid a

/-- A simulated kernel that does not oversleep is punctual until its clock starts over. -/
theorem punctualUntil_kernel (hsleep : a.oversleep = 0) {horizon : Nat}
    (hhorizon : horizon < clockPeriod) :
    (a.kernel pid).PunctualUntil horizon where
  toInstantSend := instantSend_kernel
  sleep := by
    intro ms k hms
    simp only [kernel, KernelState.onWorld, World.advance] at hms ⊢
    rw [hsleep]
    exact timeAfter_of_lt (Nat.lt_of_le_of_lt hms hhorizon)

/-- A simulated kernel keeps the reports about different sequences apart. -/
theorem separateReports_kernel : (a.kernel pid).SeparateReports where
  reports := by
    intro taken other hne k
    simp only [kernel]
    rw [KernelState.takeReports_fst, KernelState.takeReports_fst,
      KernelState.world_takeReports, KernelState.lateReports_takeReports hne,
      World.dueReports_takeReports hne, World.clock_takeReports]
  log := by
    intro line sequence k
    simp only [kernel]
    rw [KernelState.takeReports_fst, KernelState.takeReports_fst]
    rfl

end Adjustments

end Interprocess

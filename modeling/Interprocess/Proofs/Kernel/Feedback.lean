import Interprocess.Proofs.Kernel.Clock

/-!
# Reports one at a time

A process asks its kernel for the reports about a sequence until there are none.  A `Kernel`
sums these requests up in one; this module says which sequence of requests that is, and that
nothing is left behind.

**Assumption.**  `K.OneByOne next` says that `K` hands out with one request what the request
`next`, made again and again, hands out until it hands out nothing.

**Result.**
* `oneByOne_kernel`: the simulated kernel hands out reports as `KernelState.takeReport` does,
  first those of the world and then the late ones that are due.
-/

namespace Interprocess

/-- To store under a key twice is to store the second value. -/
theorem Table.insert_insert {α β : Type} [DecidableEq α] (key : α) (first second : β)
    (table : Table α β) :
    (table.insert key first).insert key second = table.insert key second := by
  induction table with
  | nil => simp [Table.insert]
  | cons entry rest ih =>
      obtain ⟨k, v⟩ := entry
      by_cases h : k = key <;> simp [Table.insert, h, ih]

/-- The request `next`, made once for each of these reports, hands them out in order. -/
inductive TakesOut {σ : Type} (next : σ → Option Feedback × σ) : σ → List Feedback → σ → Prop
  | nil (k : σ) : TakesOut next k [] k
  | cons {k k' k'' : σ} {report : Feedback} {reports : List Feedback}
      (first : next k = (some report, k')) (rest : TakesOut next k' reports k'') :
      TakesOut next k (report :: reports) k''

theorem TakesOut.append {σ : Type} {next : σ → Option Feedback × σ} {k k' k'' : σ}
    {earlier later : List Feedback} (h : TakesOut next k earlier k')
    (hlater : TakesOut next k' later k'') :
    TakesOut next k (earlier ++ later) k'' := by
  induction h with
  | nil => exact hlater
  | cons first _ ih => exact .cons first (ih hlater)

/-- Whether a kernel hands out, with one request, what `next` hands out until it hands out
nothing; and a line in the log brings no reports. -/
structure Kernel.OneByOne {σ : Type} (K : Kernel σ)
    (next : Sequence → σ → Option Feedback × σ) : Prop where
  reports : ∀ sequence k,
    TakesOut (next sequence) k (K.reports sequence k).1 (K.reports sequence k).2
  exhausted : ∀ sequence k, (next sequence (K.reports sequence k).2).1 = none
  log : ∀ line sequence k, (next sequence (K.log line k)).1 = (next sequence k).1

theorem Kernel.OneByOne.logAll {σ : Type} {K : Kernel σ}
    {next : Sequence → σ → Option Feedback × σ} (h : K.OneByOne next) (lines : List String)
    (sequence : Sequence) (k : σ) :
    (next sequence (K.logAll lines k)).1 = (next sequence k).1 := by
  induction lines generalizing k with
  | nil => rfl
  | cons line rest ih => exact (ih (K.log line k)).trans (h.log line sequence k)

namespace World

theorem dueReports_setReports (sender : Pid) (sequence : Sequence) (reports : List Feedback)
    (w : World) :
    (w.setReports sender sequence reports).dueReports sender sequence = reports := by
  simp [dueReports, setReports]

theorem setReports_setReports (sender : Pid) (sequence : Sequence)
    (first second : List Feedback) (w : World) :
    (w.setReports sender sequence first).setReports sender sequence second =
      w.setReports sender sequence second := by
  simp [setReports, Table.insert_insert]

theorem dueReports_takeReports_self (sender : Pid) (sequence : Sequence) (w : World) :
    (w.takeReports sender sequence).2.dueReports sender sequence = [] := by
  unfold takeReports
  split
  · next hnone => exact hnone
  · exact dueReports_setReports sender sequence [] w

end World

namespace Timetable

theorem takeDue_of_fst_eq_nil {now : Nat} {entries : Timetable}
    (h : (takeDue now entries).1 = []) :
    takeDue now entries = ([], entries) := by
  cases entries with
  | nil => rfl
  | cons entry rest =>
      simp only [takeDue] at h ⊢
      split
      · next hdue => simp [hdue] at h
      · rfl

/-- What is left is not due. -/
theorem takeDue_left (now : Nat) (entries : Timetable) :
    (takeDue now (takeDue now entries).2).1 = [] := by
  induction entries with
  | nil => rfl
  | cons entry rest ih =>
      by_cases hdue : entry.1 ≤ now
      · simpa [takeDue, hdue] using ih
      · simp [takeDue, hdue]

end Timetable

namespace KernelState

variable {pid : Pid} {sequence : Sequence} {k : KernelState}

theorem takeReport_of_due {report : Feedback} {rest : List Feedback}
    (h : k.world.dueReports pid sequence = report :: rest) :
    k.takeReport pid sequence = (some report, k.onWorld (World.setReports pid sequence rest)) := by
  simp [takeReport, h]

theorem takeReport_of_late {due : Nat} {report : Feedback} {rest : Timetable}
    (hnone : k.world.dueReports pid sequence = [])
    (h : k.lateReports sequence = (due, report) :: rest) (hdue : due ≤ k.world.clock) :
    k.takeReport pid sequence =
      (some report, { k with late := k.late.insert sequence rest }) := by
  simp [takeReport, hnone, h, hdue]

/-- The first report that is handed out is the first one that is due. -/
theorem takeReport_fst (pid : Pid) (sequence : Sequence) (k : KernelState) :
    (k.takeReport pid sequence).1 = (k.takeReports pid sequence).1.head? := by
  rw [takeReports_fst]
  unfold takeReport
  split
  · next hdue => simp [hdue]
  · next hnone =>
      rw [hnone, List.nil_append]
      split
      · next hlate =>
          rw [hlate, Timetable.takeDue]
          split <;> rfl
      · next hlate => rw [hlate]; rfl

/-- The reports of the world are handed out one by one. -/
theorem takesOut_due {report : Feedback} {rest : List Feedback}
    (h : k.world.dueReports pid sequence = report :: rest) :
    TakesOut (takeReport pid sequence) k (report :: rest)
      (k.onWorld (World.setReports pid sequence [])) := by
  induction rest generalizing report k with
  | nil => exact .cons (takeReport_of_due h) (.nil _)
  | cons second rest ih =>
      refine .cons (takeReport_of_due h) ?_
      have hrest := ih (k := k.onWorld (World.setReports pid sequence (second :: rest)))
        (World.dueReports_setReports ..)
      simpa only [onWorld, World.setReports_setReports] using hrest

/-- When the world has none, the late reports that are due are handed out one by one. -/
theorem takesOut_late {entries left : Timetable} {report : Feedback} {rest : List Feedback}
    (hnone : k.world.dueReports pid sequence = []) (h : k.lateReports sequence = entries)
    (hdue : Timetable.takeDue k.world.clock entries = (report :: rest, left)) :
    TakesOut (takeReport pid sequence) k (report :: rest)
      { k with late := k.late.insert sequence left } := by
  induction entries generalizing report rest k with
  | nil => cases hdue
  | cons entry entries ih =>
      obtain ⟨due, news⟩ := entry
      simp only [Timetable.takeDue] at hdue
      split at hdue
      · next hnow =>
          have hfirst := takeReport_of_late hnone h hnow
          rcases hmore : Timetable.takeDue k.world.clock entries with ⟨more, left⟩
          rw [hmore] at hdue
          cases hdue
          refine .cons hfirst ?_
          cases more with
          | nil =>
              have hleft := Timetable.takeDue_of_fst_eq_nil (congrArg Prod.fst hmore)
              rw [hmore] at hleft
              obtain rfl : left = entries := congrArg Prod.snd hleft
              exact .nil _
          | cons second later =>
              have hrest := ih (k := { k with late := k.late.insert sequence entries }) hnone
                (by simp [lateReports]) hmore
              simpa only [Table.insert_insert] using hrest
      · cases hdue

/-- All reports that are due are what is handed out one by one, until there is nothing. -/
theorem takesOut_takeReports (pid : Pid) (sequence : Sequence) (k : KernelState) :
    TakesOut (takeReport pid sequence) k (k.takeReports pid sequence).1
      (k.takeReports pid sequence).2 := by
  let afterWorld := (k.fromWorld (World.takeReports pid sequence)).2
  have hworld : TakesOut (takeReport pid sequence) k
      (k.fromWorld (World.takeReports pid sequence)).1 afterWorld := by
    simp only [afterWorld, fromWorld, World.takeReports]
    split
    · exact .nil k
    · next reports hsome =>
        rcases hreports : k.world.dueReports pid sequence with _ | ⟨report, rest⟩
        · exact absurd hreports hsome
        · exact takesOut_due hreports
  have hnone : afterWorld.world.dueReports pid sequence = [] :=
    World.dueReports_takeReports_self pid sequence k.world
  unfold takeReports
  simp only
  split
  · exact hworld
  · next due left hsome hdue =>
      rcases due with _ | ⟨report, rest⟩
      · exact absurd rfl hsome
      · exact hworld.append (takesOut_late hnone rfl hdue)

/-- Nothing is left that is due. -/
theorem takeReport_takeReports (pid : Pid) (sequence : Sequence) (k : KernelState) :
    ((k.takeReports pid sequence).2.takeReport pid sequence).1 = none := by
  have hnone : (k.takeReports pid sequence).2.world.dueReports pid sequence = [] := by
    rw [world_takeReports]
    exact World.dueReports_takeReports_self pid sequence k.world
  rw [takeReport_fst, takeReports_fst, hnone, List.nil_append, List.head?_eq_none_iff]
  unfold takeReports
  simp only
  split
  · next hdue => exact congrArg Prod.fst hdue
  · next due left hsome hdue =>
      obtain rfl : _ = left := congrArg Prod.snd hdue
      simpa [lateReports] using Timetable.takeDue_left _ _

end KernelState

/-- The simulated kernel hands out reports one at a time. -/
theorem Adjustments.oneByOne_kernel {pid : Pid} {a : Adjustments} :
    (a.kernel pid).OneByOne (KernelState.takeReport pid) where
  reports := KernelState.takesOut_takeReports pid
  exhausted := KernelState.takeReport_takeReports pid
  log := by
    intro line sequence k
    rw [KernelState.takeReport_fst, KernelState.takeReport_fst]
    exact congrArg List.head? (separateReports_kernel.log line sequence k)

end Interprocess

import Interprocess.Proofs.Endpoint.Reachable
import Interprocess.Simulation.System
import Interprocess.Simulation.WorldStep

/-!
# Runs of a system

A system of processes goes from one state to the next when the world changes on its own, when a
process is started or its kernel adjusted, when a process carries out an operation, or when it
calls its kernel past the library.  The processes take these steps in any order.  Handing an
announcement to the handlers is no step of its own: what they do are further steps.

**Input.**  `raw` says which calls past the library are made.

**Results.**
* `perform_eq_some`: an operation of a process is a run of its endpoint, with the world as the
  state of its kernel.
* `spawn_eq`: a process that is started only greets.
* `continues_dispatchNotice`, `Run.continues`: a run goes through what the handlers of an
  announcement do.
* `Step.pids_prefix`: a process keeps its address for ever.
* `Run.ordered`: in every run every process is in order.
-/

namespace Interprocess

namespace Station

/-- The process as a session leaves it. -/
def resume (t : Session KernelState) (station : Station) : Station :=
  { station with late := t.kernel.late, process := t.process }

/-- The session after an operation. -/
def after (operation : Operation) (station : Station) (w : World) : Session KernelState :=
  ((station.endpoint.perform operation).run (station.session w)).2

/-- What is answered to an operation. -/
def answer (operation : Operation) (station : Station) (w : World) : Answer :=
  ((station.endpoint.perform operation).run (station.session w)).1

/-- To write lines to the log of a process is to write them to that of the world. -/
theorem world_logAll {station : Station} (lines : List String) (k : KernelState) :
    station.endpoint.kernel.logAll lines k =
      k.onWorld fun w => { w with lines := w.lines ++ lines } := by
  induction lines generalizing k with
  | nil =>
      rw [KernelState.onWorld, List.append_nil]
      rfl
  | cons line rest ih =>
      have hrest := ih (k.onWorld (World.log line))
      simp only [KernelState.onWorld, World.log, List.append_assoc, List.singleton_append] at hrest
      exact hrest

theorem course_after (station : Station) (operation : Operation) (w : World) :
    station.endpoint.Course operation station.process.nextSequence (station.session w)
      (station.after operation w) :=
  station.endpoint.course_perform operation (station.session w)

end Station

/-- The kernel does not matter to the order of a session. -/
theorem Endpoint.InOrder.congr {σ τ : Type} {e : Endpoint σ} {e' : Endpoint τ} {s : Session σ}
    {t : Session τ} (h : e.InOrder s) (hconfig : e'.config = e.config)
    (hprocess : t.process = s.process) :
    e'.InOrder t where
  sound := by
    rw [hprocess]
    exact h.sound
  capacity := by
    rw [hprocess, hconfig]
    exact h.capacity

namespace System

/-- The addresses of the processes, in the order in which they were started. -/
def pids (s : System) : List Pid := s.stations.map Station.pid

/-- One step of a system. -/
inductive Step (raw : KernelCall → Prop) : System → System → Prop
  | world (step : WorldStep) (s : System) :
      Step raw s (s.onWorld fun w => (w.perform step).2)
  | spawn (pid : Pid) (config : Config) (s : System) : Step raw s (s.spawn pid config).2
  | adjust {id : StationId} {changes : List Adjustment} {s t : System}
      (h : s.adjust id changes = some t) : Step raw s t
  | operate {id : StationId} {operation : Operation} {s t : System} {answer : Answer}
      (h : s.perform id operation = some (answer, t)) : Step raw s t
  | callKernel {id : StationId} {call : KernelCall} {s t : System} {answer : Answer}
      (hraw : raw call) (h : s.callKernel id call = some (answer, t)) : Step raw s t

/-- Whether a system comes to be in a run, after the systems of `history`, the last one first. -/
inductive Run (raw : KernelCall → Prop) : List System → System → Prop
  | start : Run raw [] start
  | step {history : List System} {s t : System} (h : Run raw history s) (hstep : Step raw s t) :
      Run raw (s :: history) t

/-- Whether some step of a run has a property, which may speak of what came before it. -/
inductive Had (P : List System → System → System → Prop) : List System → System → Prop
  | now {history : List System} {before s : System} (h : P history before s) :
      Had P (before :: history) s
  | earlier {history : List System} {before : System} (h : Had P history before)
      (s : System) : Had P (before :: history) s

/-- Whether a step is an operation of a process with this address. -/
def Performs (pid : Pid) (operation : Operation) (s t : System) : Prop :=
  ∃ id station answer, s.station? id = some station ∧ station.pid = pid ∧
    s.perform id operation = some (answer, t)

/-- Whether a system is followed by another, after any number of steps. -/
def Continues (raw : KernelCall → Prop) : System → System → Prop :=
  Relation.ReflTransGen (Step raw)

variable {raw : KernelCall → Prop} {id other : StationId} {operation : Operation}
variable {s t : System} {answer : Answer} {station : Station} {history : List System}

/-- A run goes on through all steps that follow. -/
theorem Run.continues (h : Run raw history s) (hruns : Continues raw s t) :
    ∃ later, Run raw (later ++ history) t := by
  induction hruns with
  | refl => exact ⟨[], h⟩
  | tail _ hstep ih =>
      obtain ⟨later, hrun⟩ := ih
      exact ⟨_ :: later, hrun.step hstep⟩

/-- A run goes through what the handlers do, of whichever processes. -/
theorem continues_dispatchNotice {table : StateM System CallbackTable}
    (htable : ∀ s, (table.run s).2 = s) {react : Callback → ShutdownNotice → StateM System Unit}
    (h : ∀ callback notice s, Continues raw s ((react callback notice).run s).2)
    (envelope : Envelope) (s : System) :
    Continues raw s ((dispatchNotice table react envelope).run s).2 :=
  Endpoint.keeps_dispatchNotice (P := Continues raw s) htable
    (fun callback notice t hruns => Relation.ReflTransGen.trans hruns (h callback notice t))
    envelope Relation.ReflTransGen.refl

/-- A system after an operation of one of its processes. -/
def operated (id : StationId) (station : Station) (operation : Operation) (s : System) : System :=
  { world := (station.after operation s.world).kernel.world
    stations := s.stations.set id (station.resume (station.after operation s.world)) }

/-- An operation of a process is a run of its endpoint. -/
theorem perform_eq_some (h : s.perform id operation = some (answer, t)) :
    ∃ station, s.station? id = some station ∧
      answer = ((station.endpoint.perform operation).run (station.session s.world)).1 ∧
      t = s.operated id station operation := by
  obtain ⟨station, hstation, hacted⟩ := Option.map_eq_some_iff.1 h
  refine ⟨station, hstation, ?_⟩
  cases hacted
  exact ⟨rfl, rfl⟩

theorem perform_of_station? (h : s.station? id = some station) (operation : Operation) :
    s.perform id operation =
      some (station.answer operation s.world, s.operated id station operation) := by
  unfold perform act
  rw [h]
  rfl

/-- An operation that leaves the session as it was leaves the system as it was. -/
theorem perform_of_run (h : s.station? id = some station)
    (hrun : (station.endpoint.perform operation).run (station.session s.world) =
      (answer, station.session s.world)) :
    s.perform id operation = some (answer, s) := by
  have hafter : station.after operation s.world = station.session s.world :=
    congrArg Prod.snd hrun
  have hsame : s.operated id station operation = s := by
    obtain ⟨hlt, hget⟩ := List.getElem?_eq_some_iff.1 h
    have hresume : station.resume (station.session s.world) = station := rfl
    rw [operated, hafter, hresume]
    refine congrArg (System.mk s.world) ?_
    rw [← hget, List.set_getElem_self]
  rw [perform_of_station? h, hsame]
  exact congrArg (fun answer => some (answer, s)) (congrArg Prod.fst hrun)

theorem step_after (h : s.station? id = some station) (operation : Operation) :
    Step raw s (s.operated id station operation) :=
  .operate (perform_of_station? h operation)

theorem adjust_eq_some {changes : List Adjustment} (h : s.adjust id changes = some t) :
    ∃ station adjustments, s.station? id = some station ∧
      t = { world := s.world,
            stations := s.stations.set id { station with adjustments := adjustments } } := by
  obtain ⟨station, hstation, hadjusted⟩ := Option.map_eq_some_iff.1 h
  exact ⟨station, _, hstation, hadjusted.symm⟩

theorem callKernel_eq_some {call : KernelCall} (h : s.callKernel id call = some (answer, t)) :
    ∃ station, s.station? id = some station ∧
      ∃ k, k = (call.perform station.pid station.adjustments
          (station.session s.world).kernel).2 ∧
        t = { world := k.world,
              stations := s.stations.set id { station with late := k.late } } := by
  obtain ⟨station, hstation, hcalled⟩ := Option.map_eq_some_iff.1 h
  cases hcalled
  exact ⟨station, hstation, _, rfl, rfl⟩

/-- A process that is started gets a mailbox and writes a line. -/
theorem spawn_eq (pid : Pid) (config : Config) (s : System) :
    ∃ line, (s.spawn pid config).2 =
      { world := (s.world.openMailbox pid).log line,
        stations := s.stations ++ [Station.start pid config] } :=
  ⟨_, rfl⟩

theorem station?_set_self (h : s.station? id = some station) (w : World)
    (station' : Station) :
    station? id { world := w, stations := s.stations.set id station' } = some station' := by
  obtain ⟨hlt, -⟩ := List.getElem?_eq_some_iff.1 h
  exact List.getElem?_set_self hlt

theorem station?_set_of_ne (h : other ≠ id) (w : World) (station : Station) :
    station? other { world := w, stations := s.stations.set id station } =
      s.station? other :=
  List.getElem?_set_ne (Ne.symm h)

theorem station?_set_cases (h : s.station? id = some station) {w : World}
    {station' found : Station}
    (hfound : station? other { world := w, stations := s.stations.set id station' } =
      some found) :
    other = id ∧ found = station' ∨ other ≠ id ∧ s.station? other = some found := by
  by_cases hother : other = id
  · subst hother
    rw [station?_set_self h] at hfound
    exact Or.inl ⟨rfl, (Option.some.inj hfound).symm⟩
  · rw [station?_set_of_ne hother] at hfound
    exact Or.inr ⟨hother, hfound⟩

theorem station?_append_cases {w : World} {new found : Station}
    (h : station? other { world := w, stations := s.stations ++ [new] } = some found) :
    s.station? other = some found ∨ found = new := by
  rcases Nat.lt_or_ge other s.stations.length with hlt | hge
  · exact Or.inl ((List.getElem?_append_left hlt).symm.trans h)
  · have hnew := (List.getElem?_append_right hge).symm.trans h
    exact Or.inr (List.mem_singleton.1 (List.mem_of_getElem? hnew))

theorem prefix_set (h : s.station? id = some station) (w : World) {station' : Station}
    (hpid : station'.pid = station.pid) :
    s.pids <+: pids { world := w, stations := s.stations.set id station' } := by
  obtain ⟨hlt, hget⟩ := List.getElem?_eq_some_iff.1 h
  have hbound : id < (s.stations.map Station.pid).length := by simpa using hlt
  have hsame : (s.stations.map Station.pid)[id] = station.pid := by
    rw [List.getElem_map, hget]
  simp only [pids, List.map_set, hpid, ← hsame, List.set_getElem_self, List.prefix_rfl]

theorem mem_pids_iff {pid : Pid} :
    pid ∈ s.pids ↔ ∃ id station, s.station? id = some station ∧ station.pid = pid := by
  constructor
  · intro h
    obtain ⟨station, hmem, hpid⟩ := List.mem_map.1 h
    obtain ⟨id, hstation⟩ := List.mem_iff_getElem?.1 hmem
    exact ⟨id, station, hstation, hpid⟩
  · rintro ⟨id, station, hstation, hpid⟩
    exact List.mem_map.2 ⟨station, List.mem_iff_getElem?.2 ⟨id, hstation⟩, hpid⟩

/-- A process keeps its address for ever. -/
theorem Step.pids_prefix (h : Step raw s t) : s.pids <+: t.pids := by
  cases h with
  | world => exact List.prefix_rfl
  | spawn =>
      simp only [pids, System.spawn, List.map_append]
      exact List.prefix_append _ _
  | adjust h =>
      obtain ⟨station, adjustments, hstation, rfl⟩ := adjust_eq_some h
      exact prefix_set hstation _ rfl
  | operate h =>
      obtain ⟨station, hstation, -, rfl⟩ := perform_eq_some h
      exact prefix_set hstation _ rfl
  | callKernel _ h =>
      obtain ⟨station, hstation, k, -, rfl⟩ := callKernel_eq_some h
      exact prefix_set hstation _ rfl

/-- Whether every process of a system is in order. -/
def Ordered (s : System) : Prop :=
  ∀ id station, s.station? id = some station → station.endpoint.InOrder (station.session s.world)

/-- Only operations touch the ledger of a process, and they keep it in order. -/
theorem Step.ordered (hstep : Step raw s t) (h : s.Ordered) : t.Ordered := by
  intro other found hfound
  cases hstep with
  | world step s => exact (h other found hfound).congr rfl rfl
  | spawn pid config s =>
      obtain ⟨line, hspawn⟩ := spawn_eq pid config s
      rw [hspawn] at hfound
      rcases station?_append_cases hfound with hold | rfl
      · exact (h other found hold).congr rfl rfl
      · exact Endpoint.inOrder_start _ _
  | adjust hadjust =>
      obtain ⟨station, adjustments, hstation, rfl⟩ := adjust_eq_some hadjust
      rcases station?_set_cases hstation hfound with ⟨-, rfl⟩ | ⟨-, hold⟩
      · exact (h _ station hstation).congr rfl rfl
      · exact (h other found hold).congr rfl rfl
  | @operate id operation _ _ _ hperform =>
      obtain ⟨station, hstation, -, rfl⟩ := perform_eq_some hperform
      rcases station?_set_cases hstation hfound with ⟨-, rfl⟩ | ⟨-, hold⟩
      · have hcourse := station.course_after operation s.world
        exact (hcourse.walk.inOrder (h id station hstation)).congr rfl rfl
      · exact (h other found hold).congr rfl rfl
  | callKernel _ hcall =>
      obtain ⟨station, hstation, k, -, rfl⟩ := callKernel_eq_some hcall
      rcases station?_set_cases hstation hfound with ⟨-, rfl⟩ | ⟨-, hold⟩
      · exact (h _ station hstation).congr rfl rfl
      · exact (h other found hold).congr rfl rfl

/-- In every run every process is in order. -/
theorem Run.ordered (h : Run raw history s) : s.Ordered := by
  induction h with
  | start => exact fun _ _ hstation => nomatch hstation
  | step _ hstep ih => exact hstep.ordered ih

/-- Processes with different addresses had different ones before. -/
theorem Step.nodup_pids (h : Step raw s t) (hpids : t.pids.Nodup) : s.pids.Nodup :=
  hpids.sublist h.pids_prefix.sublist

theorem eq_of_pid_eq (hpids : s.pids.Nodup) {station' : Station}
    (h : s.station? id = some station) (h' : s.station? other = some station')
    (heq : station.pid = station'.pid) :
    id = other := by
  have hid : s.pids[id]? = some station.pid := by
    rw [pids, List.getElem?_map, show s.stations[id]? = some station from h]
    rfl
  have hother : s.pids[other]? = some station.pid := by
    rw [heq, pids, List.getElem?_map, show s.stations[other]? = some station' from h']
    rfl
  obtain ⟨hlt, -⟩ := List.getElem?_eq_some_iff.1 hid
  exact (List.getElem?_inj hlt hpids).1 (hid.trans hother.symm)

end System

end Interprocess

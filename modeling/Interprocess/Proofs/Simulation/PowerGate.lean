import Interprocess.Proofs.Grant.Rights
import Interprocess.Proofs.Simulation.Custody

/-!
# Power is gated by grants

A token is a value that anybody may copy or make up, and the authority may even put another owner
on it.  None of this brings the machine down: what counts is what the authority keeps for a
process, and there is nothing kept that the process did not ask for itself.

**Input.**  Any run of a system in which the processes use the library only.  Several of them may
have the same address.

**Results.**
* `Run.granted`: what is granted to a process is what it asked for, and never gave back.
* `machine_of_step`: a step that does something to the machine is a request for power.
* `power_is_gated`: how the machine goes down, and stays up.
-/

namespace Interprocess

/-! ## One capability of many tokens -/

/-- To go down takes one capability, which is a single bit. -/
theorem PowerKind.exists_only_bit (kind : PowerKind) :
    ∃ only, ∀ bit, Capability.has kind.capability bit = true ↔ bit = only := by
  have hpower : ∀ i < 32, ∀ bit, (BitVec.twoPow 32 i).getLsbD bit = true ↔ bit = i := by
    intro i hi bit
    rw [BitVec.getLsbD_twoPow]
    simp only [Bool.and_eq_true, decide_eq_true_eq]
    omega
  cases kind with
  | shutdown => exact ⟨0, hpower 0 (by decide)⟩
  | reboot => exact ⟨1, hpower 1 (by decide)⟩

/-- A right to bring the machine down is held by one token or another, not by several together. -/
theorem Token.exists_of_held {kind : PowerKind} {pid : Pid} {now : Nat} {tokens : List Token}
    (h : Capability.includes (held pid now tokens) kind.capability = true) :
    ∃ token ∈ tokens, token.isValidFor pid kind.capability now = true := by
  obtain ⟨only, honly⟩ := kind.exists_only_bit
  obtain ⟨token, hmem, hid, howner, htime, hhas⟩ := includes_held_iff.1 h only ((honly only).2 rfl)
  have hcovers : Capability.includes token.capabilities kind.capability = true := by
    refine Capability.includes_iff.2 fun bit hbit => ?_
    rw [(honly bit).1 hbit]
    exact hhas
  exact ⟨token, hmem, isValidFor_iff.2 ⟨hid, howner, htime, beq_iff_eq.1 hcovers⟩⟩

namespace System

/-- The calls past the library that are made when processes use the library only. -/
def LibraryOnly (_ : KernelCall) : Prop := False

/-- Whether a token is what the authority keeps of a grant that process `pid` asked for.  It was
kept ever since, and only requests of the process itself extended it. -/
inductive Granted (pid : Pid) : Token → List System → System → Prop
  | acquired {history : List System} {s t : System} {token : Token} {capabilities : UInt32}
      {text : String} {seconds : Nat}
      (hacquire : Performs pid (.acquire capabilities text seconds) s t)
      (htoken : token =
        { id := s.world.nextToken, capabilities, owner := pid,
          validUntil := timeAfter s.world.wallclock seconds,
          description := Text.cut maxDescriptionLength text })
      (hmem : token ∈ t.world.grantsOf pid) :
      Granted pid token (s :: history) t
  | kept {history : List System} {s t : System} {token : Token}
      (h : Granted pid token history s) (hmem : token ∈ t.world.grantsOf pid) :
      Granted pid token (s :: history) t
  | renewed {history : List System} {s t : System} {token old copy : Token} {seconds : Nat}
      (h : Granted pid old history s) (hrenew : Performs pid (.renew copy seconds) s t)
      (hid : old.id = copy.id)
      (htoken : token = { old with validUntil := timeAfter old.validUntil seconds })
      (hmem : token ∈ t.world.grantsOf pid) :
      Granted pid token (s :: history) t

/-- Whether process `pid` has a grant of its own that is good and carries a capability. -/
def Entitled (pid : Pid) (required : UInt32) (history : List System) (s : System) : Prop :=
  ∃ token ∈ s.world.grantsOf pid, token.id ≠ 0 ∧ token.owner = pid ∧
    s.world.wallclock ≤ token.validUntil ∧ token.capabilities &&& required = required ∧
      Granted pid token history s

/-- Whether a step is the request of an entitled process to bring the machine down, and is noted
as this call. -/
def BringsDown (call : PowerCall) (history : List System) (s t : System) : Prop :=
  Entitled call.caller call.kind.capability history s ∧
    (∃ reason text, call.reason = reason.number ∧
      call.message = call.kind.announcedMessage text ∧
        Performs call.caller (.powerOff call.kind reason call.flags text) s t) ∧
    t.world.machine =
      (s.world.powerOff call.caller call.kind call.reason call.flags call.message).machine

/-- Whether a step is the request of an entitled process to stay up. -/
def StaysUp (pid : Pid) (history : List System) (s t : System) : Prop :=
  Entitled pid Capability.shutdown history s ∧ Performs pid .cancelPowerOff s t ∧
    t.world.machine = s.world.cancelPowerOff.2.machine

variable {s t : System} {history : List System} {pid : Pid} {token : Token}

/-! ## Steps -/

/-- What happens without an operation leaves the grants and the machine alone. -/
theorem rights_of_step (hstep : Step LibraryOnly s t) :
    (t.world.grants = s.world.grants ∧ t.world.machine = s.world.machine) ∨
      ∃ (station : Station) (operation : Operation), Performs station.pid operation s t ∧
        t.world = (station.after operation s.world).kernel.world := by
  cases hstep with
  | world step =>
      left
      cases step <;> exact ⟨rfl, rfl⟩
  | spawn pid config =>
      obtain ⟨line, hspawn⟩ := spawn_eq pid config s
      rw [hspawn]
      exact Or.inl ⟨rfl, rfl⟩
  | adjust hadjust =>
      obtain ⟨station, adjustments, -, rfl⟩ := adjust_eq_some hadjust
      exact Or.inl ⟨rfl, rfl⟩
  | operate hperform =>
      obtain ⟨station, hstation, -, rfl⟩ := perform_eq_some hperform
      exact Or.inr ⟨station, _, ⟨_, station, _, hstation, rfl, hperform⟩, rfl⟩
  | callKernel hraw => exact hraw.elim

/-- What is granted to a process changes only by what a process with its address asks for. -/
theorem grantsOf_of_step (hstep : Step LibraryOnly s t) (pid : Pid) :
    t.world.grantsOf pid = s.world.grantsOf pid ∨
      ∃ operation, operation.isGrant = true ∧ Performs pid operation s t := by
  rcases rights_of_step hstep with ⟨hgrants, -⟩ | ⟨station, operation, hperforms, hworld⟩
  · rw [World.grantsOf, hgrants]
    exact Or.inl rfl
  · by_cases hpid : pid = station.pid
    · subst hpid
      cases hgrant : operation.isGrant with
      | false =>
          left
          rw [hworld]
          exact World.grantsOf_congr
            (Station.grants_of_course (station.course_after operation s.world) hgrant) _
      | true => exact Or.inr ⟨operation, hgrant, hperforms⟩
    · left
      rw [hworld]
      exact Station.grantsOf_after_of_ne hpid operation s.world

/-- What is granted after a step was granted before, or was asked for. -/
theorem Granted.of_step (hstep : Step LibraryOnly s t) (hmem : token ∈ t.world.grantsOf pid)
    (h : ∀ token ∈ s.world.grantsOf pid, Granted pid token history s) :
    Granted pid token (s :: history) t := by
  -- Only a token that was not there before needs the operation that brought it.
  by_cases hold : token ∈ s.world.grantsOf pid
  · exact .kept (h token hold) hmem
  rcases rights_of_step hstep with ⟨hgrants, -⟩ | ⟨station, operation, hperforms, hworld⟩
  · rw [World.grantsOf, hgrants] at hmem
    exact absurd hmem hold
  · have hafter := hmem
    rw [hworld] at hafter
    by_cases hpid : pid = station.pid
    · subst hpid
      rcases Station.mem_grantsOf_after hafter with
        hbefore | ⟨capabilities, text, seconds, rfl, htoken⟩ |
          ⟨copy, seconds, old, rfl, hgranted, hid, htoken⟩
      · exact absurd hbefore hold
      · exact .acquired hperforms htoken hmem
      · exact .renewed (h old hgranted) hperforms hid htoken hmem
    · rw [Station.grantsOf_after_of_ne hpid] at hafter
      exact absurd hafter hold

/-- A step that does something to the machine is a request for power, made by who holds the
capability. -/
theorem machine_of_step (hstep : Step LibraryOnly s t) :
    t.world.machine = s.world.machine ∨ ∃ station : Station,
      (∃ kind reason flags text, station.holds kind.capability s.world = true ∧
        Performs station.pid (.powerOff kind reason flags text) s t ∧
          t.world.machine = (s.world.powerOff station.pid kind reason.number flags
            (kind.announcedMessage text)).machine) ∨
      (station.holds Capability.shutdown s.world = true ∧
        Performs station.pid .cancelPowerOff s t ∧
          t.world.machine = s.world.cancelPowerOff.2.machine) := by
  rcases rights_of_step hstep with ⟨-, hmachine⟩ | ⟨station, operation, hperforms, hworld⟩
  · exact Or.inl hmachine
  · rw [hworld]
    cases hpower : operation.isPower with
    | false =>
        exact Or.inl
          (Station.machine_of_course (station.course_after operation s.world) hpower)
    | true =>
        cases operation with
        | powerOff kind reason flags text =>
            exact (Station.machine_after_powerOff kind reason flags text s.world).imp_right
              fun ⟨hholds, hmachine⟩ => ⟨station,
                Or.inl ⟨kind, reason, flags, text, hholds, hperforms, hmachine⟩⟩
        | cancelPowerOff =>
            exact (Station.machine_after_cancelPowerOff s.world).imp_right
              fun ⟨hholds, hmachine⟩ => ⟨station, Or.inr ⟨hholds, hperforms, hmachine⟩⟩
        | _ => cases hpower

/-! ## Runs -/

/-- What is granted to a process is what it asked for, and never gave back. -/
theorem Run.granted (h : Run LibraryOnly history s) {pid : Pid} {token : Token}
    (hmem : token ∈ s.world.grantsOf pid) :
    Granted pid token history s := by
  induction h generalizing token with
  | start => cases hmem
  | step _ hstep ih => exact .of_step hstep hmem fun token hold => ih hold

/-- Who holds a right to bring the machine down has a grant of its own for it. -/
theorem Run.entitled (h : Run LibraryOnly history s) {station : Station} {kind : PowerKind}
    (hholds : station.holds kind.capability s.world = true) :
    Entitled station.pid kind.capability history s := by
  obtain ⟨token, hmem, hvalid⟩ := Token.exists_of_held hholds
  obtain ⟨hid, howner, htime, hcovers⟩ := Token.isValidFor_iff.1 hvalid
  exact ⟨token, hmem, hid, howner, htime, hcovers, h.granted hmem⟩

theorem Run.machine_of_step (h : Run LibraryOnly history s) (hstep : Step LibraryOnly s t) :
    t.world.machine = s.world.machine ∨ (∃ call, BringsDown call history s t) ∨
      ∃ pid, StaysUp pid history s t := by
  rcases System.machine_of_step hstep with hmachine |
    ⟨station, ⟨kind, reason, flags, text, hholds, hperforms, hmachine⟩ |
      ⟨hholds, hperforms, hmachine⟩⟩
  · exact Or.inl hmachine
  · let call : PowerCall :=
      { caller := station.pid, kind, reason := reason.number, flags,
        message := kind.announcedMessage text }
    have hdown : BringsDown call history s t :=
      ⟨h.entitled hholds, ⟨reason, text, rfl, rfl, hperforms⟩, hmachine⟩
    exact Or.inr (Or.inl ⟨call, hdown⟩)
  · have hshutdown : station.holds PowerKind.shutdown.capability s.world = true := hholds
    have hup : StaysUp station.pid history s t :=
      ⟨h.entitled hshutdown, hperforms, hmachine⟩
    exact Or.inr (Or.inr ⟨station.pid, hup⟩)

/-- Every call that is noted was made by an entitled process. -/
theorem Run.powerCalls (h : Run LibraryOnly history s) {call : PowerCall}
    (hcall : call ∈ s.world.powerCalls) :
    Had (BringsDown call) history s := by
  induction h with
  | start => cases hcall
  | @step history s t hbefore hstep ih =>
      rcases hbefore.machine_of_step hstep with hmachine | ⟨other, hdown⟩ | ⟨pid, hup⟩
      · have hcalls : t.world.powerCalls = s.world.powerCalls := congrArg Prod.fst hmachine
        rw [hcalls] at hcall
        exact (ih hcall).earlier t
      · have hcalls : t.world.powerCalls = s.world.powerCalls ++ [_] :=
          congrArg Prod.fst hdown.2.2
        rw [hcalls] at hcall
        rcases List.mem_append.1 hcall with hold | hnew
        · exact (ih hold).earlier t
        · rw [List.mem_singleton.1 hnew]
          exact .now hdown
      · have hcalls : t.world.powerCalls = s.world.cancelPowerOff.2.powerCalls :=
          congrArg Prod.fst hup.2.2
        rw [hcalls, World.powerCalls_cancelPowerOff] at hcall
        exact (ih hcall).earlier t

/-- **Power is gated by grants.**  In every run in which the processes use the library only, a
step does nothing to the machine, or it is a request for power by a process that is entitled to
it; and what is granted to a process changes only by requests of its own.  Every call that was
ever noted was made so. -/
theorem power_is_gated (h : Run LibraryOnly history s) :
    (∀ t, Step LibraryOnly s t →
      (t.world.machine = s.world.machine ∨ (∃ call, BringsDown call history s t) ∨
        ∃ pid, StaysUp pid history s t) ∧
      ∀ pid, t.world.grantsOf pid = s.world.grantsOf pid ∨
        ∃ operation, operation.isGrant = true ∧ Performs pid operation s t) ∧
      ∀ call ∈ s.world.powerCalls, Had (BringsDown call) history s :=
  ⟨fun _ hstep => ⟨h.machine_of_step hstep, grantsOf_of_step hstep⟩, fun _ => h.powerCalls⟩

/-- A process asks for a grant.  Another one tries to use it in vain, and then the process itself
powers the machine off. -/
theorem power_is_gated_by_own_grant :
    let holder := Station.start 7 Config.standard
    let other := Station.start 8 Config.standard
    let off := Operation.powerOff .shutdown .userRequest 0 ""
    let begun := ((start.spawn 7 Config.standard).2.spawn 8 Config.standard).2
    let asked := holder.after (.acquire Capability.shutdown "update" 60) begun.world
    let tried := other.after off asked.kernel.world
    let ended := (holder.resume asked).after off tried.kernel.world
    tried.kernel.world.powerCalls = [] ∧
      ∃ call history s, ended.kernel.world.powerCalls = [call] ∧ call.caller = 7 ∧
        s.world = ended.kernel.world ∧ Had (BringsDown call) history s := by
  intro holder other off begun asked tried ended
  let call : PowerCall :=
    { caller := 7, kind := .shutdown, reason := ShutdownReason.userRequest.number, flags := 0,
      message := PowerKind.shutdown.standardMessage }
  have hcalls : ended.kernel.world.powerCalls = [call] := by decide +kernel
  have hholder : station? 0 begun = some holder := rfl
  have hother : station? 1
      { world := asked.kernel.world, stations := [holder.resume asked, other] } =
        some other := rfl
  have hasked : station? 0
      { world := tried.kernel.world, stations := [holder.resume asked, other.resume tried] } =
        some (holder.resume asked) := rfl
  have hbegun : Run LibraryOnly _ begun :=
    (Run.start.step (.spawn 7 Config.standard start)).step (.spawn 8 Config.standard _)
  have hrun := ((hbegun.step (step_after hholder (.acquire Capability.shutdown "update" 60))).step
    (step_after hother off)).step (step_after hasked off)
  obtain ⟨-, hgated⟩ := power_is_gated hrun
  refine ⟨by decide +kernel, call, _, _, hcalls, rfl, rfl, hgated call ?_⟩
  exact hcalls ▸ List.mem_cons_self

end System

end Interprocess

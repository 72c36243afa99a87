import Interprocess.Proofs.Simulation.Run
import Interprocess.Proofs.Simulation.WorldEffect

/-!
# Grants and power of a world

The grant authority of a world keeps what it granted to each process, and the world keeps a record
of the calls by which the machine was to go down.  This module says which operations touch either
of them, and what they do there.

**Results.**
* `grants_of_course`, `machine_of_course`: most operations touch nothing at all.
* `grantsOf_after_of_ne`: no operation touches what is granted to another process.
* `mem_grantsOf_after`: what an operation leaves granted to its own process.
* `machine_after_powerOff`, `machine_after_cancelPowerOff`: power is asked for by whoever holds
  the capability.
-/

namespace Interprocess

/-- Whether an operation changes what is granted. -/
def Operation.isGrant : Operation → Bool
  | acquire .. | release .. | renew .. => true
  | _ => false

/-- Whether an operation changes what the machine does. -/
def Operation.isPower : Operation → Bool
  | powerOff .. | cancelPowerOff => true
  | _ => false

namespace World

theorem grantsOf_congr {w w' : World} (h : w'.grants = w.grants) (pid : Pid) :
    w'.grantsOf pid = w.grantsOf pid := by
  rw [grantsOf, h, grantsOf]

/-- The authority changes only what is granted to the process that asks. -/
theorem grantsOf_onWorld_of_ne {other pid : Pid} (h : other ≠ pid) (use : KernelUse)
    (oversleep : Nat) (w : World) :
    (use.onWorld pid oversleep w).grantsOf other = w.grantsOf other := by
  have hset : ∀ tokens (w : World), (w.setGrants pid tokens).grantsOf other =
      w.grantsOf other := by
    intro tokens w
    rw [grantsOf, setGrants, Table.find?_insert_of_ne h, grantsOf]
  cases hgrant : use.isGrant with
  | false => exact grantsOf_congr ((frame_onWorld use pid oversleep w).2.1 hgrant) other
  | true =>
      cases use with
      | acquire capabilities description seconds =>
          simp only [KernelUse.onWorld, acquire]
          split
          · rfl
          · exact hset _ _
      | release token =>
          simp only [KernelUse.onWorld, release]
          split
          · rfl
          · exact hset _ _
      | renew token seconds =>
          simp only [KernelUse.onWorld, renew]
          split
          · exact hset _ _
          · rfl
      | _ => cases hgrant

theorem powerCalls_cancelPowerOff (w : World) :
    w.cancelPowerOff.2.powerCalls = w.powerCalls := by
  unfold cancelPowerOff
  split <;> rfl

theorem machine_powerOff {w w' : World} (h : w'.machine = w.machine) (caller : Pid)
    (kind : PowerKind) (reason : Nat) (flags : UInt32) (message : String) :
    (w'.powerOff caller kind reason flags message).machine =
      (w.powerOff caller kind reason flags message).machine :=
  congrArg (fun calls => (calls ++ [_], _)) (congrArg Prod.fst h)

theorem grantsOf_setGrants (pid : Pid) (tokens : List Token) (w : World) :
    (w.setGrants pid tokens).grantsOf pid = tokens := by
  rw [grantsOf, setGrants, Table.find?_insert_same]
  rfl

theorem mem_grantsOf_acquire {pid : Pid} {capabilities : UInt32} {description : String}
    {seconds : Nat} {w : World} {token : Token}
    (h : token ∈ (w.acquire pid capabilities description seconds).2.grantsOf pid) :
    token ∈ w.grantsOf pid ∨
      token = { id := w.nextToken, capabilities, owner := pid,
                validUntil := timeAfter w.wallclock seconds, description } := by
  unfold acquire at h
  split at h
  · exact Or.inl h
  · simp only [grantsOf_setGrants] at h
    rcases List.mem_append.1 h with hold | hnew
    · exact Or.inl hold
    · exact Or.inr (List.mem_singleton.1 hnew)

theorem mem_grantsOf_release {pid : Pid} {released : Token} {w : World} {token : Token}
    (h : token ∈ (w.release pid released).2.grantsOf pid) :
    token ∈ w.grantsOf pid := by
  unfold release at h
  simp only at h
  split at h
  · exact h
  · simp only [grantsOf_setGrants] at h
    exact (List.mem_filter.1 h).1

/-- Only the first token with the number is extended. -/
theorem mem_extendFirst {id seconds : Nat} {tokens : List Token} {token : Token}
    (h : token ∈ extendFirst id seconds tokens) :
    token ∈ tokens ∨ ∃ old ∈ tokens, old.id = id ∧
      token = { old with validUntil := timeAfter old.validUntil seconds } := by
  induction tokens with
  | nil => exact Or.inl h
  | cons first rest ih =>
      unfold extendFirst at h
      split at h
      · next hid =>
          rcases List.mem_cons.1 h with rfl | hrest
          · exact Or.inr ⟨first, List.mem_cons_self, hid, rfl⟩
          · exact Or.inl (List.mem_cons_of_mem first hrest)
      · rcases List.mem_cons.1 h with rfl | hrest
        · exact Or.inl List.mem_cons_self
        · rcases ih hrest with hmem | ⟨old, hold, hextended⟩
          · exact Or.inl (List.mem_cons_of_mem first hmem)
          · exact Or.inr ⟨old, List.mem_cons_of_mem first hold, hextended⟩

theorem mem_grantsOf_renew {pid : Pid} {renewed : Token} {seconds : Nat} {w : World}
    {token : Token} (h : token ∈ (w.renew pid renewed seconds).2.grantsOf pid) :
    token ∈ w.grantsOf pid ∨ ∃ old ∈ w.grantsOf pid, old.id = renewed.id ∧
      token = { old with validUntil := timeAfter old.validUntil seconds } := by
  unfold renew at h
  split at h
  · simp only [grantsOf_setGrants] at h
    exact mem_extendFirst h
  · exact Or.inl h

end World

namespace Endpoint

variable {σ : Type} (e : Endpoint σ)

theorem looks_checkOwner (token : Token) (s : Session σ) :
    ((e.checkOwner token).run.run s).2 = s := by
  unfold checkOwner
  split <;> rfl

theorem looks_checkUsable (token : Token) (s : Session σ) :
    ((e.checkUsable token).run.run s).2 = s := by
  unfold checkUsable
  split
  · rfl
  · rw [Attempt.run_bind, Attempt.run_lift]
    simp only
    split <;> rfl

end Endpoint

namespace Station

variable {station : Station} {operation : Operation} {first : Sequence}
variable {s t : Session KernelState}

/-- What every change of the world keeps that an operation makes, the operation keeps. -/
theorem keeps_world {Q : World → Prop}
    (hsend : ∀ envelope wantsFeedback sequence w, Q w →
      Q (w.send station.pid envelope wantsFeedback sequence).2)
    (hreports : ∀ sequence w, Q w → Q (w.takeReports station.pid sequence).2)
    (huse : ∀ use w, operation.uses station.pid use → Q w →
      Q (use.onWorld station.pid station.adjustments.oversleep w))
    (h : station.endpoint.Course operation first s t) (hs : Q s.kernel.world) :
    Q t.kernel.world := by
  refine h.keeps_kernel (Q := fun k => Q k.world) ?_ ?_ ?_ hs
  · intro envelope wantsFeedback sequence k _ hk
    simp only [endpoint, Adjustments.kernel, Adjustments.world_send]
    exact hsend envelope wantsFeedback sequence k.world hk
  · intro sequence k hk
    simp only [endpoint, Adjustments.kernel, KernelState.world_takeReports]
    exact hreports sequence k.world hk
  · exact fun use k huses hk => Adjustments.keeps_effect (huse use k.world huses) hk

/-- A property of the grants and the machine is kept if the uses of the kernel keep it. -/
theorem keeps_rights {Q : World → Prop}
    (hsame : ∀ w w', w'.grants = w.grants → w'.machine = w.machine → Q w → Q w')
    (huse : ∀ use w, operation.uses station.pid use → Q w →
      Q (use.onWorld station.pid station.adjustments.oversleep w))
    (h : station.endpoint.Course operation first s t) (hs : Q s.kernel.world) :
    Q t.kernel.world := by
  refine keeps_world ?_ ?_ huse h hs
  · intro envelope wantsFeedback sequence w hw
    obtain ⟨_, _, _, hchanges⟩ :=
      World.send_changes station.pid envelope wantsFeedback sequence w
    rw [hchanges]
    exact hsame w _ rfl rfl hw
  · intro sequence w hw
    obtain ⟨reports, hchanges⟩ := World.takeReports_changes station.pid sequence w
    rw [hchanges]
    exact hsame w _ rfl rfl hw

theorem isGrant_of_uses {use : KernelUse} {self : Pid} (huses : operation.uses self use)
    (h : operation.isGrant = false) :
    use.isGrant = false := by
  cases use with
  | acquire =>
      obtain ⟨text, -, rfl⟩ := huses
      cases h
  | release | renew =>
      obtain rfl : operation = _ := huses
      cases h
  | _ => rfl

theorem isPower_of_uses {use : KernelUse} {self : Pid} (huses : operation.uses self use)
    (h : operation.isPower = false) :
    use.isPower = false := by
  cases use with
  | powerOff =>
      obtain ⟨reason, text, -, -, rfl⟩ := huses
      cases h
  | cancelPowerOff =>
      obtain rfl : operation = _ := huses
      cases h
  | _ => rfl

theorem machine_of_course (h : station.endpoint.Course operation first s t)
    (hpower : operation.isPower = false) :
    t.kernel.world.machine = s.kernel.world.machine := by
  refine keeps_rights (Q := fun w => w.machine = s.kernel.world.machine) ?_ ?_ h rfl
  · exact fun _ _ _ hmachine hw => hmachine.trans hw
  · intro use w huses hw
    exact ((World.frame_onWorld use _ _ w).2.2 (isPower_of_uses huses hpower)).trans hw

theorem grants_of_course (h : station.endpoint.Course operation first s t)
    (hgrant : operation.isGrant = false) :
    t.kernel.world.grants = s.kernel.world.grants := by
  refine keeps_rights (Q := fun w => w.grants = s.kernel.world.grants) ?_ ?_ h rfl
  · exact fun _ _ hgrants _ hw => hgrants.trans hw
  · intro use w huses hw
    exact ((World.frame_onWorld use _ _ w).2.1 (isGrant_of_uses huses hgrant)).trans hw

/-! ## Grants -/

theorem grantsOf_after_of_ne {other : Pid} (h : other ≠ station.pid) (operation : Operation)
    (w : World) :
    (station.after operation w).kernel.world.grantsOf other = w.grantsOf other := by
  refine keeps_rights (Q := fun w' => w'.grantsOf other = w.grantsOf other) ?_ ?_
    (station.course_after operation w) rfl
  · exact fun _ _ hgrants _ hw => (World.grantsOf_congr hgrants other).trans hw
  · exact fun use w _ hw => (World.grantsOf_onWorld_of_ne h use _ w).trans hw

/-- A request for a token is one request to the authority. -/
theorem grants_after_acquire (capabilities : UInt32) (text : String) (seconds : Nat)
    (w : World) :
    (station.after (.acquire capabilities text seconds) w).kernel.world.grants =
      (w.acquire station.pid capabilities (Text.cut maxDescriptionLength text)
        seconds).2.grants := by
  unfold after Endpoint.perform Endpoint.acquire
  simp only [Act.run_bind, Act.run_onKernel]
  split
  · rfl
  · split <;> rfl

/-- A request for more time is refused, or is one request to the authority. -/
theorem world_after_renew (token : Token) (seconds : Nat) (w : World) :
    (station.after (.renew token seconds) w).kernel.world = w ∨
      (station.after (.renew token seconds) w).kernel.world =
        (w.renew station.pid token seconds).2 := by
  let e := station.endpoint
  let s := station.session w
  let P : Session KernelState → Prop := fun t =>
    t.kernel.world = w ∨ t.kernel.world = (w.renew station.pid token seconds).2
  have hrun : station.after (.renew token seconds) w =
      ((e.renew token seconds).run.run s).2 := by
    unfold after Endpoint.perform Endpoint.answeringToken
    rw [Act.run_bind]
    split <;> rfl
  rw [hrun]
  change P _
  refine Attempt.looks_bind (P := P) (e.looks_checkOwner token) (Or.inl rfl) fun _ _ => ?_
  refine Attempt.looks_bind (P := P) (e.looks_checkUsable token) (Or.inl rfl) fun _ _ => ?_
  rw [Attempt.run_bind_looks fun _ _ => rfl]
  rcases Adjustments.effect_kernel station.pid station.adjustments (.renew token seconds)
    s.kernel with heq | heq
  · exact Or.inl (congrArg KernelState.world heq)
  · exact Or.inr (congrArg KernelState.world heq)

theorem mem_grantsOf_after_release {released token : Token} {w : World}
    (h : token ∈ (station.after (.release released) w).kernel.world.grantsOf station.pid) :
    token ∈ w.grantsOf station.pid := by
  refine keeps_rights (Q := fun w' => ∀ token ∈ w'.grantsOf station.pid,
    token ∈ w.grantsOf station.pid) ?_ ?_ (station.course_after (.release released) w)
    (fun _ hmem => hmem) token h
  · intro w₁ w₂ hgrants _ hw token hmem
    rw [World.grantsOf_congr hgrants] at hmem
    exact hw token hmem
  · intro use w' huses hw token hmem
    cases hgrant : use.isGrant with
    | false =>
        rw [World.grantsOf_congr ((World.frame_onWorld use _ _ w').2.1 hgrant)] at hmem
        exact hw token hmem
    | true =>
        cases use with
        | release => exact hw token (World.mem_grantsOf_release hmem)
        | acquire =>
            obtain ⟨text, -, hother⟩ := huses
            cases hother
        | renew => cases huses
        | _ => cases hgrant

/-- What an operation leaves granted to its process was granted before, or is asked for or
extended by it. -/
theorem mem_grantsOf_after {token : Token} {w : World}
    (h : token ∈ (station.after operation w).kernel.world.grantsOf station.pid) :
    token ∈ w.grantsOf station.pid ∨
      (∃ capabilities text seconds, operation = .acquire capabilities text seconds ∧
        token = { id := w.nextToken, capabilities, owner := station.pid,
                  validUntil := timeAfter w.wallclock seconds,
                  description := Text.cut maxDescriptionLength text }) ∨
      ∃ renewed seconds old, operation = .renew renewed seconds ∧
        old ∈ w.grantsOf station.pid ∧ old.id = renewed.id ∧
          token = { old with validUntil := timeAfter old.validUntil seconds } := by
  cases hgrant : operation.isGrant with
  | false =>
      rw [World.grantsOf_congr (grants_of_course (station.course_after operation w) hgrant)] at h
      exact Or.inl h
  | true =>
      cases operation with
      | acquire capabilities text seconds =>
          rw [World.grantsOf_congr (grants_after_acquire capabilities text seconds w)] at h
          rcases World.mem_grantsOf_acquire h with hold | hnew
          · exact Or.inl hold
          · exact Or.inr (Or.inl ⟨capabilities, text, seconds, rfl, hnew⟩)
      | release released => exact Or.inl (mem_grantsOf_after_release h)
      | renew renewed seconds =>
          rcases world_after_renew renewed seconds w with hworld | hworld
          · rw [hworld] at h
            exact Or.inl h
          · rw [hworld] at h
            rcases World.mem_grantsOf_renew h with hold | ⟨old, hold, hid, hextended⟩
            · exact Or.inl hold
            · exact Or.inr (Or.inr ⟨renewed, seconds, old, rfl, hold, hid, hextended⟩)
      | _ => cases hgrant

/-! ## Power -/

/-- What only writes and announces does nothing to the machine. -/
theorem machine_of_makes {α : Type} {x : Act KernelState α} {a : α} (hrun : x.run s = (a, t))
    (h : station.endpoint.Makes .pid 0 x) :
    t.kernel.world.machine = s.kernel.world.machine := by
  have hcourse := (h s).course
  rw [hrun] at hcourse
  exact machine_of_course hcourse rfl

/-- What a use of the kernel does to the machine, if it is not refused. -/
theorem machine_effect (station : Station) (use : KernelUse) (k : KernelState) :
    (use.effect station.endpoint.kernel k).world.machine = k.world.machine ∨
      (use.effect station.endpoint.kernel k).world.machine =
        (use.onWorld station.pid station.adjustments.oversleep k.world).machine := by
  rcases Adjustments.effect_kernel station.pid station.adjustments use k with heq | heq
  · exact Or.inl (congrArg (fun k => k.world.machine) heq)
  · exact Or.inr (congrArg (fun k => k.world.machine) heq)

/-- Whether a process holds a capability, by all its grants together. -/
def holds (required : UInt32) (station : Station) (w : World) : Bool :=
  Capability.includes (Token.held station.pid w.wallclock (w.grantsOf station.pid)) required

theorem holds_of_check {required : UInt32} {w : World} {allowed : Bool}
    (h : ((station.endpoint.check required).run (station.session w)).1 = allowed)
    (hallowed : ¬ (!allowed) = true) :
    station.holds required w = true := by
  rw [show station.holds required w = allowed from h]
  simpa using hallowed

/-- Power-off and reboot are asked for by whoever holds the capability. -/
theorem machine_after_powerOff (kind : PowerKind) (reason : ShutdownReason) (flags : UInt32)
    (message : String) (w : World) :
    (station.after (.powerOff kind reason flags message) w).kernel.world.machine = w.machine ∨
      station.holds kind.capability w = true ∧
        (station.after (.powerOff kind reason flags message) w).kernel.world.machine =
          (w.powerOff station.pid kind reason.number flags
            (kind.announcedMessage message)).machine := by
  let e := station.endpoint
  let s := station.session w
  let P : Session KernelState → Prop := fun t =>
    t.kernel.world.machine = w.machine ∨ station.holds kind.capability w = true ∧
      t.kernel.world.machine = (w.powerOff station.pid kind reason.number flags
        (kind.announcedMessage message)).machine
  change P ((e.powerOff kind reason flags message).run.run s).2
  unfold Endpoint.powerOff
  refine Attempt.looks_bind (P := P) (fun _ => rfl) (Or.inl rfl) fun allowed hallowed => ?_
  split
  · have hdenied : e.Makes .pid 0 (do
        e.logUnlessQuiet flags (kind.verb ++ ": denied, capability missing")
        throw .permissionDenied : Attempt KernelState Unit).run :=
      Endpoint.makes_attempt_bind (Endpoint.makes_lift (Endpoint.makes_logUnlessQuiet _ _))
        fun _ => Endpoint.makes_throw _
    exact Or.inl (machine_of_makes (s := s) (Prod.eta _).symm hdenied)
  · next hgranted =>
      have hholds := holds_of_check (Except.ok.inj hallowed) hgranted
      -- The announcement does nothing to the machine, so both ways end in the same request.
      have hask : ∀ t : Session KernelState, t.kernel.world.machine = w.machine →
          P ((do
            e.logUnlessQuiet flags (kind.verb ++ ": reason=" ++ reason.name ++
              " flags=0x" ++ Text.hex flags.toNat ++ " message=" ++ kind.announcedMessage message)
            Attempt.onKernel (e.kernel.powerOff kind reason.number flags
              (kind.announcedMessage message)) : Attempt KernelState Unit).run.run t).2 := by
        intro t ht
        refine Attempt.bind_cases (P := P) (fun error t' hrun => ?_) fun _ t' hrun => ?_
        · cases congrArg Prod.fst hrun
        · have hlogged := machine_of_makes hrun
            (Endpoint.makes_lift (Endpoint.makes_logUnlessQuiet (e := e) flags _))
          have ht' : t'.kernel.world.machine = w.machine := hlogged.trans ht
          rcases station.machine_effect (.powerOff kind reason.number flags
            (kind.announcedMessage message)) t'.kernel with heq | heq
          · exact Or.inl (heq.trans ht')
          · exact Or.inr ⟨hholds, heq.trans (World.machine_powerOff ht' ..)⟩
      simp only
      split
      · refine Attempt.bind_cases (P := P) (fun error t hrun => ?_) fun _ t hrun => ?_
        · cases congrArg Prod.fst hrun
        · exact hask t (machine_of_makes hrun (Endpoint.makes_lift
            (Endpoint.makes_announcement (e := e) fun _ =>
              Endpoint.makes_logUnlessQuiet flags _)))
      · exact hask s rfl

/-- So is staying up after all. -/
theorem machine_after_cancelPowerOff (w : World) :
    (station.after .cancelPowerOff w).kernel.world.machine = w.machine ∨
      station.holds Capability.shutdown w = true ∧
        (station.after .cancelPowerOff w).kernel.world.machine =
          w.cancelPowerOff.2.machine := by
  let e := station.endpoint
  let s := station.session w
  let P : Session KernelState → Prop := fun t =>
    t.kernel.world.machine = w.machine ∨ station.holds Capability.shutdown w = true ∧
      t.kernel.world.machine = w.cancelPowerOff.2.machine
  change P (e.cancelPowerOff.run.run s).2
  unfold Endpoint.cancelPowerOff
  refine Attempt.looks_bind (P := P) (fun _ => rfl) (Or.inl rfl) fun allowed hallowed => ?_
  split
  · exact Or.inl rfl
  · next hgranted =>
      have hholds := holds_of_check (Except.ok.inj hallowed) hgranted
      have hasked : P ((Attempt.onKernel e.kernel.cancelPowerOff).run.run s).2 :=
        (station.machine_effect .cancelPowerOff s.kernel).imp_right fun heq => ⟨hholds, heq⟩
      refine Attempt.bind_cases (P := P) (fun error t hrun => ?_) fun _ t hrun => ?_
      · rw [hrun] at hasked
        exact hasked
      · rw [hrun] at hasked
        exact hasked

end Station

end Interprocess

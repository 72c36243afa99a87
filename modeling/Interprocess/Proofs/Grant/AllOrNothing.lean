import Interprocess.Proofs.Simulation.PortTrade

/-!
# Operations on tokens are all or nothing

A token that is given back, extended or passed on goes all the way, or nothing happens at all:
neither to the token, nor to what is granted to any process, nor to the virtual port.

**Input.**  Any process of any world, with any faults of its kernel, and any token; the token need
not be one that the authority ever handed out.

**Results.**
* `Station.settles_release`, `settles_renew`, `settles_portSend`: how each operation ends.
* `token_operations_all_or_nothing`: the three together, and why a kernel refuses a token.
-/

namespace Interprocess

namespace World

/-- Whether a world differs from `w` only in what is granted to `pid`, which is `tokens` now. -/
structure Regrants (w : World) (pid : Pid) (tokens : List Token) (world : World) : Prop where
  frame : world = { w with grants := world.grants }
  grants : ∀ other, world.grantsOf other = if other = pid then tokens else w.grantsOf other

theorem regrants_setGrants (pid : Pid) (tokens : List Token) (w : World) :
    w.Regrants pid tokens (w.setGrants pid tokens) where
  frame := rfl
  grants other := by
    by_cases h : other = pid
    · rw [if_pos h, h, grantsOf_setGrants]
    · rw [if_neg h, grantsOf, setGrants, Table.find?_insert_of_ne h, grantsOf]

/-- The first token with an id is extended, and no other one. -/
theorem extendFirst_append {id seconds : Nat} {before : List Token} {granted : Token}
    (hbefore : ∀ t ∈ before, t.id ≠ id) (hid : granted.id = id) (rest : List Token) :
    extendFirst id seconds (before ++ granted :: rest) =
      before ++ { granted with validUntil := timeAfter granted.validUntil seconds } :: rest := by
  induction before with
  | nil => rw [List.nil_append, List.nil_append, extendFirst, if_pos hid]
  | cons first before ih =>
      rw [List.cons_append, extendFirst, if_neg (hbefore first List.mem_cons_self),
        ih fun t ht => hbefore t (List.mem_cons_of_mem first ht)]
      rfl

end World

namespace Endpoint

variable {σ α β : Type} {e : Endpoint σ} {operation : Operation} {s : Session σ}

/-- Whether an operation fails with the first error of its check and its request to the kernel, and
after a failed check does not go to the kernel. -/
def FailsFirst (e : Endpoint σ) (operation : Operation) (s : Session σ)
    (check? request? : Option Error) (failed : Error → Answer) : Prop :=
  ∀ error, check?.or request? = some error →
    ((e.perform operation).run s).1 = failed error ∧
      (check?.isSome = true → ((e.perform operation).run s).2 = s)

theorem failsFirst_of_request (answer : Except Error α → Answer) {check? : Option Error}
    {request : Except KernelFault β × σ} {done : β → σ → α × σ}
    (hrun : (e.perform operation).run s =
      let ended := Attempt.checked check? s (Attempt.requested s request done)
      (answer ended.1, ended.2)) :
    e.FailsFirst operation s check? (Error.ofRequest? request.1)
      (fun error => answer (.error error)) := by
  intro error herror
  rw [hrun]
  cases check? with
  | some first =>
      obtain rfl : first = error := Option.some.inj herror
      exact ⟨rfl, fun _ => rfl⟩
  | none =>
      rcases request with ⟨fault | b, k⟩
      · obtain rfl : Error.ofKernelFault fault = error := Option.some.inj herror
        exact ⟨rfl, nofun⟩
      · cases herror

end Endpoint

namespace Station

variable {α β : Type}

/-- Whether an operation fails with an error, if there is one, and leaves everything as it was, or
keeps a promise about its answer and about the world, and touches nothing else. -/
def Settles (station : Station) (operation : Operation) (w : World) (error? : Option Error)
    (failed : Error → Answer) (done : Answer → World → Prop) : Prop :=
  match error? with
  | some error =>
      station.answer operation w = failed error ∧ station.after operation w = station.session w
  | none => ∃ world, station.after operation w = station.session world ∧
      done (station.answer operation w) world

/-- An operation that is one request behind checks settles, if the kernel refuses and changes
nothing or an answer of it leads to what is promised. -/
theorem settles_of_request {station : Station} {operation : Operation} {w : World}
    (answer : Except Error α → Answer) {check? : Option Error}
    {request : Except KernelFault β × KernelState} {done : β → KernelState → α × KernelState}
    {promise : Answer → World → Prop}
    (hrun : (station.endpoint.perform operation).run (station.session w) =
      let ended := Attempt.checked check? (station.session w)
        (Attempt.requested (station.session w) request done)
      (answer ended.1, ended.2))
    (hrequest : (∃ fault, request = (.error fault, (station.session w).kernel)) ∨
      ∃ b k world, request = (.ok b, k) ∧ (done b k).2 = (station.session world).kernel ∧
        promise (answer (.ok (done b k).1)) world) :
    station.Settles operation w (check?.or (Error.ofRequest? request.1))
      (fun error => answer (.error error)) promise := by
  unfold Settles Station.answer after
  rw [hrun]
  cases check? with
  | some error => exact ⟨rfl, rfl⟩
  | none =>
      rcases hrequest with ⟨fault, hfault⟩ | ⟨b, k, world, htaken, hworld, hpromise⟩
      · rw [hfault]
        exact ⟨rfl, rfl⟩
      · rw [htaken]
        refine ⟨world, ?_, hpromise⟩
        simp only [Attempt.checked, Attempt.requested, hworld]
        rfl

variable (station : Station) (w : World) (token : Token) (seconds : Nat)

/-- What is promised of a token that is given back. -/
def Released (answer : Answer) (world : World) : Prop :=
  answer = .tokenAfter (.ok ()) Token.blank ∧ (∃ t ∈ w.grantsOf station.pid, t.id = token.id) ∧
    w.Regrants station.pid ((w.grantsOf station.pid).filter fun t => t.id != token.id) world

/-- What is promised of a token that is extended. -/
def Renewed (answer : Answer) (world : World) : Prop :=
  ∃ before granted rest, w.grantsOf station.pid = before ++ granted :: rest ∧
    (∀ t ∈ before, t.id ≠ token.id) ∧ granted.id = token.id ∧
      let validUntil := timeAfter granted.validUntil seconds
      answer = .tokenAfter (.ok ()) { token with validUntil } ∧
        w.Regrants station.pid (before ++ { granted with validUntil } :: rest) world

/-- What is promised of a token that is passed on. -/
def Passed (answer : Answer) (world : World) : Prop :=
  answer = .attempt (.ok .nothing) ∧
    world = { w with port := w.port ++ [token], lines := w.lines ++ [Endpoint.passLine token] }

theorem settles_release :
    station.Settles (.release token) w
      ((token.ownerError? station.pid).or
        (Error.ofRequest? (station.endpoint.kernel.release token (station.session w).kernel).1))
      (fun error => .tokenAfter (.error error) token) (station.Released w token) := by
  refine settles_of_request (.ofChange token) (station.endpoint.run_perform_release token _) ?_
  rcases station.adjustments.release_cases station.pid token (station.session w).kernel with
    ⟨fault, -, hfault⟩ | ⟨hreason, htaken⟩
  · exact Or.inl ⟨fault, hfault⟩
  · have hknown : ∃ t ∈ w.grantsOf station.pid, t.id = token.id :=
      World.unknown?_eq_none_iff.1 (Option.or_eq_none_iff.1 hreason).2
    exact Or.inr ⟨(), _, _, htaken, rfl, rfl, hknown, w.regrants_setGrants _ _⟩

theorem settles_renew :
    station.Settles (.renew token seconds) w
      ((token.useError? station.pid w.wallclock).or
        (Error.ofRequest?
          (station.endpoint.kernel.renew token seconds (station.session w).kernel).1))
      (fun error => .tokenAfter (.error error) token) (station.Renewed w token seconds) := by
  refine settles_of_request (.ofChange token)
    (station.endpoint.run_perform_renew token seconds _) ?_
  rcases station.adjustments.renew_cases station.pid token seconds (station.session w).kernel with
    ⟨fault, -, hfault⟩ | ⟨-, before, granted, rest, hsplit, hbefore, hid, htaken⟩
  · exact Or.inl ⟨fault, hfault⟩
  · refine Or.inr ⟨_, _, _, htaken, rfl, before, granted, rest, hsplit, hbefore, hid, rfl, ?_⟩
    rw [← World.extendFirst_append hbefore hid rest, ← hsplit]
    exact w.regrants_setGrants _ _

theorem settles_portSend :
    station.Settles (.portSend token) w
      ((token.useError? station.pid w.wallclock).or
        (Error.ofRequest? (station.endpoint.kernel.portSend token (station.session w).kernel).1))
      (fun error => .attempt (.error error)) (Passed w token) := by
  refine settles_of_request .ofDone (station.endpoint.run_perform_portSend token _) ?_
  rcases station.kernel_portSend token (station.session w).kernel with ⟨fault, hfault⟩ | htaken
  · exact Or.inl ⟨fault, hfault⟩
  · exact Or.inr ⟨(), _, _, htaken, rfl, rfl, rfl⟩

/-- The kernel refuses a token that is given back because it is told to, or because the authority
does not know it. -/
theorem ofRequest?_release (k : KernelState) :
    Error.ofRequest? (station.endpoint.kernel.release token k).1 =
      ((station.adjustments.refusal? .release).or
        (k.world.unknown? station.pid token.id)).map Error.ofKernelFault := by
  rcases station.adjustments.release_cases station.pid token k with
    ⟨fault, hreason, hfault⟩ | ⟨hreason, htaken⟩
  · rw [hreason]
    exact congrArg (fun request => Error.ofRequest? request.1) hfault
  · rw [hreason]
    exact congrArg (fun request => Error.ofRequest? request.1) htaken

theorem ofRequest?_renew (k : KernelState) :
    Error.ofRequest? (station.endpoint.kernel.renew token seconds k).1 =
      ((station.adjustments.refusal? .renew).or
        (k.world.unknown? station.pid token.id)).map Error.ofKernelFault := by
  rcases station.adjustments.renew_cases station.pid token seconds k with
    ⟨fault, hreason, hfault⟩ | ⟨hreason, before, granted, rest, -, -, -, htaken⟩
  · rw [hreason]
    exact congrArg (fun request => Error.ofRequest? request.1) hfault
  · rw [hreason]
    exact congrArg (fun request => Error.ofRequest? request.1) htaken

theorem ofRequest?_portSend (k : KernelState) :
    Error.ofRequest? (station.endpoint.kernel.portSend token k).1 =
      (station.adjustments.refusal? .portSend).map Error.ofKernelFault := by
  change Error.ofRequest? (station.adjustments.guarded .portSend
    (KernelState.fromWorld fun w => (.ok (), w.portSend token)) k).1 = _
  rw [Adjustments.guarded]
  cases station.adjustments.refusal? .portSend <;> rfl

/-- **Operations on tokens are all or nothing.**  A token that is given back, extended or passed on,
be it any token, goes through its checks in order: its owner first, then, unless it is given back,
whether it is empty, then its time, and last the kernel.  The first that fails decides the error,
and then the token and everything else are as before.  Otherwise a token that is given back is blank
afterwards, and exactly the grants of the process with its id are gone; one that is extended ends as
many seconds later as asked than what is granted under its id, by a clock that starts over, and so
does the grant; and one that is passed on goes to the end of the port.  The kernel refuses what it
is told to refuse, and what the authority does not know.  With any other kernel, too, the checks
come first and in this order, and a failure leaves the token as it was. -/
theorem token_operations_all_or_nothing (station : Station) (w : World) (token : Token)
    (seconds : Nat) :
    let kernel := station.endpoint.kernel
    let k := (station.session w).kernel
    let owner := token.ownerError? station.pid
    let usable := owner.or (token.emptyError?.or (token.expiryError? w.wallclock))
    let kept := fun error => Answer.tokenAfter (.error error) token
    let refused := fun request => station.adjustments.refusal? request
    let unknown := w.unknown? station.pid token.id
    station.Settles (.release token) w
        (owner.or (Error.ofRequest? (kernel.release token k).1)) kept (station.Released w token) ∧
      station.Settles (.renew token seconds) w
        (usable.or (Error.ofRequest? (kernel.renew token seconds k).1)) kept
        (station.Renewed w token seconds) ∧
      station.Settles (.portSend token) w
        (usable.or (Error.ofRequest? (kernel.portSend token k).1))
        (fun error => .attempt (.error error)) (Passed w token) ∧
      (Error.ofRequest? (kernel.release token k).1 =
          ((refused .release).or unknown).map Error.ofKernelFault ∧
        Error.ofRequest? (kernel.renew token seconds k).1 =
          ((refused .renew).or unknown).map Error.ofKernelFault ∧
        Error.ofRequest? (kernel.portSend token k).1 =
          (refused .portSend).map Error.ofKernelFault) ∧
      ∀ (σ : Type) (e : Endpoint σ) (s : Session σ),
        let owner := token.ownerError? e.pid
        let usable := owner.or
          (token.emptyError?.or (token.expiryError? (e.kernel.wallclock s.kernel)))
        e.FailsFirst (.release token) s owner
            (Error.ofRequest? (e.kernel.release token s.kernel).1) kept ∧
          e.FailsFirst (.renew token seconds) s usable
            (Error.ofRequest? (e.kernel.renew token seconds s.kernel).1) kept ∧
          e.FailsFirst (.portSend token) s usable
            (Error.ofRequest? (e.kernel.portSend token s.kernel).1)
            (fun error => .attempt (.error error)) :=
  ⟨station.settles_release w token, station.settles_renew w token seconds,
    station.settles_portSend w token,
    ⟨station.ofRequest?_release token _, station.ofRequest?_renew token seconds _,
      station.ofRequest?_portSend token _⟩,
    fun _ e s =>
      ⟨Endpoint.failsFirst_of_request (.ofChange token) (e.run_perform_release token s),
        Endpoint.failsFirst_of_request (.ofChange token) (e.run_perform_renew token seconds s),
        Endpoint.failsFirst_of_request .ofDone (e.run_perform_portSend token s)⟩⟩

/-- A copy with made-up rights and time is extended by what was granted, and one of somebody else is
refused for its owner, although it is empty and past its time as well. -/
theorem token_operations_all_or_nothing_of_copies :
    let station := Station.start 7 Config.standard
    let granted : Token := ⟨1, Capability.reboot, 7, 60, ""⟩
    let w := { World.start with grants := [(7, [granted])], wallclock := 50 }
    let copy := { granted with capabilities := Capability.all, validUntil := 9999 }
    let foreign := { Token.blank with owner := 8 }
    station.answer (.renew copy 10) w = .tokenAfter (.ok ()) { copy with validUntil := 70 } ∧
      station.answer (.renew foreign 10) w = .tokenAfter (.error .notOwner) foreign ∧
        station.after (.renew foreign 10) w = station.session w := by
  intro station granted w copy foreign
  obtain ⟨-, hcopy, -⟩ := token_operations_all_or_nothing station w copy 10
  obtain ⟨-, hforeign, -⟩ := token_operations_all_or_nothing station w foreign 10
  refine ⟨?_, hforeign⟩
  obtain ⟨world, -, before, found, rest, hsplit, -, -, hanswer, -⟩ := hcopy
  have hfound : found ∈ [granted] := by
    rw [show [granted] = _ from hsplit]
    exact List.mem_append_right before List.mem_cons_self
  rw [List.mem_singleton.1 hfound] at hanswer
  exact hanswer

end Station

end Interprocess

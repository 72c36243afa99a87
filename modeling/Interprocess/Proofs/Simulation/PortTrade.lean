import Interprocess.Proofs.Simulation.TokenTrade

/-!
# What an operation does on the virtual port

Three operations go to the virtual port: a process puts a token at its end, takes the first one
off, or takes back what it left there.  Every other operation leaves the port alone.  What an
operation did there can be told from what it was answered (`Station.portEvents`).

**Results.**
* `portSend_cases`, `portReceive_cases`, `portClear_cases`: each request is refused and leaves the
  port alone, or is carried out and answered so.
* `trades_after`: the events that are told are what happened on the port.
* `run_validate_of_ne`, `run_release_of_ne`, `run_renew_of_ne`, `run_portSend_of_ne`: with the token
  of another process none of this is done.
-/

namespace Interprocess

/-- What happens on the virtual port. -/
inductive PortEvent
  /-- A process put a token on the port, when the wall clock showed `now`. -/
  | sent (sender : Pid) (token : Token) (now : Nat)
  /-- The first token was taken off the port. -/
  | claimed (token : Token)
  /-- A process took back what it left on the port. -/
  | cleared (pid : Pid)
deriving DecidableEq

namespace KernelUse

/-- Whether a use of the kernel goes to the virtual port. -/
def isPort : KernelUse → Bool
  | portSend _ | portReceive | portClear => true
  | _ => false

end KernelUse

namespace Operation

/-- Whether an operation goes to the virtual port. -/
def isPort : Operation → Bool
  | portSend _ | portReceive | portClear => true
  | _ => false

end Operation

theorem World.port_onWorld {use : KernelUse} (h : use.isPort = false) (pid : Pid)
    (oversleep : Nat) (w : World) :
    (use.onWorld pid oversleep w).port = w.port := by
  cases use with
  | portSend | portReceive | portClear => cases h
  | sleep | log | powerOff => rfl
  | broadcast | receive | clear | protectChildren | acquire | release | renew | cancelPowerOff =>
      simp only [KernelUse.onWorld, broadcast, receive, clearMailbox, protectChildren, acquire,
        release, renew, cancelPowerOff]
      split <;> rfl

theorem World.portReceive_fst (w : World) : w.portReceive.1 = w.port.head? := by
  unfold portReceive
  cases w.port <;> rfl

theorem World.port_portReceive (w : World) : w.portReceive.2.port = w.port.tail := by
  unfold portReceive
  cases hport : w.port with
  | nil => exact hport
  | cons token rest => rfl

namespace Endpoint

variable {σ : Type} (e : Endpoint σ)

theorem run_perform_portReceive (s : Session σ) :
    (e.perform .portReceive).run s =
      (.ofAttempt (Value.ofOption .token)
          ((e.kernel.portReceive s.kernel).1.mapError Error.ofKernelFault),
        { s with kernel := (e.kernel.portReceive s.kernel).2 }) :=
  run_answering_of_run (Attempt.run_onKernel e.kernel.portReceive s)

theorem run_perform_portClear (s : Session σ) :
    (e.perform .portClear).run s =
      (.ofDone ((e.kernel.portClear s.kernel).1.mapError Error.ofKernelFault),
        { s with kernel := (e.kernel.portClear s.kernel).2 }) :=
  run_answering_of_run (Attempt.run_onKernel e.kernel.portClear s)

section Owner

variable {e} {token : Token} {s : Session σ} (h : token.owner ≠ e.pid)
include h

theorem run_validate_of_ne (required : UInt32) :
    (e.perform (.validate token required)).run s = (.value (.flag false), s) := by
  have hinvalid : token.isValidFor e.pid required (e.kernel.wallclock s.kernel) = false := by
    simp [Token.isValidFor, h]
  exact congrArg (fun valid => (Answer.value (.flag valid), s)) hinvalid

theorem run_release_of_ne :
    (e.perform (.release token)).run s = (.tokenAfter (.error .notOwner) token, s) := by
  rw [run_perform_release, Token.ownerError?_of_ne h]
  rfl

theorem run_renew_of_ne (seconds : Nat) :
    (e.perform (.renew token seconds)).run s = (.tokenAfter (.error .notOwner) token, s) := by
  rw [run_perform_renew, Token.useError?_of_ne h]
  rfl

theorem run_portSend_of_ne :
    (e.perform (.portSend token)).run s = (.attempt (.error .notOwner), s) := by
  rw [run_perform_portSend, Token.useError?_of_ne h]
  rfl

end Owner

end Endpoint

namespace Station

variable (station : Station) (w : World)

/-- The kernel refuses to put a token on the port, or the world does it. -/
theorem kernel_portSend (token : Token) (k : KernelState) :
    (∃ fault, station.endpoint.kernel.portSend token k = (.error fault, k)) ∨
      station.endpoint.kernel.portSend token k = (.ok (), k.onWorld (World.portSend token)) :=
  station.adjustments.guarded_fromWorld .portSend (fun w => (.ok (), w.portSend token)) k

/-- The kernel refuses to take a token off the port, or the world does it. -/
theorem kernel_portReceive (k : KernelState) :
    (∃ fault, station.endpoint.kernel.portReceive k = (.error fault, k)) ∨
      station.endpoint.kernel.portReceive k =
        (.ok k.world.portReceive.1, k.onWorld fun w => w.portReceive.2) :=
  station.adjustments.guarded_fromWorld .portReceive
    (fun w => (.ok w.portReceive.1, w.portReceive.2)) k

/-- The kernel refuses to clear the port for a process, or the world does it. -/
theorem kernel_portClear (k : KernelState) :
    (∃ fault, station.endpoint.kernel.portClear k = (.error fault, k)) ∨
      station.endpoint.kernel.portClear k = (.ok (), k.onWorld (World.portClear station.pid)) :=
  station.adjustments.guarded_fromWorld .portClear (fun w => (.ok (), w.portClear station.pid)) k

/-- What an operation did on the virtual port, as told from its answer. -/
def portEvents (operation : Operation) : List PortEvent :=
  match operation, station.answer operation w with
  | .portSend token, .attempt (.ok _) => [.sent station.pid token w.wallclock]
  | .portReceive, .attempt (.ok (.token token)) => [.claimed token]
  | .portClear, .attempt (.ok _) => [.cleared station.pid]
  | _, _ => []

/-- A token that is passed on is refused, or is its sender's own and good, and goes to the end of
the port. -/
theorem portSend_cases (token : Token) :
    (∃ error, station.answer (.portSend token) w = .attempt (.error error)) ∧
        (station.after (.portSend token) w).kernel.world.port = w.port ∨
      token.MayUse station.pid w.wallclock ∧
        station.answer (.portSend token) w = .attempt (.ok .nothing) ∧
        (station.after (.portSend token) w).kernel.world.port = w.port ++ [token] := by
  let e := station.endpoint
  let s := station.session w
  unfold answer after
  rw [Endpoint.run_perform_portSend]
  cases herror : token.useError? e.pid (e.kernel.wallclock s.kernel) with
  | some error => exact Or.inl ⟨⟨error, rfl⟩, rfl⟩
  | none =>
      rcases station.kernel_portSend token s.kernel with
        ⟨fault, hfault⟩ | htaken
      · rw [hfault]
        exact Or.inl ⟨⟨_, rfl⟩, rfl⟩
      · rw [htaken]
        exact Or.inr ⟨Token.useError?_eq_none_iff.1 herror, rfl, rfl⟩

/-- A claim is refused, or takes the first token off the port if there is one. -/
theorem portReceive_cases :
    (∃ error, station.answer .portReceive w = .attempt (.error error)) ∧
        (station.after .portReceive w).kernel.world.port = w.port ∨
      station.answer .portReceive w =
          .attempt (.ok (Value.ofOption .token w.port.head?)) ∧
        (station.after .portReceive w).kernel.world.port = w.port.tail := by
  unfold answer after
  rw [Endpoint.run_perform_portReceive]
  rcases station.kernel_portReceive (station.session w).kernel with ⟨fault, hfault⟩ | htaken
  · rw [hfault]
    exact Or.inl ⟨⟨_, rfl⟩, rfl⟩
  · rw [htaken, ← w.portReceive_fst]
    exact Or.inr ⟨rfl, w.port_portReceive⟩

/-- A withdrawal is refused, or takes off the port what the process owns there. -/
theorem portClear_cases :
    (∃ error, station.answer .portClear w = .attempt (.error error)) ∧
        (station.after .portClear w).kernel.world.port = w.port ∨
      station.answer .portClear w = .attempt (.ok .nothing) ∧
        (station.after .portClear w).kernel.world.port =
          w.port.filter fun token => token.owner != station.pid := by
  unfold answer after
  rw [Endpoint.run_perform_portClear]
  rcases station.kernel_portClear (station.session w).kernel with ⟨fault, hfault⟩ | htaken
  · rw [hfault]
    exact Or.inl ⟨⟨_, rfl⟩, rfl⟩
  · rw [htaken]
    exact Or.inr ⟨rfl, rfl⟩

/-- Every other operation leaves the port alone. -/
theorem port_after_of_not_isPort {operation : Operation} (h : operation.isPort = false) :
    (station.after operation w).kernel.world.port = w.port := by
  refine keeps_custody (Q := fun w' => w'.port = w.port) ?_ ?_
    (station.course_after operation w) rfl
  · exact fun _ _ _ hport _ hw => hport.trans hw
  · intro use w' huses hw
    have hport : use.isPort = false := by
      cases use with
      | portSend | portReceive | portClear =>
          obtain rfl : operation = _ := huses
          cases h
      | _ => rfl
    exact (World.port_onWorld hport _ _ w').trans hw

end Station

/-- What events do on the port when process `self` causes them at `now`. -/
inductive PortEvent.Trades (self : Pid) (now : Nat) :
    List PortEvent → List Token → List Token → Prop
  | idle (port : List Token) : Trades self now [] port port
  | sent {token : Token} (hmay : token.MayUse self now) (port : List Token) :
      Trades self now [.sent self token now] port (port ++ [token])
  | claimed (token : Token) (rest : List Token) :
      Trades self now [.claimed token] (token :: rest) rest
  | cleared (port : List Token) :
      Trades self now [.cleared self] port (port.filter fun token => token.owner != self)

/-- The events that are told of an operation are what happened on the port. -/
theorem Station.trades_after (station : Station) (operation : Operation) (w : World) :
    PortEvent.Trades station.pid w.wallclock (station.portEvents w operation) w.port
      (station.after operation w).kernel.world.port := by
  cases operation with
  | portSend token =>
      rcases station.portSend_cases w token with
        ⟨⟨error, hanswer⟩, hport⟩ | ⟨hmay, hanswer, hport⟩
      · simp only [portEvents, hanswer, hport]
        exact .idle _
      · simp only [portEvents, hanswer, hport]
        exact .sent hmay _
  | portReceive =>
      rcases station.portReceive_cases w with ⟨⟨error, hanswer⟩, hport⟩ | ⟨hanswer, hport⟩
      · simp only [portEvents, hanswer, hport]
        exact .idle _
      · cases hbefore : w.port with
        | nil =>
            rw [hbefore] at hanswer hport
            simp only [portEvents, hanswer, hport, List.head?_nil, Value.ofOption, List.tail_nil]
            exact .idle _
        | cons token rest =>
            rw [hbefore] at hanswer hport
            simp only [portEvents, hanswer, hport, List.head?_cons, Value.ofOption, List.tail_cons]
            exact .claimed token rest
  | portClear =>
      rcases station.portClear_cases w with ⟨⟨error, hanswer⟩, hport⟩ | ⟨hanswer, hport⟩
      · simp only [portEvents, hanswer, hport]
        exact .idle _
      · simp only [portEvents, hanswer, hport]
        exact .cleared _
  | _ =>
      rw [station.port_after_of_not_isPort w rfl]
      exact .idle _

/-- An operation that is refused leaves the port as it is. -/
theorem Station.port_after_of_error {station : Station} {operation : Operation} {w : World}
    {error : Error} (h : station.answer operation w = .attempt (.error error)) :
    (station.after operation w).kernel.world.port = w.port := by
  have htrades := station.trades_after operation w
  have hnone : station.portEvents w operation = [] := by
    unfold portEvents
    rw [h]
    cases operation <;> rfl
  rw [hnone] at htrades
  generalize (station.after operation w).kernel.world.port = after at htrades ⊢
  cases htrades
  rfl

end Interprocess

import Interprocess.Proofs.Endpoint.OperationWalk

/-!
# Checks of a token

Before a token is given back, extended or passed on, it is checked on the spot: first its owner,
then whether it is empty, then its time.  The first check that fails decides the error, and nothing
happens.  Only a token that passes goes to the kernel, which may refuse it for reasons of its own.

**Input.**  Any kernel, and any token.

**Results.**
* `Attempt.run_check`, `Attempt.checked_or`: one check goes before the rest, and two checks are as
  good as one.
* `Token.useError?_eq_none_iff`: nothing is wrong with the tokens that a process may use.
* `Endpoint.run_release`, `run_renew`, `run_portSend`: what each operation comes to.
-/

namespace Interprocess

namespace Error

/-- The error of a request to the kernel, if that refused it. -/
def ofRequest? {α : Type} : Except KernelFault α → Option Error
  | .error fault => some (ofKernelFault fault)
  | .ok _ => none

end Error

namespace Token

/-- Whether process `self` may extend a token or pass it on. -/
def MayUse (self : Pid) (now : Nat) (token : Token) : Prop :=
  token.owner = self ∧ token.isEmpty = false ∧ token.isExpired now = false

/-- What is wrong if process `self` does not own a token. -/
def ownerError? (self : Pid) (token : Token) : Option Error :=
  if token.owner = self then none else some .notOwner

/-- What is wrong if a token is empty. -/
def emptyError? (token : Token) : Option Error :=
  if token.id = 0 then some .invalidParameter else none

/-- What is wrong if the time of a token is over at second `now`. -/
def expiryError? (now : Nat) (token : Token) : Option Error :=
  if token.validUntil < now then some .expired else none

/-- What is wrong first with a token that process `self` wants to extend or pass on. -/
def useError? (self : Pid) (now : Nat) (token : Token) : Option Error :=
  (token.ownerError? self).or (token.emptyError?.or (token.expiryError? now))

theorem ownerError?_of_eq {self : Pid} {token : Token} (h : token.owner = self) :
    token.ownerError? self = none := if_pos h

theorem ownerError?_of_ne {self : Pid} {token : Token} (h : token.owner ≠ self) :
    token.ownerError? self = some .notOwner := if_neg h

theorem useError?_of_ne {self : Pid} {token : Token} (h : token.owner ≠ self) (now : Nat) :
    token.useError? self now = some .notOwner := by
  rw [useError?, ownerError?_of_ne h, Option.some_or]

theorem useError?_eq_none_iff {self : Pid} {now : Nat} {token : Token} :
    token.useError? self now = none ↔ token.MayUse self now := by
  have howner : token.ownerError? self = none ↔ token.owner = self := by simp [ownerError?]
  have hempty : token.emptyError? = none ↔ token.isEmpty = false := by
    simp [emptyError?, isEmpty]
  have htime : token.expiryError? now = none ↔ token.isExpired now = false := by
    simp [expiryError?, isExpired]
  rw [useError?, Option.or_eq_none_iff, Option.or_eq_none_iff, howner, hempty, htime, MayUse]

end Token

namespace Attempt

variable {σ α β : Type}

/-- How an attempt goes behind checks, of which the first that fails has an error. -/
def checked (error? : Option Error) (s : Session σ) (outcome : Except Error α × Session σ) :
    Except Error α × Session σ :=
  match error? with
  | some error => (.error error, s)
  | none => outcome

theorem checked_or (first second : Option Error) (s : Session σ)
    (outcome : Except Error α × Session σ) :
    checked first s (checked second s outcome) = checked (first.or second) s outcome := by
  cases first <;> rfl

/-- A check goes before the rest of an attempt. -/
theorem run_check {x : Attempt σ Unit} {error? : Option Error} {s : Session σ}
    (h : x.run.run s = checked error? s (.ok (), s)) (f : Attempt σ α) :
    (do x; f).run.run s = checked error? s (f.run.run s) := by
  cases error? with
  | some error => exact run_bind_of_error h _
  | none => exact run_bind_of_ok h _

/-- How an attempt ends with an answer of the kernel: in the error of its fault, or in what is done
with its value. -/
def requested (s : Session σ) (request : Except KernelFault β × σ) (done : β → σ → α × σ) :
    Except Error α × Session σ :=
  match request with
  | (.error fault, k) => (.error (Error.ofKernelFault fault), { s with kernel := k })
  | (.ok b, k) => (.ok (done b k).1, { s with kernel := (done b k).2 })

end Attempt

/-- The answer to an attempt to change a token. -/
def Answer.ofChange (token : Token) : Except Error Token → Answer
  | .ok changed => .tokenAfter (.ok ()) changed
  | .error error => .tokenAfter (.error error) token

namespace Endpoint

variable {σ α : Type} (e : Endpoint σ)

theorem run_answeringToken (token : Token) (x : Attempt σ Token) (s : Session σ) :
    (answeringToken token x).run s = (.ofChange token (x.run.run s).1, (x.run.run s).2) := by
  rw [answeringToken, Act.run_bind]
  cases (x.run.run s).1 <;> rfl

theorem run_checkOwner (token : Token) (s : Session σ) :
    (e.checkOwner token).run.run s =
      Attempt.checked (token.ownerError? e.pid) s (.ok (), s) := by
  unfold checkOwner Token.ownerError?
  split <;> rfl

theorem run_checkUsable (token : Token) (s : Session σ) :
    (e.checkUsable token).run.run s =
      Attempt.checked (token.emptyError?.or (token.expiryError? (e.kernel.wallclock s.kernel))) s
        (.ok (), s) := by
  cases hempty : token.isEmpty with
  | true =>
      rw [checkUsable, if_pos hempty, Token.emptyError?, if_pos (beq_iff_eq.1 hempty)]
      rfl
  | false =>
      let now := e.kernel.wallclock s.kernel
      have hclock : (e.checkUsable token).run.run s =
          (if token.isExpired now then throw .expired else pure () : Attempt σ Unit).run.run s := by
        rw [checkUsable, if_neg (by simp [hempty])]
        rfl
      have hid : token.id ≠ 0 := fun h => by simp [Token.isEmpty, h] at hempty
      rw [hclock, Token.emptyError?, if_neg hid, Option.none_or, Token.expiryError?,
        Token.isExpired]
      by_cases htime : token.validUntil < now
      · rw [if_pos htime, if_pos (decide_eq_true htime)]
        rfl
      · rw [if_neg htime, if_neg (by simpa using htime)]
        rfl

/-- All checks of a token go before the rest of an attempt. -/
theorem run_checks (token : Token) (s : Session σ) (f : Attempt σ α) :
    (do e.checkOwner token; e.checkUsable token; f : Attempt σ α).run.run s =
      Attempt.checked (token.useError? e.pid (e.kernel.wallclock s.kernel)) s (f.run.run s) := by
  rw [Attempt.run_check (e.run_checkOwner token s), Attempt.run_check (e.run_checkUsable token s),
    Attempt.checked_or, Token.useError?]

/-- A token that is given back is checked for its owner, and goes to the kernel. -/
theorem run_release (token : Token) (s : Session σ) :
    (e.release token).run.run s =
      Attempt.checked (token.ownerError? e.pid) s
        (Attempt.requested s (e.kernel.release token s.kernel) fun _ k => (Token.blank, k)) := by
  rw [release, Attempt.run_check (e.run_checkOwner token s), Attempt.run_bind,
    Attempt.run_onKernel]
  rcases e.kernel.release token s.kernel with ⟨fault | _, k⟩ <;> rfl

/-- A token that is extended passes all checks, and goes to the kernel. -/
theorem run_renew (token : Token) (seconds : Nat) (s : Session σ) :
    (e.renew token seconds).run.run s =
      Attempt.checked (token.useError? e.pid (e.kernel.wallclock s.kernel)) s
        (Attempt.requested s (e.kernel.renew token seconds s.kernel)
          fun validUntil k => ({ token with validUntil }, k)) := by
  rw [renew, run_checks, Attempt.run_bind, Attempt.run_onKernel]
  rcases e.kernel.renew token seconds s.kernel with ⟨fault | _, k⟩ <;> rfl

/-- The line about a token that is passed on. -/
def passLine (token : Token) : String :=
  "[eclib] " ++ ("cap: token id=" ++ Text.decimal token.id ++ " sent to virtual port")

/-- A token that is passed on passes all checks, and goes to the kernel.  If that takes it, a line
is written. -/
theorem run_portSend (token : Token) (s : Session σ) :
    (e.portSend token).run.run s =
      Attempt.checked (token.useError? e.pid (e.kernel.wallclock s.kernel)) s
        (Attempt.requested s (e.kernel.portSend token s.kernel)
          fun _ k => ((), e.kernel.log (passLine token) k)) := by
  rw [portSend, run_checks, Attempt.run_bind, Attempt.run_onKernel]
  rcases e.kernel.portSend token s.kernel with ⟨fault | _, k⟩ <;> rfl

/-! ## The operations -/

theorem run_perform_release (token : Token) (s : Session σ) :
    (e.perform (.release token)).run s =
      let ended := Attempt.checked (token.ownerError? e.pid) s
        (Attempt.requested s (e.kernel.release token s.kernel) fun _ k => (Token.blank, k))
      (.ofChange token ended.1, ended.2) := by
  rw [← run_release]
  exact run_answeringToken token _ s

theorem run_perform_renew (token : Token) (seconds : Nat) (s : Session σ) :
    (e.perform (.renew token seconds)).run s =
      let ended := Attempt.checked (token.useError? e.pid (e.kernel.wallclock s.kernel)) s
        (Attempt.requested s (e.kernel.renew token seconds s.kernel)
          fun validUntil k => ({ token with validUntil }, k))
      (.ofChange token ended.1, ended.2) := by
  rw [← run_renew]
  exact run_answeringToken token _ s

theorem run_perform_portSend (token : Token) (s : Session σ) :
    (e.perform (.portSend token)).run s =
      let ended := Attempt.checked (token.useError? e.pid (e.kernel.wallclock s.kernel)) s
        (Attempt.requested s (e.kernel.portSend token s.kernel)
          fun _ k => ((), e.kernel.log (passLine token) k))
      (.ofDone ended.1, ended.2) := by
  rw [← run_portSend]
  exact run_answering_of_run rfl

end Endpoint

end Interprocess

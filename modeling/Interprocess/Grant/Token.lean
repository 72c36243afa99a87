import Interprocess.Address

/-!
# Capability tokens

A token grants a set of capabilities, one bit each, to its owner until a moment on the
wall clock.  The token with number zero is empty and grants nothing.

**Main statement.**  `isValidFor` holds exactly when the four conditions on a token hold
together (`isValidFor_iff`).
-/

namespace Interprocess

/-- The right to power the machine off. -/
def Capability.shutdown : UInt32 := 0x1

/-- The right to reboot the machine. -/
def Capability.reboot : UInt32 := 0x2

/-- The right to suspend to memory. -/
def Capability.suspend : UInt32 := 0x4

/-- The right to hibernate to disk. -/
def Capability.hibernate : UInt32 := 0x8

/-- The right to end other processes. -/
def Capability.killProcess : UInt32 := 0x10

/-- The right to change the configuration of the system. -/
def Capability.changeConfig : UInt32 := 0x20

/-- All rights. -/
def Capability.all : UInt32 := 0xFFFFFFFF

/-- The longest description of a token, in bytes. -/
def maxDescriptionLength : Nat := 64

/-- Whether every bit of `required` is set in `held`. -/
def Capability.includes (held required : UInt32) : Bool := held &&& required == required

/-- A grant of capabilities, bound to an owner and to time. -/
structure Token where
  /-- The number under which the grant authority knows it; zero when empty. -/
  id : Nat
  /-- The capabilities, one bit each. -/
  capabilities : UInt32
  /-- The only process that may use it. -/
  owner : Pid
  /-- The last second of the wall clock at which it is good. -/
  validUntil : Nat
  /-- What it is for. -/
  description : String
deriving DecidableEq

namespace Token

/-- The token that grants nothing. -/
def blank : Token := { id := 0, capabilities := 0, owner := 0, validUntil := 0, description := "" }

/-- Whether the token was never issued, or is wiped. -/
def isEmpty (t : Token) : Bool := t.id == 0

/-- Whether the time of the token is over at second `now`. -/
def isExpired (now : Nat) (t : Token) : Bool := decide (t.validUntil < now)

/-- Whether the token carries every bit of `required`. -/
def covers (required : UInt32) (t : Token) : Bool := Capability.includes t.capabilities required

/-- Whether `caller` may use the token for `required` at second `now`. -/
def isValidFor (caller : Pid) (required : UInt32) (now : Nat) (t : Token) : Bool :=
  !t.isEmpty && t.owner == caller && !t.isExpired now && t.covers required

/-- The capabilities that `caller` holds at second `now` by all of `tokens` together. -/
def held (caller : Pid) (now : Nat) (tokens : List Token) : UInt32 :=
  (tokens.filter (isValidFor caller 0 now)).foldl (fun mask t => mask ||| t.capabilities) 0

theorem isValidFor_iff {caller : Pid} {required : UInt32} {now : Nat} {t : Token} :
    t.isValidFor caller required now = true ↔
      t.id ≠ 0 ∧ t.owner = caller ∧ now ≤ t.validUntil ∧
        t.capabilities &&& required = required := by
  simp [isValidFor, isEmpty, isExpired, covers, Capability.includes, and_assoc]

end Token

end Interprocess

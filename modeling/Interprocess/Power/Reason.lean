/-!
# Reasons and flags of power-off

Why the machine goes down, how it is asked to, and what state it is in.
-/

namespace Interprocess

/-- Why the machine goes down. -/
inductive ShutdownReason
  | normal
  | reboot
  | emergency
  | userRequest
  | powerFailure
  | thermal
  | panic
deriving DecidableEq

namespace ShutdownReason

/-- Every reason, in the order of its number. -/
def all : List ShutdownReason :=
  [normal, reboot, emergency, userRequest, powerFailure, thermal, panic]

/-- The number of a reason. -/
def number : ShutdownReason → Nat
  | normal => 0
  | reboot => 1
  | emergency => 2
  | userRequest => 3
  | powerFailure => 4
  | thermal => 5
  | panic => 6

/-- The reason with a number. -/
def ofNumber? (n : Nat) : Option ShutdownReason := all[n]?

/-- The name of a reason in log lines. -/
def name : ShutdownReason → String
  | normal => "normal"
  | reboot => "reboot"
  | emergency => "emergency"
  | userRequest => "user-request"
  | powerFailure => "power-failure"
  | thermal => "thermal"
  | panic => "panic"

theorem ofNumber?_number (r : ShutdownReason) : ofNumber? r.number = some r := by
  cases r <;> rfl

theorem number_lt (r : ShutdownReason) : r.number < 7 := by cases r <;> decide

theorem ofNumber?_isSome_iff (n : Nat) : (ofNumber? n).isSome ↔ n < 7 := by
  simp [ofNumber?, all]

theorem number_of_ofNumber? {n : Nat} {r : ShutdownReason} (h : ofNumber? n = some r) :
    r.number = n := by
  have hn : n < 7 := (ofNumber?_isSome_iff n).1 (by simp [h])
  match n, hn with
  | 0, _ | 1, _ | 2, _ | 3, _ | 4, _ | 5, _ | 6, _ =>
      simp only [ofNumber?, all] at h
      cases h
      rfl

end ShutdownReason

namespace PowerFlag

/-- Give processes time to finish. -/
def graceful : UInt32 := 0x1

/-- Do not wait for processes. -/
def force : UInt32 := 0x2

/-- Announce nothing. -/
def noWait : UInt32 := 0x4

/-- Write no log lines. -/
def noLog : UInt32 := 0x8

/-- Whether `flag` is set in `flags`. -/
def isSet (flag flags : UInt32) : Bool := flags &&& flag != 0

end PowerFlag

/-- The two ways of going down. -/
inductive PowerKind
  | shutdown
  | reboot
deriving DecidableEq

/-- What the machine is doing. -/
inductive PowerState
  | running
  | shuttingDown
  | rebooting
deriving DecidableEq

end Interprocess

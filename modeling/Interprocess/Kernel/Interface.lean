import Interprocess.Grant.Token
import Interprocess.Kernel.Fault
import Interprocess.Message.Envelope
import Interprocess.Power.Reason

/-!
# The kernel as a process sees it

A `Kernel σ` is everything that one process can ask of its kernel, whose state is a `σ`.
Each request is a function on that state, so a kernel may be anything: a machine, a
simulation, or an adversary.  Requests that only look have no new state.

Nothing is assumed of a kernel here.  In particular `sleep` may take any time, and
`reports` may report anything.

Times are words of 64 bits.  A time that is reckoned from another starts over at zero where
the clocks do (`timeAfter`).
-/

namespace Interprocess

/-- Where the clocks start over: two to the 64th. -/
def clockPeriod : Nat := 0x10000000000000000

/-- The time on a clock that is some time after another. -/
def timeAfter (time span : Nat) : Nat := (time + span) % clockPeriod

theorem timeAfter_of_lt {time span : Nat} (h : time + span < clockPeriod) :
    timeAfter time span = time + span :=
  Nat.mod_eq_of_lt h

/-- The kernel of one process, with states in `σ`.  Times are in milliseconds on the
monotonic clock unless they are called seconds. -/
structure Kernel (σ : Type) where
  /-- The address of the process. -/
  pid : Pid
  /-- The monotonic clock. -/
  now : σ → Nat
  /-- The wall clock, in seconds. -/
  wallclock : σ → Nat
  /-- Wait for a time. -/
  sleep : Nat → σ → σ
  /-- Write a line to the log. -/
  log : String → σ → σ
  /-- Take an envelope to its receiver.  With the flag, reports about it can be asked for
  later under the sequence. -/
  send : Envelope → Bool → Sequence → σ → Except SendFault Unit × σ
  /-- Take an envelope to every process. -/
  broadcast : Envelope → σ → Except SendFault Unit × σ
  /-- Wait for an envelope, for a time at most. -/
  receive : Nat → σ → Except KernelFault (Option Envelope) × σ
  /-- Hand out every report about a sequence that is due, oldest first. -/
  reports : Sequence → σ → List Feedback × σ
  /-- How many envelopes wait. -/
  pending : σ → Except KernelFault Nat
  /-- Kind and sender of the first envelope that waits. -/
  peek : σ → Except KernelFault (Option (MessageKind × Pid))
  /-- Drop the envelopes that wait. -/
  clear : σ → Except KernelFault Unit × σ
  /-- Keep the children of the process alive when it exits; with the flag they may be
  killed in an emergency. -/
  protectChildren : Bool → σ → Except KernelFault Unit × σ
  /-- Ask for a token with these capabilities, for a purpose and a number of seconds. -/
  acquire : UInt32 → String → Nat → σ → Option Token × σ
  /-- Give a token back. -/
  release : Token → σ → Except KernelFault Unit × σ
  /-- Add seconds to the time of a token, and tell when it ends now. -/
  renew : Token → Nat → σ → Except KernelFault Nat × σ
  /-- The tokens that are granted to a process. -/
  grantsOf : Pid → σ → List Token
  /-- Put a token on the virtual port. -/
  portSend : Token → σ → Except KernelFault Unit × σ
  /-- Take the next token off the virtual port. -/
  portReceive : σ → Except KernelFault (Option Token) × σ
  /-- Take back the tokens that the process left on the virtual port. -/
  portClear : σ → Except KernelFault Unit × σ
  /-- Power off or reboot, for a reason given by number, with flags and a message. -/
  powerOff : PowerKind → Nat → UInt32 → String → σ → Except KernelFault Unit × σ
  /-- What the machine is doing. -/
  powerState : σ → Except KernelFault PowerState
  /-- Stay up after all. -/
  cancelPowerOff : σ → Except KernelFault Unit × σ

end Interprocess

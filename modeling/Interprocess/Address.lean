/-!
# Process addresses

A process is addressed by a 32-bit number.  Numbers up to `Pid.maxValid` name single
processes, the number `Pid.broadcast` means "every process", and nothing in between
is ever a valid receiver.
-/

namespace Interprocess

/-- A process address. -/
abbrev Pid := UInt32

namespace Pid

/-- The largest address of a single process. -/
def maxValid : Pid := 0xFFFF

/-- The reserved address that stands for all processes. -/
def broadcast : Pid := 0xFFFFFFFF

/-- The kernel itself, which takes exemption requests. -/
def kernel : Pid := 0

/-- The process that keeps the table of service names. -/
def directory : Pid := 1

/-- The process that coordinates power-off. -/
def powerManager : Pid := 1000

/-- Whether an envelope may be sent to `p` alone. -/
def isSingle (p : Pid) : Bool := decide (p ≤ maxValid)

end Pid

end Interprocess

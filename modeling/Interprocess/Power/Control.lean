import Interprocess.Endpoint.Sending
import Interprocess.Grant.Holder

/-!
# Power-off and reboot

A process that holds the capability may power the machine off or reboot it.  Unless the
request says that nobody waits, every process is told first; then the kernel is asked.  What
is announced is what is asked for: the same reason, flags and message.
-/

namespace Interprocess

namespace PowerKind

/-- The capability that a way of going down requires. -/
def capability : PowerKind → UInt32
  | shutdown => Capability.shutdown
  | reboot => Capability.reboot

/-- The verb in log lines. -/
def verb : PowerKind → String
  | shutdown => "shutdown"
  | reboot => "reboot"

/-- The message when none is given. -/
def standardMessage : PowerKind → String
  | shutdown => "System shutdown requested"
  | reboot => "System reboot requested"

/-- The message that is announced: the standard one for no message, else the given one cut to
its limit. -/
def announcedMessage (kind : PowerKind) (message : String) : String :=
  if message.isEmpty then kind.standardMessage else Text.cut maxShutdownMessageLength message

end PowerKind

namespace Endpoint

variable {σ : Type} (e : Endpoint σ)

/-- Write a log line unless the flags forbid it. -/
def logUnlessQuiet (flags : UInt32) (line : String) : Act σ Unit :=
  if PowerFlag.isSet PowerFlag.noLog flags then pure () else e.log line

/-- Tell every process that the machine goes down.  A failure is only logged. -/
def announcePower (notice : ShutdownNotice) : Act σ Unit := do
  match ← (e.broadcast MessageKind.shutdownRequest notice.flags (Utf8.encode notice.text)).run with
  | .ok () => pure ()
  | .error error =>
      e.logUnlessQuiet notice.flags
        (notice.kind.verb ++ ": announcement failed: " ++ error.message)

/-- Power off or reboot. -/
def powerOff (kind : PowerKind) (reason : ShutdownReason) (flags : UInt32) (message : String) :
    Attempt σ Unit := do
  if !(← e.check kind.capability) then
    e.logUnlessQuiet flags (kind.verb ++ ": denied, capability missing")
    throw .permissionDenied
  else
    let message := kind.announcedMessage message
    if !PowerFlag.isSet PowerFlag.noWait flags then
      e.announcePower { kind, reason, message, flags, sender := e.pid }
    e.logUnlessQuiet flags (kind.verb ++ ": reason=" ++ reason.name ++
      " flags=0x" ++ Text.hex flags.toNat ++ " message=" ++ message)
    Attempt.onKernel (e.kernel.powerOff kind reason.number flags message)

/-- What the machine is doing. -/
def powerState : Attempt σ PowerState := Attempt.ofKernel e.kernel.powerState

/-- Stay up after all. -/
def cancelPowerOff : Attempt σ Unit := do
  if !(← e.check Capability.shutdown) then
    throw .permissionDenied
  else
    Attempt.onKernel e.kernel.cancelPowerOff
    e.log "shutdown: cancelled"

end Endpoint
end Interprocess

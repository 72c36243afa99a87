import Interprocess.Address

/-!
# Message kinds

Every message carries a 32-bit kind.  Seven kinds are reserved for notices that all
processes understand; each is the ASCII code of a four-letter word.  All other numbers
are free for the commands of services.
-/

namespace Interprocess

/-- The kind of a message. -/
abbrev MessageKind := UInt32

namespace MessageKind

/-- `SHUT`: power-off or reboot is announced. -/
def shutdownRequest : MessageKind := 0x53485554

/-- `EXIT`: the receiver is asked to exit. -/
def exitRequest : MessageKind := 0x45584954

/-- `WAIT`: the sender is saving its state and asks for time. -/
def saveWait : MessageKind := 0x57414954

/-- `OKTH`: the sender has saved its state. -/
def saveDone : MessageKind := 0x4F4B5448

/-- `DONT`: the children of the sender must not be killed. -/
def doNotKill : MessageKind := 0x444F4E54

/-- `SERV`: a service came up or went down. -/
def serviceNotice : MessageKind := 0x53455256

/-- `SFAI`: a send of this process was refused.  Written by the process to itself. -/
def sendFailed : MessageKind := 0x53464149

/-- The reserved kinds. -/
def reserved : List MessageKind :=
  [shutdownRequest, exitRequest, saveWait, saveDone, doNotKill, serviceNotice, sendFailed]

/-- Whether `kind` is reserved. -/
def isReserved (kind : MessageKind) : Bool := reserved.contains kind

theorem reserved_nodup : reserved.Nodup := by decide

end MessageKind

/-! ## Announcements

The texts that open a plain-text announcement, or are the whole of one. -/

namespace Announcement

/-- Opens the announcement of a power-off. -/
def shutdown : String := "SHUTDOWN:"

/-- Opens the announcement of a reboot. -/
def reboot : String := "REBOOT:"

/-- Opens the announcement that the children of a process are protected. -/
def doNotKill : String := "DO_NOT_KILL:"

/-- Opens the same announcement when the kernel may still kill them in an emergency. -/
def doNotKillEmergency : String := "DO_NOT_KILL_EMERGENCY:"

/-- Opens the announcement that a service is up. -/
def serviceUp : String := "SERVICE_REGISTER:"

/-- Opens the announcement that a service is down. -/
def serviceDown : String := "SERVICE_UNREGISTER:"

/-- The body of a request for time to save state. -/
def saveWait : String := "WAIT"

/-- The body of the report that state is saved. -/
def saveDone : String := "OKTH"

end Announcement

end Interprocess

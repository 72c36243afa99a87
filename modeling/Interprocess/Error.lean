import Interprocess.Kernel.Fault
import Interprocess.Text.Numeral

/-!
# Errors

Every operation that can fail fails with an `Error`.  Three questions sort errors by what
a caller can do about them; an error about capabilities is never one about the transport
(`isTransportFailure_of_isCapabilityFailure`).
-/

namespace Interprocess

/-- Why an operation failed. -/
inductive Error
  /-- The input is refused before anything is sent. -/
  | invalidParameter
  /-- A table is full. -/
  | resourceLimit
  /-- There is no memory. -/
  | outOfMemory
  /-- A token is used by a process that does not own it. -/
  | notOwner
  /-- A token is past its time. -/
  | expired
  /-- A capability is missing, or the receiver cannot be reached by this sender. -/
  | permissionDenied
  /-- The other side cannot be reached. -/
  | serviceUnavailable
  /-- No answer came in time. -/
  | timeout
  /-- A payload of `length` bytes is over the `limit`. -/
  | bufferOverflow (length limit : Nat)
  /-- The kernel knows no such receiver. -/
  | invalidEndpoint
  /-- The queue of the receiver is full. -/
  | queueFull
  /-- The directory does not know the name. -/
  | notFound
  /-- This is registered already. -/
  | alreadyRegistered
  /-- The other side answered something that makes no sense. -/
  | protocol (detail : String)
deriving DecidableEq

namespace Error

/-- What an error says. -/
def message : Error → String
  | invalidParameter => "Invalid parameter"
  | resourceLimit => "Resource limit reached"
  | outOfMemory => "Out of memory"
  | notOwner => "Not the token owner"
  | expired => "Token expired"
  | permissionDenied => "Permission denied"
  | serviceUnavailable => "Service unavailable"
  | timeout => "Timed out"
  | bufferOverflow length limit =>
      "Payload too large: " ++ Text.decimal length ++ " bytes (max " ++ Text.decimal limit ++ ")"
  | invalidEndpoint => "Invalid endpoint"
  | queueFull => "Receiver queue full"
  | notFound => "Not found"
  | alreadyRegistered => "Already registered"
  | protocol detail => "Protocol error: " ++ detail

/-- Whether a new or renewed capability may help.  A receiver out of range is refused with
`permissionDenied` too, and there none does. -/
def isCapabilityFailure : Error → Bool
  | permissionDenied | notOwner | expired => true
  | _ => false

/-- Whether the transport itself failed. -/
def isTransportFailure : Error → Bool
  | serviceUnavailable | timeout | invalidEndpoint | queueFull | bufferOverflow _ _ => true
  | _ => false

/-- Whether there is no such peer: its name is unknown, or it cannot be reached. -/
def isNoSuchPeer : Error → Bool
  | notFound | serviceUnavailable | timeout | invalidEndpoint => true
  | _ => false

/-- The error for an envelope that the kernel refused. -/
def ofSendFault : SendFault → Error
  | .invalidEndpoint => invalidEndpoint
  | .queueFull => queueFull
  | .unavailable => serviceUnavailable

/-- The error for a request that the kernel refused. -/
def ofKernelFault : KernelFault → Error
  | .permissionDenied => permissionDenied
  | .notFound => notFound
  | .invalidArgument => invalidParameter
  | .outOfMemory => outOfMemory
  | .unavailable | .notSupported => serviceUnavailable

theorem isTransportFailure_of_isCapabilityFailure {e : Error}
    (h : e.isCapabilityFailure = true) : e.isTransportFailure = false := by
  cases e <;> simp_all [isCapabilityFailure, isTransportFailure]

theorem isTransportFailure_ofSendFault (fault : SendFault) :
    (ofSendFault fault).isTransportFailure = true := by
  cases fault <;> rfl

end Error

end Interprocess

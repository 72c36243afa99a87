/-!
# Faults of the kernel

The kernel refuses an envelope with a `SendFault`, and every other request with a
`KernelFault`.
-/

namespace Interprocess

/-- Why the kernel refused an envelope. -/
inductive SendFault
  | invalidEndpoint
  | queueFull
  | unavailable
deriving DecidableEq

/-- Why the kernel refused a request. -/
inductive KernelFault
  | permissionDenied
  | unavailable
  | notFound
  | invalidArgument
  | outOfMemory
  | notSupported
deriving DecidableEq

/-- What a fault says. -/
def SendFault.message : SendFault → String
  | .invalidEndpoint => "invalid endpoint"
  | .queueFull => "receiver queue full"
  | .unavailable => "IPC service unavailable"

/-- The number of a fault inside a send-failure notice. -/
def SendFault.code : SendFault → UInt8
  | .invalidEndpoint => 1
  | .queueFull => 2
  | .unavailable => 3

/-- What a fault says. -/
def KernelFault.message : KernelFault → String
  | .permissionDenied => "permission denied"
  | .unavailable => "kernel service unavailable"
  | .notFound => "not found"
  | .invalidArgument => "invalid argument"
  | .outOfMemory => "out of memory"
  | .notSupported => "not supported"

end Interprocess

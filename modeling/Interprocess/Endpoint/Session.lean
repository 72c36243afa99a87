import Interprocess.Endpoint.Process
import Interprocess.Kernel.Interface

/-!
# The session of a process

A `Session` is what a process remembers together with the state of its kernel, and an
`Endpoint` says which kernel and which configuration it works with.

Operations are of two kinds.  An `Act` always succeeds.  An `Attempt` may fail with an
`Error`, and what it did before it failed stays done.
-/

namespace Interprocess

/-- What a process works on. -/
structure Session (σ : Type) where
  /-- The state of its kernel. -/
  kernel : σ
  /-- What it remembers. -/
  process : Process

/-- An operation that always succeeds. -/
abbrev Act (σ : Type) := StateM (Session σ)

/-- An operation that may fail.  What was done before a failure stays done. -/
abbrev Attempt (σ : Type) := ExceptT Error (StateM (Session σ))

namespace Act

variable {σ α : Type}

/-- A request to the kernel. -/
def onKernel (f : σ → α × σ) : Act σ α :=
  modifyGet fun s => let r := f s.kernel; (r.1, { s with kernel := r.2 })

/-- A look at the kernel. -/
def ofKernel (f : σ → α) : Act σ α := do return f (← get).kernel

/-- A step of the process on its own. -/
def onProcess (f : Process → α × Process) : Act σ α :=
  modifyGet fun s => let r := f s.process; (r.1, { s with process := r.2 })

/-- A look at the process. -/
def ofProcess (f : Process → α) : Act σ α := do return f (← get).process

/-- A change of the process on its own. -/
def changeProcess (f : Process → Process) : Act σ Unit :=
  modify fun s => { s with process := f s.process }

end Act

namespace Attempt

variable {σ α ε : Type}

/-- A result that needs neither the kernel nor the process. -/
def ofExcept (result : Except Error α) : Attempt σ α := ExceptT.mk (pure result)

/-- An act whose fault, if it has one, becomes an error. -/
def ofResult (error : ε → Error) (act : Act σ (Except ε α)) : Attempt σ α :=
  ExceptT.mk do return (← act).mapError error

/-- A request that the kernel may refuse. -/
def onKernel (f : σ → Except KernelFault α × σ) : Attempt σ α :=
  ofResult Error.ofKernelFault (Act.onKernel f)

/-- A look that the kernel may refuse. -/
def ofKernel (f : σ → Except KernelFault α) : Attempt σ α :=
  ofResult Error.ofKernelFault (Act.ofKernel f)

end Attempt

/-- A kernel and a configuration. -/
structure Endpoint (σ : Type) where
  /-- The kernel. -/
  kernel : Kernel σ
  /-- The configuration. -/
  config : Config

namespace Endpoint

variable {σ : Type} (e : Endpoint σ)

/-- The address of the process. -/
def pid : Pid := e.kernel.pid

/-- The monotonic clock. -/
def now : Act σ Nat := Act.ofKernel e.kernel.now

/-- The wall clock. -/
def wallclock : Act σ Nat := Act.ofKernel e.kernel.wallclock

/-- Wait for a time. -/
def sleep (ms : Nat) : Act σ Unit := Act.onKernel fun k => ((), e.kernel.sleep ms k)

/-- Write a line to the log, marked as coming from this library. -/
def log (line : String) : Act σ Unit :=
  Act.onKernel fun k => ((), e.kernel.log ("[eclib] " ++ line) k)

/-- The first line that a process writes. -/
def greet : Act σ Unit :=
  e.log ("init pid=" ++ Text.decimal e.pid.toNat ++
    " ledger=" ++ Text.decimal e.config.ledgerCapacity ++
    " inbox=" ++ Text.decimal e.config.inboxCapacity)

end Endpoint

end Interprocess

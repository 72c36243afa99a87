import Interprocess.Address

/-!
# Configuration of a process

The sizes, times and well-known peers that a process works with.  The builders set one
thing each and raise values with which polling would not end or not begin: a poll
interval of zero becomes one millisecond, and a budget of no polls becomes one poll.
Fields that are written directly are not checked, so code that divides by the poll
interval raises it again.
-/

namespace Interprocess

/-- The tunables of a process.  Times are in milliseconds. -/
structure Config where
  /-- The largest number of records of sent messages. -/
  ledgerCapacity : Nat
  /-- The largest number of notices that the process queues for itself. -/
  inboxCapacity : Nat
  /-- How long news of an ordinary send is waited for. -/
  recordTimeout : Nat
  /-- The time between two polls of a call. -/
  pollInterval : Nat
  /-- How often an exemption request is polled. -/
  exemptionRetries : Nat
  /-- The time between two polls of an exemption request. -/
  exemptionPoll : Nat
  /-- Where exemption requests go. -/
  kernelPid : Pid
  /-- Where names are looked up. -/
  directoryPid : Pid
  /-- Who is told about saving state. -/
  powerManagerPid : Pid
  /-- The largest number of shutdown handlers. -/
  callbackCapacity : Nat
  /-- How long saving state may take. -/
  saveGrace : Nat
deriving DecidableEq

namespace Config

/-- The configuration that is used unless something else is asked for. -/
def standard : Config where
  ledgerCapacity := 32
  inboxCapacity := 16
  recordTimeout := 1000
  pollInterval := 10
  exemptionRetries := 10
  exemptionPoll := 10
  kernelPid := Pid.kernel
  directoryPid := Pid.directory
  powerManagerPid := Pid.powerManager
  callbackCapacity := 32
  saveGrace := 30000

/-- Set the capacity of the ledger. -/
def withLedgerCapacity (n : Nat) (c : Config) : Config := { c with ledgerCapacity := n }

/-- Set the capacity of the inbox. -/
def withInboxCapacity (n : Nat) (c : Config) : Config := { c with inboxCapacity := n }

/-- Set the timeout of ordinary sends. -/
def withRecordTimeout (ms : Nat) (c : Config) : Config := { c with recordTimeout := ms }

/-- Set the time between two polls of a call, at least one millisecond. -/
def withPollInterval (ms : Nat) (c : Config) : Config := { c with pollInterval := max 1 ms }

/-- Set how often, but at least once, and how slowly an exemption request is polled. -/
def withExemptionPoll (retries ms : Nat) (c : Config) : Config :=
  { c with exemptionRetries := max 1 retries, exemptionPoll := ms }

/-- Set the process that takes exemption requests. -/
def withKernelPid (p : Pid) (c : Config) : Config := { c with kernelPid := p }

/-- Set the process that looks up names. -/
def withDirectoryPid (p : Pid) (c : Config) : Config := { c with directoryPid := p }

/-- Set the process that is told about saving state. -/
def withPowerManagerPid (p : Pid) (c : Config) : Config := { c with powerManagerPid := p }

/-- Set the capacity of the table of shutdown handlers. -/
def withCallbackCapacity (n : Nat) (c : Config) : Config := { c with callbackCapacity := n }

/-- Set how long saving state may take. -/
def withSaveGrace (ms : Nat) (c : Config) : Config := { c with saveGrace := ms }

/-- The time between two polls of a call that is really used. -/
def callInterval (c : Config) : Nat := max 1 c.pollInterval

theorem callInterval_pos (c : Config) : 0 < c.callInterval := by
  simp only [callInterval]; omega

end Config

end Interprocess

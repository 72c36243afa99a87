import Interprocess.Endpoint.Call
import Interprocess.Naming.Message

/-!
# Names of services

A service is found by asking the directory process for its name.  Each request is one
call.  A name of no bytes or of more than `maxServiceNameLength` bytes is refused before
anything is sent.

A name that was registered or unregistered is announced to all processes.  The
announcement is a courtesy: if it fails, that is logged, and the request still succeeded.

A call may end without a response when nothing more will be known of it.  For registering
and unregistering that counts as success; a lookup has then nothing to tell and fails.
-/

namespace Interprocess

/-- Whether a name may be looked up and registered. -/
def isServiceName (name : String) : Bool :=
  decide (0 < name.utf8ByteSize) && decide (name.utf8ByteSize ≤ maxServiceNameLength)

/-- How long a lookup may take, in milliseconds. -/
def lookupTimeout : Nat := 1000

/-- How long registering may take, in milliseconds. -/
def registerTimeout : Nat := 1000

/-- How long unregistering may take, in milliseconds. -/
def unregisterTimeout : Nat := 500

namespace Announcement

/-- The text that tells that `pid` serves `name`. -/
def serviceUpText (name : String) (pid : Pid) : String :=
  serviceUp ++ name ++ ":" ++ Text.decimal pid.toNat

/-- The text that tells that nobody serves `name`. -/
def serviceDownText (name : String) : String := serviceDown ++ name

end Announcement

/-- The answer that bytes from the directory hold.  The error for other bytes is a text that goes on
to tell what is wrong with them; that detail is left out here. -/
def readAnswer (α : Type) [Json.Form α] (bytes : Bytes) : Except Error α :=
  match Json.decode? bytes with
  | some answer => .ok answer
  | none => .error (.protocol "Deserialize error")

/-- What the bytes that answer a lookup tell. -/
def readLookup (bytes : Bytes) : Except Error Pid := do
  let answer ← readAnswer LookupResponse bytes
  DirectoryStatus.outcome answer.status
  match answer.pid with
  | some pid => .ok pid
  | none => .error (.protocol "lookup response without pid")

/-- What the bytes that answer another request tell.  No bytes tell nothing bad. -/
def readStatus (bytes : Bytes) : Except Error Unit :=
  if bytes.isEmpty then .ok ()
  else do
    let answer ← readAnswer StatusResponse bytes
    DirectoryStatus.outcome answer.status

namespace Endpoint

variable {σ : Type} (e : Endpoint σ)

/-- Ask the directory. -/
def askDirectory (command : MessageKind) (request : Bytes) (timeout : Nat) : Attempt σ Bytes :=
  e.call e.config.directoryPid command request timeout

/-- Refuse a name that is empty or too long. -/
def checkName (name : String) : Attempt σ Unit :=
  if isServiceName name then pure () else throw .invalidParameter

/-- Tell every process about a service.  A failure is only logged. -/
def announceService (text : String) : Act σ Unit := do
  match ← (e.broadcast MessageKind.serviceNotice 0 (Utf8.encode text)).run with
  | .ok () => pure ()
  | .error error => e.log ("directory: notice failed text=" ++ text ++ " err=" ++ error.message)

/-- Find the process that serves `name`. -/
def lookup (name : String) : Attempt σ Pid := do
  checkName name
  let request : LookupRequest := { name }
  let bytes ← e.askDirectory DirectoryCommand.lookup (Json.encode request) lookupTimeout
  if bytes.isEmpty then
    e.log ("directory: lookup name=" ++ name ++ " got no answer")
    throw .serviceUnavailable
  else
    Attempt.ofExcept (readLookup bytes)

/-- Enter `name` for process `pid`. -/
def register (name : String) (pid : Pid) : Attempt σ Unit := do
  checkName name
  let request : RegisterRequest := { name, pid }
  let bytes ← e.askDirectory DirectoryCommand.register (Json.encode request) registerTimeout
  Attempt.ofExcept (readStatus bytes)
  e.log ("directory: registered name=" ++ name ++ " pid=" ++ Text.decimal pid.toNat)
  e.announceService (Announcement.serviceUpText name pid)

/-- Enter `name` for the process itself. -/
def registerSelf (name : String) : Attempt σ Unit := e.register name e.pid

/-- Drop `name`. -/
def unregister (name : String) : Attempt σ Unit := do
  checkName name
  let request : UnregisterRequest := { name }
  let bytes ← e.askDirectory DirectoryCommand.unregister (Json.encode request) unregisterTimeout
  Attempt.ofExcept (readStatus bytes)
  e.announceService (Announcement.serviceDownText name)

end Endpoint

end Interprocess

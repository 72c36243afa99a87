import Interprocess.Naming.Message
import Interprocess.Message.Json
import Interprocess.Table

/-!
# A directory process

The process that the requests of `Interprocess.Naming.Message` are meant for: a table of
names with a capacity.  It answers each request from its table at once.
-/

namespace Interprocess

/-- A directory process. -/
structure NameServer where
  /-- The largest number of names; `none` for no limit. -/
  capacity : Option Nat
  /-- The names, with the processes that serve them. -/
  names : Table String Pid

namespace NameServer

/-- A directory process without names. -/
def empty (capacity : Option Nat) : NameServer := { capacity, names := [] }

/-- Whether there is no room for another name. -/
def isFull (s : NameServer) : Bool :=
  match s.capacity with
  | some capacity => decide (capacity ≤ s.names.length)
  | none => false

/-- Answer a lookup. -/
def lookup (name : String) (s : NameServer) : LookupResponse :=
  match s.names.find? name with
  | some pid => { status := DirectoryStatus.ok, pid := some pid }
  | none => { status := DirectoryStatus.notFound, pid := none }

/-- Enter a name.  A name that is there stays as it is. -/
def register (name : String) (pid : Pid) (s : NameServer) : StatusResponse × NameServer :=
  if (s.names.find? name).isSome then ({ status := DirectoryStatus.taken }, s)
  else if s.isFull then ({ status := DirectoryStatus.full }, s)
  else ({ status := DirectoryStatus.ok }, { s with names := s.names.insert name pid })

/-- Drop a name. -/
def unregister (name : String) (s : NameServer) : StatusResponse × NameServer :=
  if (s.names.find? name).isSome then
    ({ status := DirectoryStatus.ok }, { s with names := s.names.erase name })
  else ({ status := DirectoryStatus.notFound }, s)

/-- Answer a request.  What is no request gets no bytes. -/
def serve (e : Envelope) (s : NameServer) : Bytes × NameServer :=
  if e.kind = DirectoryCommand.lookup then
    match (Json.decode? e.payload : Option LookupRequest) with
    | some request => (Json.encode (s.lookup request.name), s)
    | none => ([], s)
  else if e.kind = DirectoryCommand.register then
    match (Json.decode? e.payload : Option RegisterRequest) with
    | some request =>
        let (response, s) := s.register request.name request.pid
        (Json.encode response, s)
    | none => ([], s)
  else if e.kind = DirectoryCommand.unregister then
    match (Json.decode? e.payload : Option UnregisterRequest) with
    | some request =>
        let (response, s) := s.unregister request.name
        (Json.encode response, s)
    | none => ([], s)
  else ([], s)

end NameServer

end Interprocess

import Interprocess.Error
import Interprocess.Json.Record
import Interprocess.Message.Kind

/-!
# Messages of the name directory

A process asks the directory to look up, register or unregister a service name.  Requests
and answers are JSON; a status number says how a request went.
-/

namespace Interprocess

/-- The longest service name, in bytes. -/
def maxServiceNameLength : Nat := 63

namespace DirectoryCommand

/-- Asks for the process of a name. -/
def lookup : MessageKind := 0x5001

/-- Asks to enter a name. -/
def register : MessageKind := 0x5002

/-- Asks to drop a name. -/
def unregister : MessageKind := 0x5003

/-- An answer of the directory. -/
def response : MessageKind := 0x5004

end DirectoryCommand

namespace DirectoryStatus

/-- The request was carried out. -/
def ok : Int32 := 0

/-- The name is not registered. -/
def notFound : Int32 := -2

/-- The name is registered already. -/
def taken : Int32 := -3

/-- The table of names is full. -/
def full : Int32 := -4

/-- What a status number means for the process that asked. -/
def outcome (status : Int32) : Except Error Unit :=
  if status = ok then .ok ()
  else if status = notFound then .error .notFound
  else if status = taken then .error .alreadyRegistered
  else if status = full then .error .resourceLimit
  else .error (.protocol ("directory status " ++ Text.signedDecimal status.toInt))

end DirectoryStatus

/-- Asks which process serves `name`. -/
structure LookupRequest where
  name : String
deriving DecidableEq

/-- Tells which process serves a name. -/
structure LookupResponse where
  status : Int32
  pid : Option Pid
deriving DecidableEq

/-- Asks to enter `name` for `pid`. -/
structure RegisterRequest where
  name : String
  pid : Pid
deriving DecidableEq

/-- Asks to drop `name`. -/
structure UnregisterRequest where
  name : String
deriving DecidableEq

/-- Tells how a request to enter or drop a name went. -/
structure StatusResponse where
  status : Int32
deriving DecidableEq

/-- The status number that a tree means. -/
def Json.toStatus? (j : Json) : Option Int32 :=
  j.toInt?.bind fun i =>
    if -0x80000000 ≤ i ∧ i < 0x80000000 then some (Int32.ofInt i) else none

namespace LookupRequest

/-- The tree of a request. -/
def toJson (r : LookupRequest) : Json := Json.ofFields [("service_name", Json.ofText r.name)]

/-- The request that a tree means. -/
def ofJson? (j : Json) : Option LookupRequest := do
  match ← j.toFields? ["service_name"] 0 with
  | [some name] => some { name := ← name.toText? }
  | _ => none

instance : Json.Form LookupRequest := ⟨toJson, ofJson?⟩

end LookupRequest

namespace LookupResponse

/-- The tree of an answer. -/
def toJson (r : LookupResponse) : Json :=
  Json.ofFields [("status", Json.ofInt r.status.toInt),
    ("pid", match r.pid with
      | some pid => Json.ofWord pid
      | none => Json.null)]

/-- The process that a field means: none if it is left out or `null`. -/
def toPid? : Option Json → Option (Option Pid)
  | none | some .null => some none
  | some j => j.toWord?.map some

/-- The answer that a tree means. -/
def ofJson? (j : Json) : Option LookupResponse := do
  match ← j.toFields? ["status", "pid"] 1 with
  | [some status, pid] => some { status := ← status.toStatus?, pid := ← toPid? pid }
  | _ => none

instance : Json.Form LookupResponse := ⟨toJson, ofJson?⟩

end LookupResponse

namespace RegisterRequest

/-- The tree of a request. -/
def toJson (r : RegisterRequest) : Json :=
  Json.ofFields [("service_name", Json.ofText r.name), ("pid", Json.ofWord r.pid)]

/-- The request that a tree means. -/
def ofJson? (j : Json) : Option RegisterRequest := do
  match ← j.toFields? ["service_name", "pid"] 0 with
  | [some name, some pid] => some { name := ← name.toText?, pid := ← pid.toWord? }
  | _ => none

instance : Json.Form RegisterRequest := ⟨toJson, ofJson?⟩

end RegisterRequest

namespace UnregisterRequest

/-- The tree of a request. -/
def toJson (r : UnregisterRequest) : Json := Json.ofFields [("service_name", Json.ofText r.name)]

/-- The request that a tree means. -/
def ofJson? (j : Json) : Option UnregisterRequest := do
  match ← j.toFields? ["service_name"] 0 with
  | [some name] => some { name := ← name.toText? }
  | _ => none

instance : Json.Form UnregisterRequest := ⟨toJson, ofJson?⟩

end UnregisterRequest

namespace StatusResponse

/-- The tree of an answer. -/
def toJson (r : StatusResponse) : Json := Json.ofFields [("status", Json.ofInt r.status.toInt)]

/-- The answer that a tree means. -/
def ofJson? (j : Json) : Option StatusResponse := do
  match ← j.toFields? ["status"] 0 with
  | [some status] => some { status := ← status.toStatus? }
  | _ => none

instance : Json.Form StatusResponse := ⟨toJson, ofJson?⟩

end StatusResponse

end Interprocess

import Interprocess.Json.Record
import Interprocess.Power.Reason

/-!
# Shutdown reasons as JSON
-/

namespace Interprocess

namespace ShutdownReason

/-- The name of a reason in JSON. -/
def caseName : ShutdownReason → String
  | normal => "Normal"
  | reboot => "Reboot"
  | emergency => "Emergency"
  | userRequest => "UserRequest"
  | powerFailure => "PowerFailure"
  | thermal => "Thermal"
  | panic => "Panic"

/-- The tree of a reason. -/
def toJson (r : ShutdownReason) : Json := Json.ofText r.caseName

/-- The reason that a tree means. -/
def ofJson? (j : Json) : Option ShutdownReason := do
  let (name, contents) ← j.toVariant?
  if Json.isBareCase contents then all.find? fun r => r.caseName == name else none

instance : Json.Form ShutdownReason := ⟨toJson, ofJson?⟩

end ShutdownReason

end Interprocess

import Interprocess.Json.Record
import Interprocess.Message.Envelope

/-!
# Envelopes and feedback as JSON
-/

namespace Interprocess

namespace Envelope

/-- The fields of an envelope in order. -/
def fieldNames : List String :=
  ["message_id", "sender_pid", "receiver_pid", "payload", "sequence", "timestamp", "flags"]

/-- The tree of an envelope. -/
def toJson (e : Envelope) : Json :=
  Json.ofFields (fieldNames.zip
    [Json.ofWord e.kind, Json.ofWord e.sender, Json.ofWord e.receiver, Json.ofBytes e.payload,
      Json.ofNat e.sequence, Json.ofNat e.timestamp, Json.ofWord e.flags])

/-- The envelope that a tree means. -/
def ofJson? (j : Json) : Option Envelope := do
  match ← j.toFields? fieldNames 0 with
  | [some kind, some sender, some receiver, some payload, some sequence, some timestamp,
      some flags] =>
      some {
        kind := ← kind.toWord?
        sender := ← sender.toWord?
        receiver := ← receiver.toWord?
        payload := ← payload.toBytes?
        sequence := ← sequence.toLong?
        timestamp := ← timestamp.toLong?
        flags := ← flags.toWord? }
  | _ => none

instance : Json.Form Envelope := ⟨toJson, ofJson?⟩

end Envelope

namespace Feedback

/-- The name of a report. -/
def caseName : Feedback → String
  | sending => "Sending"
  | delivered => "Delivered"
  | received _ => "Received"
  | deliveryFailed => "DeliveryFailed"
  | permissionDenied => "PermissionDenied"
  | lost => "Lost"
  | unknown => "Unknown"

/-- The reports that carry no response. -/
def bare : List Feedback := [sending, delivered, deliveryFailed, permissionDenied, lost, unknown]

/-- The tree of a report. -/
def toJson : Feedback → Json
  | received response => Json.ofFields [("Received", Json.ofBytes response)]
  | report => Json.ofText report.caseName

/-- The report that a tree means. -/
def ofJson? (j : Json) : Option Feedback := do
  let (name, contents) ← j.toVariant?
  if name = "Received" then
    let contents ← contents
    let response ← contents.toBytes?
    some (received response)
  else if Json.isBareCase contents then
    bare.find? fun report => report.caseName == name
  else none

instance : Json.Form Feedback := ⟨toJson, ofJson?⟩

end Feedback

end Interprocess

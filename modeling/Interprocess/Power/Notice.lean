import Interprocess.Message.Envelope
import Interprocess.Power.Reason
import Interprocess.Text.Field
import Interprocess.Text.Numeral

/-!
# Shutdown notices

An announcement of power-off or reboot is a broadcast of kind `shutdownRequest` whose
payload is the text

  `SHUTDOWN:reason=<number>:message=<text>`   or   `REBOOT:reason=<number>:message=<text>`.

The message is everything after the first `:message=`, so it may itself contain any of
these words.
-/

namespace Interprocess

/-- The longest message of an announcement, in bytes. -/
def maxShutdownMessageLength : Nat := 255

/-- The announcement that the machine goes down. -/
structure ShutdownNotice where
  /-- Whether it comes up again. -/
  kind : PowerKind
  /-- Why it goes down. -/
  reason : ShutdownReason
  /-- What the users are told. -/
  message : String
  /-- The power flags of the request. -/
  flags : UInt32
  /-- The process that asked for it. -/
  sender : Pid
deriving DecidableEq

namespace ShutdownNotice

/-- The text that opens an announcement. -/
def opening : PowerKind → String
  | .shutdown => Announcement.shutdown
  | .reboot => Announcement.reboot

/-- The text before the number of the reason. -/
def reasonMark : String := "reason="

/-- The text between the number of the reason and the message. -/
def messageMark : String := ":message="

/-- The text of an announcement. -/
def text (n : ShutdownNotice) : String :=
  opening n.kind ++ reasonMark ++ Text.decimal n.reason.number ++ messageMark ++ n.message

/-- The envelope of an announcement to every process at time `now`. -/
def toEnvelope (now : Nat) (n : ShutdownNotice) : Envelope where
  kind := MessageKind.shutdownRequest
  sender := n.sender
  receiver := Pid.broadcast
  payload := Utf8.encode n.text
  sequence := 0
  timestamp := now
  flags := n.flags

/-- What an announcement announces, and its text after the opening. -/
def afterOpening? (text : List Char) : Option (PowerKind × List Char) :=
  match Text.afterHead? (opening .shutdown).toList text with
  | some rest => some (.shutdown, rest)
  | none => (Text.afterHead? (opening .reboot).toList text).map fun rest => (.reboot, rest)

/-- The reason that a numeral names.  One plus sign may stand before the digits. -/
def reason? (numeral : List Char) : Option ShutdownReason :=
  let digits := (Text.afterHead? ['+'] numeral).getD numeral
  (Text.ofDecimal? digits).bind ShutdownReason.ofNumber?

/-- The announcement that an envelope carries. -/
def ofEnvelope? (e : Envelope) : Option ShutdownNotice :=
  if e.kind = MessageKind.shutdownRequest then do
    let text ← e.text?
    let (kind, rest) ← afterOpening? text.toList
    let rest ← Text.afterHead? reasonMark.toList rest
    let (numeral, message) ← Text.splitAtFirst? messageMark.toList rest
    let reason ← reason? numeral
    some { kind, reason, message := String.ofList message, flags := e.flags, sender := e.sender }
  else none

end ShutdownNotice

end Interprocess

import Interprocess.Message.Kind
import Interprocess.Text.Utf8

/-!
# Envelopes and delivery feedback

An `Envelope` is one message on its way; `Feedback` is what the kernel reports about a
message that it accepted.
-/

namespace Interprocess

/-- The number of a message within its sending process.  Numbering starts at one, and no
number is used twice. -/
abbrev Sequence := Nat

/-- The largest payload of an envelope, in bytes. -/
def maxPayloadLength : Nat := 4096

/-- One message. -/
structure Envelope where
  /-- The kind of message. -/
  kind : MessageKind
  /-- The process that sent it. -/
  sender : Pid
  /-- The process it is for, or `Pid.broadcast`. -/
  receiver : Pid
  /-- What it says. -/
  payload : Bytes
  /-- Its number at the sender; zero for a broadcast. -/
  sequence : Sequence
  /-- When it was sent, in milliseconds; zero if that is not known. -/
  timestamp : Nat
  /-- The power flags of an announcement; otherwise zero. -/
  flags : UInt32
deriving DecidableEq

namespace Envelope

/-- Whether the envelope is for every process. -/
def isBroadcast (e : Envelope) : Bool := e.receiver == Pid.broadcast

/-- The payload as text, if it is valid UTF-8. -/
def text? (e : Envelope) : Option String := Utf8.decode? e.payload

/-- The envelope with `now` as its timestamp, unless it has one. -/
def stamped (now : Nat) (e : Envelope) : Envelope :=
  if e.timestamp = 0 then { e with timestamp := now } else e

end Envelope

/-- A report of the kernel about an accepted message. -/
inductive Feedback
  /-- Still being handed over. -/
  | sending
  /-- Placed in the queue of the receiver. -/
  | delivered
  /-- Consumed by the receiver, who answered `response`. -/
  | received (response : Bytes)
  /-- Could not be placed in the queue of the receiver. -/
  | deliveryFailed
  /-- The sender may not reach the receiver. -/
  | permissionDenied
  /-- The kernel lost the message. -/
  | lost
  /-- The kernel cannot tell. -/
  | unknown
deriving DecidableEq

end Interprocess

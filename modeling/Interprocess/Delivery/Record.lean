import Interprocess.Delivery.State

/-!
# Records of sent messages

A `SentRecord` is what a process remembers about one message that it sent.  Its timeout
runs from the time of sending; once that has passed the record is *stale*, and a stale
record that is still open is *overdue* and can be settled without news from the kernel.
-/

namespace Interprocess

/-- What is known about one sent message. -/
structure SentRecord where
  /-- The number of the message. -/
  sequence : Sequence
  /-- Where it went. -/
  destination : Pid
  /-- Its kind. -/
  kind : MessageKind
  /-- When it was sent, in milliseconds. -/
  sentAt : Nat
  /-- How long news of it is waited for, in milliseconds. -/
  timeout : Nat
  /-- How far it has come. -/
  state : DeliveryState
  /-- What the receiver answered, once it is received. -/
  response : Option Bytes
deriving DecidableEq

namespace SentRecord

/-- The record of a message that is about to be sent. -/
def start (sequence : Sequence) (destination : Pid) (kind : MessageKind) (sentAt timeout : Nat) :
    SentRecord :=
  { sequence, destination, kind, sentAt, timeout, state := .pending, response := none }

/-- Whether more than the timeout has passed at `now`.  A clock that stands before the
time of sending counts as no time passed. -/
def isStale (now : Nat) (r : SentRecord) : Bool := decide (r.timeout < now - r.sentAt)

/-- Whether the record is open although it is stale. -/
def isOverdue (now : Nat) (r : SentRecord) : Bool := !r.state.isTerminal && r.isStale now

/-- The state in which an open record ends when no news came in time: a message that the
kernel took is `unknown`, one that it never took is `lost`. -/
def verdict (r : SentRecord) : DeliveryState :=
  match r.state with
  | .sent | .delivered => .unknown
  | _ => .lost

/-- The record after its timeout was looked at. -/
def settle (now : Nat) (r : SentRecord) : SentRecord :=
  if r.isOverdue now then { r with state := r.verdict } else r

@[simp] theorem settle_sequence (now : Nat) (r : SentRecord) :
    (r.settle now).sequence = r.sequence := by
  unfold settle; split <;> rfl

end SentRecord

end Interprocess

import Interprocess.Delivery.Ledger
import Interprocess.Endpoint.Config
import Interprocess.Power.Callback

/-!
# What a process remembers

A process remembers the messages that it sent, the number of the next one, the notices
that it queued for itself, its shutdown handlers, and how long it may still save state.
This module holds what it does on its own; nothing here needs a kernel.

**Results.**  The inbox keeps its limit (`Inbox.length_push?_le`).
-/

namespace Interprocess

/-- The notices that a process queued for itself. -/
structure Inbox where
  /-- The largest number of notices. -/
  capacity : Nat
  /-- The notices, oldest first. -/
  waiting : List Envelope
deriving DecidableEq

namespace Inbox

/-- The inbox without notices. -/
def empty (capacity : Nat) : Inbox := { capacity, waiting := [] }

/-- The inbox with one more notice, if there is room. -/
def push? (notice : Envelope) (i : Inbox) : Option Inbox :=
  if i.waiting.length < i.capacity then some { i with waiting := i.waiting ++ [notice] }
  else none

theorem length_push?_le {notice : Envelope} {i j : Inbox} (h : i.push? notice = some j) :
    j.waiting.length ≤ j.capacity := by
  unfold push? at h
  split at h
  · next hroom =>
      cases h
      simp only [List.length_append, List.length_cons, List.length_nil]
      omega
  · simp at h

end Inbox

/-- What a process remembers. -/
structure Process where
  /-- The messages that it sent. -/
  ledger : Ledger
  /-- The sequence of the next message. -/
  nextSequence : Sequence
  /-- The notices that it queued for itself. -/
  inbox : Inbox
  /-- Who hears of shutdown announcements. -/
  callbacks : CallbackTable
  /-- When the time for saving state ends, while state is being saved. -/
  saveDeadline : Option Nat
deriving DecidableEq

namespace Process

/-- A process that did nothing yet. -/
def start (c : Config) : Process where
  ledger := Ledger.empty c.ledgerCapacity
  nextSequence := 1
  inbox := Inbox.empty c.inboxCapacity
  callbacks := CallbackTable.empty c.callbackCapacity
  saveDeadline := none

/-- Give out the next sequence and enter a record of the message, which is then being sent.
The flag tells whether the record was retained. -/
def enroll (destination : Pid) (kind : MessageKind) (now timeout : Nat) (p : Process) :
    (Sequence × Bool) × Process :=
  let sequence := p.nextSequence
  let p := { p with nextSequence := sequence + 1 }
  match p.ledger.insert? (SentRecord.start sequence destination kind now timeout) now with
  | some ledger =>
      ((sequence, true), { p with ledger := (ledger.advance sequence .sending).2 })
  | none => ((sequence, false), p)

/-- Move the record of a sequence. -/
def mark (sequence : Sequence) (next : DeliveryState) (p : Process) : Process :=
  { p with ledger := (p.ledger.advance sequence next).2 }

/-- Queue a notice if there is room, and tell whether there was. -/
def notify (notice : Envelope) (p : Process) : Bool × Process :=
  match p.inbox.push? notice with
  | some inbox => (true, { p with inbox })
  | none => (false, p)

/-- Take the oldest notice out of the inbox. -/
def nextNotice (p : Process) : Option Envelope × Process :=
  match p.inbox.waiting with
  | [] => (none, p)
  | notice :: rest => (some notice, { p with inbox := { p.inbox with waiting := rest } })

/-- Drop every notice. -/
def dropNotices (p : Process) : Process :=
  { p with inbox := Inbox.empty p.inbox.capacity }

/-- Take the record of a sequence out of the ledger. -/
def forget (sequence : Sequence) (p : Process) : Option SentRecord × Process :=
  let (record, ledger) := p.ledger.remove sequence
  (record, { p with ledger })

/-- What the process learns when it looks at a sequence. -/
structure Review where
  /-- The state of the sequence. -/
  state : DeliveryState
  /-- The records that were settled because their time was over. -/
  expired : List (Sequence × DeliveryState)
  /-- The moves that reports asked for and that could not be made. -/
  refused : List (DeliveryState × DeliveryState)
deriving DecidableEq

/-- Take in the reports about a sequence, then settle every overdue record. -/
def review (sequence : Sequence) (reports : List Feedback) (now : Nat) (p : Process) :
    Review × Process :=
  let (refused, ledger) := p.ledger.applyReports sequence reports
  let (expired, ledger) := ledger.expire now
  ({ state := ledger.stateOf sequence, expired, refused }, { p with ledger })

/-- Add a handler of shutdown announcements. -/
def registerHandler (handler : HandlerId) (userData : Nat) (p : Process) :
    Except Error Unit × Process :=
  match p.callbacks.register handler userData with
  | .ok callbacks => (.ok (), { p with callbacks })
  | .error error => (.error error, p)

/-- Drop a handler of shutdown announcements. -/
def unregisterHandler (handler : HandlerId) (p : Process) : Except Error Unit × Process :=
  match p.callbacks.unregister handler with
  | .ok callbacks => (.ok (), { p with callbacks })
  | .error error => (.error error, p)

end Process

end Interprocess

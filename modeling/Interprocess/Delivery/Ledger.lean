import Interprocess.Delivery.Record

/-!
# The ledger of sent messages

A ledger holds the records of messages that are under way or were sent recently, in the
order in which they were entered, and never more than its capacity.

**Overflow.**  Entering a record into a full ledger evicts the first record that is
terminal, or else the first one that is stale.  If there is neither, the new record is
not retained: the message still goes out, and its state is `unknown` to every query.

**Expiry.**  `expire` settles every overdue record.

Operations on a message act on the first record with its sequence.
-/

namespace Interprocess

/-- The records of sent messages, oldest first. -/
structure Ledger where
  /-- The largest number of records. -/
  capacity : Nat
  /-- The records in order of entry. -/
  records : List SentRecord
deriving DecidableEq

/-- What became of a report about a message. -/
inductive Advance
  /-- The record moved to this state. -/
  | applied (state : DeliveryState)
  /-- The report says nothing new; the record stays in this state. -/
  | ignored (state : DeliveryState)
  /-- A message in state `old` cannot become `new`; the record stays as it is. -/
  | illegal (old new : DeliveryState)
  /-- No record has this sequence. -/
  | untracked
deriving DecidableEq

/-- Change the first record of `sequence` in a list. -/
def SentRecord.updateFirst (sequence : Sequence) (f : SentRecord → SentRecord) :
    List SentRecord → List SentRecord
  | [] => []
  | r :: rest =>
      if r.sequence = sequence then f r :: rest else r :: updateFirst sequence f rest

namespace Ledger

/-- The ledger without records. -/
def empty (capacity : Nat) : Ledger := { capacity, records := [] }

/-- The number of records. -/
def size (l : Ledger) : Nat := l.records.length

/-- Whether there is no record. -/
def isEmpty (l : Ledger) : Bool := l.records.isEmpty

/-- The record of `sequence`. -/
def find? (sequence : Sequence) (l : Ledger) : Option SentRecord :=
  l.records.find? fun r => r.sequence == sequence

/-- The state of `sequence`; `unknown` when it has no record. -/
def stateOf (sequence : Sequence) (l : Ledger) : DeliveryState :=
  match l.find? sequence with
  | some r => r.state
  | none => .unknown

/-- The place of the record that a full ledger gives up at `now`. -/
def victim? (now : Nat) (l : Ledger) : Option Nat :=
  match l.records.findIdx? fun r => r.state.isTerminal with
  | some i => some i
  | none => l.records.findIdx? fun r => r.isStale now

/-- The ledger with `record` entered, or `none` if it cannot be retained. -/
def insert? (record : SentRecord) (now : Nat) (l : Ledger) : Option Ledger :=
  if l.capacity = 0 then none
  else if l.records.length < l.capacity then
    some { l with records := l.records ++ [record] }
  else
    match l.victim? now with
    | some i => some { l with records := l.records.eraseIdx i ++ [record] }
    | none => none

/-- Change the record of `sequence`. -/
def update (sequence : Sequence) (f : SentRecord → SentRecord) (l : Ledger) : Ledger :=
  { l with records := SentRecord.updateFirst sequence f l.records }

/-- Move the record of `sequence` to `next`, if that may follow its state. -/
def advance (sequence : Sequence) (next : DeliveryState) (l : Ledger) : Advance × Ledger :=
  match l.find? sequence with
  | none => (.untracked, l)
  | some r =>
      if r.state = next then (.ignored next, l)
      else if DeliveryState.canBecome next r.state then
        (.applied next, l.update sequence fun r => { r with state := next })
      else (.illegal r.state next, l)

/-- Take in one report of the kernel about `sequence`.  A report of `sending` only moves a
pending record, and the response of a report of `received` is kept when it moves one. -/
def applyFeedback (sequence : Sequence) (feedback : Feedback) (l : Ledger) : Advance × Ledger :=
  match feedback with
  | .sending =>
      match l.find? sequence with
      | none => (.untracked, l)
      | some r =>
          if r.state = .pending then l.advance sequence .sending else (.ignored r.state, l)
  | .received response =>
      match l.advance sequence .received with
      | (.applied s, moved) =>
          (.applied s, moved.update sequence fun r => { r with response := some response })
      | other => other
  | report => l.advance sequence report.reportedState

/-- Take in reports about `sequence` in order, with the moves that were refused. -/
def applyReports (sequence : Sequence) :
    List Feedback → Ledger → List (DeliveryState × DeliveryState) × Ledger
  | [], l => ([], l)
  | report :: rest, l =>
      let (outcome, l) := l.applyFeedback sequence report
      let (refused, l) := applyReports sequence rest l
      match outcome with
      | .illegal old new => ((old, new) :: refused, l)
      | _ => (refused, l)

/-- Settle every overdue record, and list those with their new states. -/
def expire (now : Nat) (l : Ledger) : List (Sequence × DeliveryState) × Ledger :=
  ((l.records.filter fun r => r.isOverdue now).map fun r => (r.sequence, r.verdict),
    { l with records := l.records.map fun r => r.settle now })

/-- The ledger without the record of `sequence`. -/
def erase (sequence : Sequence) (l : Ledger) : Ledger :=
  { l with records := l.records.eraseP fun r => r.sequence == sequence }

/-- Take the record of `sequence` out. -/
def remove (sequence : Sequence) (l : Ledger) : Option SentRecord × Ledger :=
  (l.find? sequence, l.erase sequence)

/-- The ledger with every record dropped. -/
def clear (l : Ledger) : Ledger := empty l.capacity

@[simp] theorem clear_records (l : Ledger) : l.clear.records = [] := rfl

theorem find?_eq_some_sequence {sequence : Sequence} {l : Ledger} {r : SentRecord}
    (h : l.find? sequence = some r) : r.sequence = sequence := by
  have := List.find?_some h
  simpa using this

end Ledger

/-- A request to a ledger. -/
inductive LedgerRequest
  /-- Enter a record at a time. -/
  | insert (record : SentRecord) (now : Nat)
  /-- Move a record. -/
  | advance (sequence : Sequence) (next : DeliveryState)
  /-- Take in a report. -/
  | feedback (sequence : Sequence) (report : Feedback)
  /-- Settle what is overdue. -/
  | expire (now : Nat)
  /-- Take a record out. -/
  | remove (sequence : Sequence)
  /-- Drop every record. -/
  | clear
deriving DecidableEq

/-- The answer of a ledger to a request. -/
inductive LedgerAnswer
  /-- Whether the record was retained. -/
  | retained (yes : Bool)
  /-- What became of a report or a move. -/
  | advance (outcome : Advance)
  /-- The records that were settled. -/
  | settled (records : List (Sequence × DeliveryState))
  /-- The record that was taken out. -/
  | removed (record : Option SentRecord)
  /-- Nothing to tell. -/
  | cleared
deriving DecidableEq

namespace Ledger

/-- Carry out a request. -/
def perform : LedgerRequest → Ledger → LedgerAnswer × Ledger
  | .insert record now, l =>
      match l.insert? record now with
      | some l => (.retained true, l)
      | none => (.retained false, l)
  | .advance sequence next, l =>
      let (outcome, l) := l.advance sequence next
      (.advance outcome, l)
  | .feedback sequence report, l =>
      let (outcome, l) := l.applyFeedback sequence report
      (.advance outcome, l)
  | .expire now, l =>
      let (settled, l) := l.expire now
      (.settled settled, l)
  | .remove sequence, l =>
      let (record, l) := l.remove sequence
      (.removed record, l)
  | .clear, l => (.cleared, l.clear)

/-- Carry out requests in order. -/
def run (requests : List LedgerRequest) (l : Ledger) : Ledger :=
  requests.foldl (fun l request => (l.perform request).2) l

end Ledger

end Interprocess

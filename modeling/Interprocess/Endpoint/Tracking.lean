import Interprocess.Endpoint.Session

/-!
# Following sent messages

`state` asks the kernel for news of one sequence, takes it in, and then settles every record
whose time is over, in this order.  So news of the sequence itself is never lost to a
timeout, but the other records may be settled before their news is asked for.
-/

namespace Interprocess

namespace Act

variable {σ : Type}

/-- Move the record of a sequence, if it was retained. -/
def mark (tracked : Bool) (sequence : Sequence) (next : DeliveryState) : Act σ Unit :=
  if tracked then changeProcess (Process.mark sequence next) else pure ()

/-- Take the record of a sequence out of the ledger. -/
def forget (sequence : Sequence) : Act σ (Option SentRecord) :=
  onProcess (Process.forget sequence)

/-- Drop the record of a sequence. -/
def drop (sequence : Sequence) : Act σ Unit := do
  let _ ← forget sequence

/-- The record of a sequence. -/
def record (sequence : Sequence) : Act σ (Option SentRecord) :=
  ofProcess fun p => p.ledger.find? sequence

/-- Drop every record and every notice. -/
def shutdownLedger : Act σ Unit :=
  changeProcess fun p => { p.dropNotices with ledger := p.ledger.clear }

end Act

namespace Endpoint

variable {σ : Type} (e : Endpoint σ)

/-- The state of a sequence after all news of it is taken in and every overdue record is
settled. -/
def state (sequence : Sequence) : Act σ DeliveryState := do
  let reports ← Act.onKernel (e.kernel.reports sequence)
  let now ← e.now
  let review ← Act.onProcess (Process.review sequence reports now)
  review.expired.forM fun settled =>
    e.log ("ledger: expired seq=" ++ Text.decimal settled.1 ++ " -> " ++ settled.2.name)
  review.refused.forM fun move =>
    e.log ("ledger: ignored transition seq=" ++ Text.decimal sequence ++ " " ++ move.1.name ++
      " -> " ++ move.2.name)
  return review.state

end Endpoint

end Interprocess

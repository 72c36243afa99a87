import Interprocess.Message.Envelope

/-!
# Delivery states

The life of a sent message.  The usual path is

  `pending → sending → sent → delivered → received`,

where `delivered` may be skipped.  From `sending` on a message may also end in
`permissionDenied`, `lost` or `unknown`; the step to the kernel may end in `sentFailed`,
and the step to the queue of the receiver in `deliveryFailed`.  Six states are terminal:
nothing follows them (`not_canBecome_of_isTerminal`).
-/

namespace Interprocess

/-- How far a sent message has come. -/
inductive DeliveryState
  /-- Entered, and not yet handed to the kernel. -/
  | pending
  /-- Being handed to the kernel. -/
  | sending
  /-- Accepted by the kernel. -/
  | sent
  /-- Refused by the kernel. -/
  | sentFailed
  /-- In the queue of the receiver. -/
  | delivered
  /-- Could not be placed in the queue of the receiver. -/
  | deliveryFailed
  /-- Consumed by the receiver. -/
  | received
  /-- The sender may not reach the receiver. -/
  | permissionDenied
  /-- Lost by the kernel. -/
  | lost
  /-- Nothing further will be known. -/
  | unknown
deriving DecidableEq

namespace DeliveryState

/-- Every state, in the order of a message's life. -/
def all : List DeliveryState :=
  [pending, sending, sent, sentFailed, delivered, deliveryFailed, received, permissionDenied,
    lost, unknown]

/-- Whether nothing can follow. -/
def isTerminal : DeliveryState → Bool
  | sentFailed | deliveryFailed | received | permissionDenied | lost | unknown => true
  | pending | sending | sent | delivered => false

/-- Whether the message certainly did not arrive. -/
def isFailure : DeliveryState → Bool
  | sentFailed | deliveryFailed | permissionDenied | lost => true
  | pending | sending | sent | delivered | received | unknown => false

/-- Whether the state may come about at any point after the hand-over began. -/
def isAside : DeliveryState → Bool
  | permissionDenied | lost | unknown => true
  | _ => false

/-- Whether `next` may directly follow a state. -/
def canBecome (next : DeliveryState) : DeliveryState → Bool
  | pending => next == sending
  | sending => next == sent || next == sentFailed || next.isAside
  | sent => next == delivered || next == deliveryFailed || next == received || next.isAside
  | delivered => next == received || next.isAside
  | _ => false

/-- The states that may directly follow a state. -/
def successors (s : DeliveryState) : List DeliveryState := all.filter fun next => canBecome next s

/-- The name of a state in log lines. -/
def name : DeliveryState → String
  | pending => "pending"
  | sending => "sending"
  | sent => "sent"
  | sentFailed => "sent-failed"
  | delivered => "delivered"
  | deliveryFailed => "delivery-failed"
  | received => "received"
  | permissionDenied => "permission-denied"
  | lost => "lost"
  | unknown => "unknown"

theorem mem_all (s : DeliveryState) : s ∈ all := by cases s <;> decide

theorem not_canBecome_of_isTerminal {s : DeliveryState} (h : s.isTerminal = true)
    (next : DeliveryState) : canBecome next s = false := by
  cases s <;> simp_all [isTerminal, canBecome]

theorem mem_successors {s next : DeliveryState} :
    next ∈ s.successors ↔ canBecome next s = true := by
  simp [successors, mem_all]

theorem isTerminal_of_isFailure {s : DeliveryState} (h : s.isFailure = true) :
    s.isTerminal = true := by
  cases s <;> simp_all [isTerminal, isFailure]

end DeliveryState

namespace Feedback

/-- The state that a report announces. -/
def reportedState : Feedback → DeliveryState
  | sending => .sending
  | delivered => .delivered
  | received _ => .received
  | deliveryFailed => .deliveryFailed
  | permissionDenied => .permissionDenied
  | lost => .lost
  | unknown => .unknown

end Feedback

end Interprocess

import Interprocess.Endpoint.Sending

/-!
# Calls

A call sends a request once and then looks at its state at a fixed interval until the
state is terminal or the budget is used up.  The budget is counted in polls: as many as
the interval fits into the timeout, and at least one.

However the wait ends, the record of the request is gone afterwards.  A call whose send the kernel
refuses does not come to the wait.
-/

namespace Interprocess

/-- What a state means to a caller who waits for a response. -/
inductive CallOutcome
  /-- The response is there. -/
  | answered
  /-- Nothing will be known; the request counts as carried out, without a response. -/
  | unreported
  /-- The request failed. -/
  | failed (error : Error)
  /-- There is nothing yet. -/
  | undecided
deriving DecidableEq

/-- What a state means to a caller who waits for a response. -/
def DeliveryState.callOutcome : DeliveryState → CallOutcome
  | .received => .answered
  | .unknown => .unreported
  | .deliveryFailed | .lost | .sentFailed => .failed .serviceUnavailable
  | .permissionDenied => .failed .permissionDenied
  | .pending | .sending | .sent | .delivered => .undecided

/-- Take the record of a sequence out of the ledger, and give the response that it holds. -/
def Act.takeResponse {σ : Type} (sequence : Sequence) : Act σ Bytes := do
  let record ← Act.forget sequence
  return (record.bind SentRecord.response).getD []

namespace Endpoint

variable {σ : Type} (e : Endpoint σ)

/-- How a call is named in log lines. -/
def callText (sequence : Sequence) (destination : Pid) (kind : MessageKind) : String :=
  "seq=" ++ Text.decimal sequence ++ " to=" ++ Text.decimal destination.toNat ++
    " msg=" ++ kindText kind

/-- Wait for the response to the request with a sequence, which has `call` as its name in
log lines, for a number of polls. -/
def awaitResponse (sequence : Sequence) (call : String) (timeout : Nat) :
    Nat → Attempt σ Bytes
  | 0 => do
      (Act.drop sequence : Act σ Unit)
      e.log ("call: timeout " ++ call ++ " after=" ++ Text.decimal timeout ++ "ms")
      throw .timeout
  | polls + 1 => do
      let state ← e.state sequence
      match state.callOutcome with
      | .answered =>
          (Act.takeResponse sequence : Act σ Bytes)
      | .unreported =>
          (Act.drop sequence : Act σ Unit)
          pure []
      | .failed error =>
          (Act.drop sequence : Act σ Unit)
          e.log ("call: failed " ++ call ++ " err=" ++ error.message)
          throw error
      | .undecided =>
          e.sleep e.config.callInterval
          awaitResponse sequence call timeout polls

/-- Send a request and wait for its response, for about `timeout` milliseconds. -/
def call (destination : Pid) (kind : MessageKind) (request : Bytes) (timeout : Nat) :
    Attempt σ Bytes := do
  let sequence ← e.sendWithTimeout destination kind request true timeout
  e.awaitResponse sequence (callText sequence destination kind) timeout
    (max 1 (timeout / e.config.callInterval))

end Endpoint
end Interprocess

import Interprocess.Endpoint.Tracking

/-!
# Sending

A send is refused on the spot if its receiver is not a single process or its payload is
too long.  Otherwise it takes the next sequence, enters a record, and goes to the kernel
exactly once.  When the kernel refuses a send for which feedback was asked, the process
also queues a notice for itself that says which send failed and why.

A broadcast has no sequence, no record and no feedback.
-/

namespace Interprocess

namespace Endpoint

variable {σ : Type} (e : Endpoint σ)

/-- A message kind in log lines. -/
def kindText (kind : MessageKind) : String := "0x" ++ Text.hexPadded 8 kind.toNat

/-- What a send-failure notice says: sequence, destination and kind of the send, each
lowest byte first, and the code of the fault. -/
def failurePayload (sequence : Sequence) (destination : Pid) (kind : MessageKind)
    (fault : SendFault) : Bytes :=
  littleEndian 8 sequence ++ littleEndian 4 destination.toNat ++ littleEndian 4 kind.toNat ++
    [fault.code]

/-- The notice that a send failed, written at `now` by process `self` to itself. -/
def failureNotice (self : Pid) (now : Nat) (failed : Envelope) (fault : SendFault) : Envelope where
  kind := MessageKind.sendFailed
  sender := self
  receiver := self
  payload := failurePayload failed.sequence failed.receiver failed.kind fault
  sequence := failed.sequence
  timestamp := now
  flags := 0

/-- Record that the kernel refused an envelope, and tell why. -/
def refuse (envelope : Envelope) (wantsFeedback tracked : Bool) (fault : SendFault) :
    Act σ Unit := do
  let now ← e.now
  Act.mark tracked envelope.sequence .sentFailed
  let queued ←
    if wantsFeedback then
      Act.onProcess (Process.notify (failureNotice e.pid now envelope fault))
    else pure false
  e.log ("send: failed seq=" ++ Text.decimal envelope.sequence ++
    " to=" ++ Text.decimal envelope.receiver.toNat ++ " msg=" ++ kindText envelope.kind ++
    " err=" ++ fault.message ++ " notice=" ++ (if queued then "true" else "false"))

/-- Give out a sequence and enter a record, and tell whether the record was retained. -/
def enroll (receiver : Pid) (kind : MessageKind) (now timeout : Nat) :
    Act σ (Sequence × Bool) := do
  let (sequence, tracked) ← Act.onProcess (Process.enroll receiver kind now timeout)
  if !tracked then
    e.log ("send: ledger full, seq=" ++ Text.decimal sequence ++ " untracked")
  return (sequence, tracked)

/-- Hand an envelope to the kernel. -/
def submit (envelope : Envelope) (wantsFeedback : Bool) (sequence : Sequence) :
    Act σ (Except SendFault Unit) :=
  Act.onKernel (e.kernel.send envelope wantsFeedback sequence)

/-- Send a message that may be sent. -/
def post (receiver : Pid) (kind : MessageKind) (payload : Bytes) (wantsFeedback : Bool)
    (timeout : Nat) : Attempt σ Sequence := do
  let now ← e.now
  let (sequence, tracked) ← e.enroll receiver kind now timeout
  let envelope : Envelope :=
    { kind, sender := e.pid, receiver, payload, sequence, timestamp := now, flags := 0 }
  match ← e.submit envelope wantsFeedback sequence with
  | .ok () =>
      (Act.mark tracked sequence .sent : Act σ Unit)
      pure sequence
  | .error fault =>
      e.refuse envelope wantsFeedback tracked fault
      throw (Error.ofSendFault fault)

/-- Send a message, and wait for news of it for `timeout` milliseconds. -/
def sendWithTimeout (receiver : Pid) (kind : MessageKind) (payload : Bytes)
    (wantsFeedback : Bool) (timeout : Nat) : Attempt σ Sequence :=
  if !receiver.isSingle then do
    e.log ("send: rejected pid=" ++ Text.decimal receiver.toNat ++ " above max")
    throw .permissionDenied
  else if maxPayloadLength < payload.length then
    throw (.bufferOverflow payload.length maxPayloadLength)
  else
    e.post receiver kind payload wantsFeedback timeout

/-- Send a message. -/
def send (receiver : Pid) (kind : MessageKind) (payload : Bytes) (wantsFeedback : Bool) :
    Attempt σ Sequence :=
  e.sendWithTimeout receiver kind payload wantsFeedback e.config.recordTimeout

/-- Send a message to every process.  It has no sequence and no record. -/
def broadcast (kind : MessageKind) (flags : UInt32) (payload : Bytes) : Attempt σ Unit :=
  if maxPayloadLength < payload.length then
    throw (.bufferOverflow payload.length maxPayloadLength)
  else do
    let now ← e.now
    let envelope : Envelope :=
      { kind, sender := e.pid, receiver := Pid.broadcast, payload, sequence := 0,
        timestamp := now, flags }
    Attempt.ofResult Error.ofSendFault (Act.onKernel (e.kernel.broadcast envelope))

end Endpoint

end Interprocess

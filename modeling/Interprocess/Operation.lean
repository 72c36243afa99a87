import Interprocess.Endpoint.Receiving
import Interprocess.Naming.Client
import Interprocess.Power.Control
import Interprocess.Power.SaveWindow

/-!
# Operations of a process

Everything that a process can ask of this library, as data: an `Operation` names a request
with its arguments, and `Endpoint.perform` carries it out.  Shutdown announcements are not
among them, because they run handlers, which may do anything; see `dispatchNotice`.

With operations as data, a run of a process is a list, and a statement about all runs is
a statement about all lists (`Endpoint.performAll`).
-/

namespace Interprocess

/-- A value that an operation answers. -/
inductive Value
  | nothing
  | number (n : Nat)
  | flag (b : Bool)
  | bytes (b : Bytes)
  | state (s : DeliveryState)
  | record (r : SentRecord)
  | feedback (f : Feedback)
  | envelope (e : Envelope)
  | envelopes (es : List Envelope)
  | head (kind : MessageKind) (sender : Pid)
  | token (t : Token)
  | tokens (ts : List Token)
  | power (p : PowerState)
  | config (c : Config)
deriving DecidableEq

namespace Value

/-- The value of an option: nothing, or the value inside. -/
def ofOption {α : Type} (f : α → Value) : Option α → Value
  | none => nothing
  | some a => f a

end Value

/-- The answer to an operation. -/
inductive Answer
  /-- A value. -/
  | value (v : Value)
  /-- A value, or the error of an operation that failed. -/
  | attempt (r : Except Error Value)
  /-- How an operation on a token went, and the token as it is afterwards. -/
  | tokenAfter (r : Except Error Unit) (t : Token)
  /-- A value, or a fault of the kernel. -/
  | kernel (r : Except KernelFault Value)
  /-- Whether the kernel took an envelope. -/
  | submitted (r : Except SendFault Unit)

namespace Answer

/-- The answer of an attempt. -/
def ofAttempt {α : Type} (f : α → Value) (r : Except Error α) : Answer := attempt (r.map f)

/-- The answer of an attempt that has nothing to tell. -/
def ofDone (r : Except Error Unit) : Answer := ofAttempt (fun _ => .nothing) r

/-- The token that an answer hands out. -/
def token? : Answer → Option Token
  | value (.token t) => some t
  | attempt (.ok (.token t)) => some t
  | kernel (.ok (.token t)) => some t
  | _ => none

end Answer

/-- A request of a process to this library. -/
inductive Operation
  | pid
  | config
  | send (receiver : Pid) (kind : MessageKind) (payload : Bytes) (wantsFeedback : Bool)
      (timeout : Option Nat)
  | broadcast (kind : MessageKind) (flags : UInt32) (payload : Bytes)
  | receive (timeout : Nat)
  | queueLength
  | peek
  | clearQueue
  | state (sequence : Sequence)
  | forget (sequence : Sequence)
  | record (sequence : Sequence)
  | shutdownLedger
  | call (destination : Pid) (kind : MessageKind) (request : Bytes) (timeout : Nat)
  | lookup (name : String)
  | registerSelf (name : String)
  | register (name : String) (pid : Pid)
  | unregister (name : String)
  | acquire (capabilities : UInt32) (description : String) (seconds : Nat)
  | release (token : Token)
  | renew (token : Token) (seconds : Nat)
  | validate (token : Token) (required : UInt32)
  | check (required : UInt32)
  | checkFor (required : UInt32) (pid : Pid)
  | portSend (token : Token)
  | portReceive
  | portClear
  | powerOff (kind : PowerKind) (reason : ShutdownReason) (flags : UInt32) (message : String)
  | powerState
  | cancelPowerOff
  | registerHandler (handler : HandlerId) (userData : Nat)
  | unregisterHandler (handler : HandlerId)
  | handlerCount
  | protectChildren (emergencyOk : Bool)
  | requestExemption (timeout : Nat)
  | beginSave
  | saveComplete
  | remainingTime
  | isSaving
deriving DecidableEq

namespace Endpoint

variable {σ : Type} (e : Endpoint σ)

/-- Carry out an attempt and answer its value. -/
def answering {α : Type} (f : α → Value) (attempt : Attempt σ α) : Act σ Answer := do
  return Answer.ofAttempt f (← attempt.run)

/-- Carry out an attempt that has nothing to tell. -/
def answeringDone (attempt : Attempt σ Unit) : Act σ Answer :=
  answering (fun _ => .nothing) attempt

/-- Carry out an attempt to change `token`, which stays as it is if that fails. -/
def answeringToken (token : Token) (attempt : Attempt σ Token) : Act σ Answer := do
  match ← attempt.run with
  | .ok changed => return .tokenAfter (.ok ()) changed
  | .error error => return .tokenAfter (.error error) token

/-- Carry out an operation. -/
def perform : Operation → Act σ Answer
  | .pid => return .value (.number e.pid.toNat)
  | .config => return .value (.config e.config)
  | .send receiver kind payload wantsFeedback none =>
      answering .number (e.send receiver kind payload wantsFeedback)
  | .send receiver kind payload wantsFeedback (some timeout) =>
      answering .number (e.sendWithTimeout receiver kind payload wantsFeedback timeout)
  | .broadcast kind flags payload => answeringDone (e.broadcast kind flags payload)
  | .receive timeout => answering .envelope (e.receive timeout)
  | .queueLength => answering .number e.queueLength
  | .peek => answering (Value.ofOption fun head => .head head.1 head.2) e.peek
  | .clearQueue => answeringDone e.clearQueue
  | .state sequence => return .value (.state (← e.state sequence))
  | .forget sequence => return .value (Value.ofOption .record (← Act.forget sequence))
  | .record sequence => return .value (Value.ofOption .record (← Act.record sequence))
  | .shutdownLedger => do
      Act.shutdownLedger
      return .value .nothing
  | .call destination kind request timeout =>
      answering .bytes (e.call destination kind request timeout)
  | .lookup name => answering (fun pid => .number pid.toNat) (e.lookup name)
  | .registerSelf name => answeringDone (e.registerSelf name)
  | .register name pid => answeringDone (e.register name pid)
  | .unregister name => answeringDone (e.unregister name)
  | .acquire capabilities description seconds =>
      return .value (Value.ofOption .token (← e.acquire capabilities description seconds))
  | .release token => answeringToken token (e.release token)
  | .renew token seconds => answeringToken token (e.renew token seconds)
  | .validate token required => return .value (.flag (← e.validate token required))
  | .check required => return .value (.flag (← e.check required))
  | .checkFor required pid => return .value (.flag (← e.checkFor required pid))
  | .portSend token => answeringDone (e.portSend token)
  | .portReceive => answering (Value.ofOption .token) e.portReceive
  | .portClear => answeringDone e.portClear
  | .powerOff kind reason flags message => answeringDone (e.powerOff kind reason flags message)
  | .powerState => answering .power e.powerState
  | .cancelPowerOff => answeringDone e.cancelPowerOff
  | .registerHandler handler userData =>
      return .ofDone (← Act.onProcess (Process.registerHandler handler userData))
  | .unregisterHandler handler =>
      return .ofDone (← Act.onProcess (Process.unregisterHandler handler))
  | .handlerCount => return .value (.number (← Act.ofProcess fun p => p.callbacks.size))
  | .protectChildren emergencyOk => answeringDone (e.protectChildren emergencyOk)
  | .requestExemption timeout => answeringDone (e.requestExemption timeout)
  | .beginSave => answeringDone e.beginSave
  | .saveComplete => answeringDone e.saveComplete
  | .remainingTime => return .value (.number (← e.remainingTime))
  | .isSaving => return .value (.flag (← Act.isSaving))

/-- Carry out operations one after the other. -/
def performAll : List Operation → Act σ Unit
  | [] => pure ()
  | operation :: rest => do
      let _ ← e.perform operation
      performAll rest

end Endpoint

end Interprocess

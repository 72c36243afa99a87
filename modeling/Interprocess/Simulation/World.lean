import Interprocess.Kernel.Interface
import Interprocess.Simulation.NameServer

/-!
# A world of processes

The kernel side of a small system of processes, as a value: mailboxes, the reports that
are due, the grant authority, the virtual port, and the power of the machine.  Time passes
only when someone sleeps or waits, so a run takes no time and always goes the same way.

Both clocks are 64-bit counters that start over at zero, and so is the end of a token, which is
reckoned from the wall clock.  Counters of single events, such as the ids of tokens, are not
bounded.

What the processes on the other side do with the envelopes that reach them is given by a
`Responder` for each address.  An address without one answers every envelope with nothing.
-/

namespace Interprocess

/-- What a simulated peer does with an envelope sent to it. -/
inductive Responder
  /-- It causes the reports that a function gives. -/
  | function (reports : Envelope → List Feedback)
  /-- It is a directory process. -/
  | directory (server : NameServer)

namespace Responder

/-- A peer that causes the same reports for every envelope. -/
def always (reports : List Feedback) : Responder := function fun _ => reports

/-- A peer that answers every envelope with `response`. -/
def reply (response : Bytes) : Responder := always [.sending, .delivered, .received response]

/-- A peer from which nothing is ever heard. -/
def silent : Responder := always []

/-- A peer that answers with the payload backwards. -/
def reverse : Responder := function fun e => [.delivered, .received e.payload.reverse]

/-- The reports about an envelope, and the peer afterwards. -/
def answer (e : Envelope) : Responder → List Feedback × Responder
  | function reports => (reports e, function reports)
  | directory server =>
      let (response, server) := server.serve e
      ([.delivered, .received response], directory server)

end Responder

/-- A call by which the kernel was given an envelope. -/
structure Submission where
  /-- The envelope. -/
  envelope : Envelope
  /-- Whether reports were asked for. -/
  wantsFeedback : Bool
  /-- The sequence under which they were. -/
  sequence : Sequence
deriving DecidableEq

/-- A call by which the machine was to go down. -/
structure PowerCall where
  /-- Who made it. -/
  caller : Pid
  /-- How it was to go down. -/
  kind : PowerKind
  /-- The number of the reason. -/
  reason : Nat
  /-- The power flags. -/
  flags : UInt32
  /-- The message. -/
  message : String
deriving DecidableEq

/-- The state of the kernel side. -/
structure World where
  /-- The monotonic clock, in milliseconds. -/
  clock : Nat
  /-- The wall clock, in seconds. -/
  wallclock : Nat
  /-- The id of the next token. -/
  nextToken : Nat
  /-- The envelopes that wait, by address. -/
  mailboxes : Table Pid (List Envelope)
  /-- Every call with an envelope, in order. -/
  sent : List Submission
  /-- Every broadcast that was taken, in order. -/
  broadcasts : List Envelope
  /-- The reports that are due, by sender and sequence. -/
  reports : Table (Pid × Sequence) (List Feedback)
  /-- The peers. -/
  responders : Table Pid Responder
  /-- The addresses for which envelopes are refused. -/
  sendFaults : Table Pid SendFault
  /-- Why broadcasts are refused, if they are. -/
  broadcastFault : Option SendFault
  /-- The tokens that the authority granted, by process. -/
  grants : Table Pid (List Token)
  /-- Whether the authority refuses every request. -/
  deniesGrants : Bool
  /-- The owner that the authority puts on the tokens it hands out, if it lies. -/
  forgedOwner : Option Pid
  /-- The tokens on the virtual port. -/
  port : List Token
  /-- Whose children are protected, and whether that ends in an emergency. -/
  protection : Table Pid Bool
  /-- Why protection is refused, if it is. -/
  protectionFault : Option KernelFault
  /-- Every call that was to bring the machine down, in order. -/
  powerCalls : List PowerCall
  /-- What the machine is doing; `none` while nobody touched its power. -/
  power : Option PowerState
  /-- The lines of the log. -/
  lines : List String

namespace World

/-- The world at its beginning. -/
def start : World where
  clock := 0
  wallclock := 1737504000
  nextToken := 1
  mailboxes := []
  sent := []
  broadcasts := []
  reports := []
  responders := []
  sendFaults := []
  broadcastFault := none
  grants := []
  deniesGrants := false
  forgedOwner := none
  port := []
  protection := []
  protectionFault := none
  powerCalls := []
  power := none
  lines := []

/-- Let milliseconds pass on the monotonic clock. -/
def advance (ms : Nat) (w : World) : World := { w with clock := timeAfter w.clock ms }

/-- Let seconds pass on the wall clock. -/
def advanceWallclock (seconds : Nat) (w : World) : World :=
  { w with wallclock := timeAfter w.wallclock seconds }

/-- Write a line to the log. -/
def log (line : String) (w : World) : World := { w with lines := w.lines ++ [line] }

/-! ## Mailboxes -/

/-- The envelopes that wait for `pid`. -/
def mailbox (pid : Pid) (w : World) : List Envelope := (w.mailboxes.find? pid).getD []

/-- Change what waits for `pid`, who has a mailbox from then on. -/
def setMailbox (pid : Pid) (waiting : List Envelope) (w : World) : World :=
  { w with mailboxes := w.mailboxes.insert pid waiting }

/-- Give `pid` a mailbox. -/
def openMailbox (pid : Pid) (w : World) : World := w.setMailbox pid (w.mailbox pid)

/-- Put an envelope into the mailbox of `pid`. -/
def deliver (pid : Pid) (e : Envelope) (w : World) : World :=
  w.setMailbox pid (w.mailbox pid ++ [e])

/-- Put an envelope into every mailbox but that of `sender`. -/
def deliverAll (sender : Pid) (e : Envelope) (w : World) : World :=
  { w with mailboxes := w.mailboxes.mapValues fun pid waiting =>
      if pid = sender then waiting else waiting ++ [e] }

/-! ## Sending -/

/-- Let the peer at the receiving address answer an envelope. -/
def respond (e : Envelope) (w : World) : List Feedback × World :=
  match w.responders.find? e.receiver with
  | some responder =>
      let (reports, responder) := responder.answer e
      (reports, { w with responders := w.responders.insert e.receiver responder })
  | none => ([.delivered, .received []], w)

/-- Take an envelope from process `sender` to its receiver.  The call is noted in any case. -/
def send (sender : Pid) (e : Envelope) (wantsFeedback : Bool) (sequence : Sequence)
    (w : World) : Except SendFault Unit × World :=
  let w := { w with sent := w.sent ++ [{ envelope := e, wantsFeedback, sequence }] }
  match w.sendFaults.find? e.receiver with
  | some fault => (.error fault, w)
  | none =>
      let (reports, w) := w.respond e
      let w := w.deliver e.receiver e
      if wantsFeedback then
        (.ok (), { w with reports := w.reports.insert (sender, sequence) reports })
      else (.ok (), w)

/-- Take an envelope from process `sender` to every other process. -/
def broadcast (sender : Pid) (e : Envelope) (w : World) : Except SendFault Unit × World :=
  match w.broadcastFault with
  | some fault => (.error fault, w)
  | none => (.ok (), { w with broadcasts := w.broadcasts ++ [e] }.deliverAll sender e)

/-- Take the first envelope for `pid`, or wait in vain.  To wait without a limit, which a timeout
of zero asks for, is outside the model if nothing is there: the process would not go on, and here
it is answered nothing at once. -/
def receive (pid : Pid) (timeout : Nat) (w : World) : Option Envelope × World :=
  match w.mailbox pid with
  | e :: rest => (some e, w.setMailbox pid rest)
  | [] => (none, w.advance timeout)

/-- Drop the envelopes for `pid`. -/
def clearMailbox (pid : Pid) (w : World) : World :=
  match w.mailboxes.find? pid with
  | some _ => w.setMailbox pid []
  | none => w

/-- The reports that are due for a sequence of `sender`. -/
def dueReports (sender : Pid) (sequence : Sequence) (w : World) : List Feedback :=
  (w.reports.find? (sender, sequence)).getD []

/-- Leave these reports for a sequence of `sender`. -/
def setReports (sender : Pid) (sequence : Sequence) (reports : List Feedback) (w : World) :
    World :=
  { w with reports := w.reports.insert (sender, sequence) reports }

/-- Hand out every report that is due for a sequence of `sender`. -/
def takeReports (sender : Pid) (sequence : Sequence) (w : World) : List Feedback × World :=
  match w.dueReports sender sequence with
  | [] => ([], w)
  | reports => (reports, w.setReports sender sequence [])

/-! ## The grant authority -/

/-- The tokens granted to `pid`. -/
def grantsOf (pid : Pid) (w : World) : List Token := (w.grants.find? pid).getD []

/-- Change what is granted to `pid`. -/
def setGrants (pid : Pid) (tokens : List Token) (w : World) : World :=
  { w with grants := w.grants.insert pid tokens }

/-- Grant a token to `pid`. -/
def acquire (pid : Pid) (capabilities : UInt32) (description : String) (seconds : Nat)
    (w : World) : Option Token × World :=
  if w.deniesGrants then (none, w)
  else
    let token : Token :=
      { id := w.nextToken, capabilities, owner := pid,
        validUntil := timeAfter w.wallclock seconds, description }
    let w := { w with nextToken := w.nextToken + 1 }.setGrants pid (w.grantsOf pid ++ [token])
    (some { token with owner := w.forgedOwner.getD token.owner }, w)

/-- Drop the grant of `pid` that has the id of a token. -/
def release (pid : Pid) (token : Token) (w : World) : Except KernelFault Unit × World :=
  let tokens := w.grantsOf pid
  let kept := tokens.filter fun t => t.id != token.id
  if kept.length = tokens.length then (.error .notFound, w)
  else (.ok (), w.setGrants pid kept)

/-- Extend the first token of a list that has this id. -/
def extendFirst (id seconds : Nat) : List Token → List Token
  | [] => []
  | t :: rest =>
      if t.id = id then { t with validUntil := timeAfter t.validUntil seconds } :: rest
      else t :: extendFirst id seconds rest

/-- Extend the grant of `pid` that has the id of a token, and tell when it ends. -/
def renew (pid : Pid) (token : Token) (seconds : Nat) (w : World) :
    Except KernelFault Nat × World :=
  match (w.grantsOf pid).find? fun t => t.id == token.id with
  | some granted =>
      (.ok (timeAfter granted.validUntil seconds),
        w.setGrants pid (extendFirst token.id seconds (w.grantsOf pid)))
  | none => (.error .notFound, w)

/-! ## The virtual port -/

/-- Put a token on the port. -/
def portSend (token : Token) (w : World) : World := { w with port := w.port ++ [token] }

/-- Take the next token off the port. -/
def portReceive (w : World) : Option Token × World :=
  match w.port with
  | [] => (none, w)
  | t :: rest => (some t, { w with port := rest })

/-- Take the tokens owned by `pid` off the port. -/
def portClear (pid : Pid) (w : World) : World :=
  { w with port := w.port.filter fun t => t.owner != pid }

/-! ## Protection and power -/

/-- Protect the children of `pid`. -/
def protectChildren (pid : Pid) (emergencyOk : Bool) (w : World) :
    Except KernelFault Unit × World :=
  match w.protectionFault with
  | some fault => (.error fault, w)
  | none => (.ok (), { w with protection := w.protection.insert pid emergencyOk })

/-- Bring the machine down. -/
def powerOff (caller : Pid) (kind : PowerKind) (reason : Nat) (flags : UInt32)
    (message : String) (w : World) : World :=
  { w with
    powerCalls := w.powerCalls ++ [{ caller, kind, reason, flags, message }]
    power := some (match kind with
      | .shutdown => .shuttingDown
      | .reboot => .rebooting) }

/-- What the machine is doing. -/
def powerState (w : World) : PowerState := w.power.getD .running

/-- Stay up, if the machine was to go down. -/
def cancelPowerOff (w : World) : Except KernelFault Unit × World :=
  match w.powerState with
  | .running => (.error .notFound, w)
  | .shuttingDown | .rebooting => (.ok (), { w with power := some .running })

end World

end Interprocess

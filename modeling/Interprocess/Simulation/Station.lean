import Interprocess.Endpoint.Session
import Interprocess.Simulation.World

/-!
# Processes in a world

A `Station` is one process of a simulated world: its address and configuration, what it
remembers, and the `Adjustments` by which its kernel departs from that of the world.

**Adjustments.**  A request may be refused with a fault.  A *plain* kernel refuses every
request that a kernel need not support.  Reports about envelopes to some addresses may come
late, by a timetable that starts when the envelope is taken.  Sleep may take longer than
asked for, and the authority may describe its tokens as it likes.
-/

namespace Interprocess

/-- The requests to a kernel that may be refused with a fault. -/
inductive KernelRequest
  | receive
  | pending
  | peek
  | clear
  | protectChildren
  | release
  | renew
  | portSend
  | portReceive
  | portClear
  | shutdown
  | reboot
  | powerState
  | cancelPowerOff
deriving DecidableEq

namespace KernelRequest

/-- Whether a kernel need not support a request. -/
def isOptional : KernelRequest → Bool
  | pending | peek | clear | renew | portSend | portReceive | portClear | powerState
  | cancelPowerOff => true
  | receive | protectChildren | release | shutdown | reboot => false

end KernelRequest

/-- Reports that become due one after the other, each at a time. -/
abbrev Timetable := List (Nat × Feedback)

namespace Timetable

/-- The reports that are due at `now`, and what is left.  A report that is not due yet holds
up those behind it. -/
def takeDue (now : Nat) : Timetable → List Feedback × Timetable
  | [] => ([], [])
  | (due, report) :: rest =>
      if due ≤ now then
        let (reports, left) := takeDue now rest
        (report :: reports, left)
      else ([], (due, report) :: rest)

/-- A timetable that starts at `now`. -/
def startingAt (now : Nat) (delays : Timetable) : Timetable :=
  delays.map fun entry => (now + entry.1, entry.2)

end Timetable

/-- How the kernel of a process departs from that of its world. -/
structure Adjustments where
  /-- The requests that are refused. -/
  faults : Table KernelRequest KernelFault
  /-- Whether the kernel supports no more than it must. -/
  isPlain : Bool
  /-- The reports that come late for envelopes to an address, by their delays. -/
  delays : Table Pid Timetable
  /-- The milliseconds by which each sleep is too long. -/
  oversleep : Nat
  /-- The description on every token that is handed out. -/
  grantDescription : Option String

namespace Adjustments

/-- No departure. -/
def none : Adjustments where
  faults := []
  isPlain := false
  delays := []
  oversleep := 0
  grantDescription := .none

/-- Why a request is refused, if it is. -/
def refusal? (request : KernelRequest) (a : Adjustments) : Option KernelFault :=
  match a.faults.find? request with
  | some fault => some fault
  | .none => if a.isPlain && request.isOptional then some .notSupported else .none

/-- A request that may be refused. -/
def guarded {σ α : Type} (a : Adjustments) (request : KernelRequest)
    (f : σ → Except KernelFault α × σ) (s : σ) : Except KernelFault α × σ :=
  match a.refusal? request with
  | some fault => (.error fault, s)
  | .none => f s

/-- A look that may be refused. -/
def guardedLook {σ α : Type} (a : Adjustments) (request : KernelRequest) (f : σ → α) (s : σ) :
    Except KernelFault α :=
  match a.refusal? request with
  | some fault => .error fault
  | .none => .ok (f s)

end Adjustments

/-- The state behind the kernel of one process. -/
structure KernelState where
  /-- The world, which all processes share. -/
  world : World
  /-- The late reports to this process, by sequence. -/
  late : Table Sequence Timetable

namespace KernelState

/-- Change the world. -/
def onWorld (f : World → World) (s : KernelState) : KernelState := { s with world := f s.world }

/-- Change the world and answer. -/
def fromWorld {α : Type} (f : World → α × World) (s : KernelState) : α × KernelState :=
  let (a, world) := f s.world
  (a, { s with world })

/-- The late reports for a sequence. -/
def lateReports (sequence : Sequence) (s : KernelState) : Timetable :=
  (s.late.find? sequence).getD []

/-- Hand out every report for a sequence of process `pid` that is due: first those of the
world, then the late ones. -/
def takeReports (pid : Pid) (sequence : Sequence) (s : KernelState) :
    List Feedback × KernelState :=
  let (reports, s) := s.fromWorld (World.takeReports pid sequence)
  match Timetable.takeDue s.world.clock (s.lateReports sequence) with
  | ([], _) => (reports, s)
  | (due, left) => (reports ++ due, { s with late := s.late.insert sequence left })

/-- Hand out only the first report for a sequence of process `pid` that is due. -/
def takeReport (pid : Pid) (sequence : Sequence) (s : KernelState) :
    Option Feedback × KernelState :=
  match s.world.dueReports pid sequence with
  | report :: rest => (some report, s.onWorld (World.setReports pid sequence rest))
  | [] =>
      match s.lateReports sequence with
      | (due, report) :: rest =>
          if due ≤ s.world.clock then
            (some report, { s with late := s.late.insert sequence rest })
          else (none, s)
      | [] => (none, s)

end KernelState

namespace Adjustments

/-- Take an envelope to its receiver, and start the timetable of late reports for it. -/
def send (pid : Pid) (a : Adjustments) (e : Envelope) (wantsFeedback : Bool)
    (sequence : Sequence) (s : KernelState) : Except SendFault Unit × KernelState :=
  match s.fromWorld (World.send pid e wantsFeedback sequence) with
  | (.error fault, s) => (.error fault, s)
  | (.ok (), s) =>
      if wantsFeedback then
        match a.delays.find? e.receiver with
        | some delays =>
            (.ok (), { s with
              late := s.late.insert sequence (Timetable.startingAt s.world.clock delays) })
        | .none => (.ok (), s)
      else (.ok (), s)

/-- Ask the authority for a token. -/
def acquire (pid : Pid) (a : Adjustments) (capabilities : UInt32) (description : String)
    (seconds : Nat) (s : KernelState) : Option Token × KernelState :=
  let (token, s) := s.fromWorld (World.acquire pid capabilities description seconds)
  (token.map fun t => { t with description := a.grantDescription.getD t.description }, s)

/-- The kernel of process `pid`. -/
def kernel (pid : Pid) (a : Adjustments) : Kernel KernelState where
  pid := pid
  now := fun s => s.world.clock
  wallclock := fun s => s.world.wallclock
  sleep := fun ms => KernelState.onWorld (World.advance (ms + a.oversleep))
  log := fun line => KernelState.onWorld (World.log line)
  send := a.send pid
  broadcast := fun e => KernelState.fromWorld (World.broadcast pid e)
  receive := fun timeout => a.guarded .receive
    (KernelState.fromWorld fun w => let (e, w) := w.receive pid timeout; (.ok e, w))
  reports := KernelState.takeReports pid
  pending := a.guardedLook .pending fun s => (s.world.mailbox pid).length
  peek := a.guardedLook .peek fun s =>
    (s.world.mailbox pid).head?.map fun e => (e.kind, e.sender)
  clear := a.guarded .clear (KernelState.fromWorld fun w => (.ok (), w.clearMailbox pid))
  protectChildren := fun emergencyOk => a.guarded .protectChildren
    (KernelState.fromWorld (World.protectChildren pid emergencyOk))
  acquire := a.acquire pid
  release := fun token => a.guarded .release (KernelState.fromWorld (World.release pid token))
  renew := fun token seconds => a.guarded .renew
    (KernelState.fromWorld (World.renew pid token seconds))
  grantsOf := fun other s => s.world.grantsOf other
  portSend := fun token => a.guarded .portSend
    (KernelState.fromWorld fun w => (.ok (), w.portSend token))
  portReceive := a.guarded .portReceive
    (KernelState.fromWorld fun w => let (t, w) := w.portReceive; (.ok t, w))
  portClear := a.guarded .portClear (KernelState.fromWorld fun w => (.ok (), w.portClear pid))
  powerOff := fun kind reason flags message => a.guarded
    (match kind with
      | .shutdown => .shutdown
      | .reboot => .reboot)
    (KernelState.fromWorld fun w => (.ok (), w.powerOff pid kind reason flags message))
  powerState := a.guardedLook .powerState fun s => s.world.powerState
  cancelPowerOff := a.guarded .cancelPowerOff (KernelState.fromWorld World.cancelPowerOff)

end Adjustments

/-- One process of a world. -/
structure Station where
  /-- Its address. -/
  pid : Pid
  /-- Its configuration. -/
  config : Config
  /-- How its kernel departs from that of the world. -/
  adjustments : Adjustments
  /-- The late reports to it, by sequence. -/
  late : Table Sequence Timetable
  /-- What it remembers. -/
  process : Process

namespace Station

/-- A process that did nothing yet. -/
def start (pid : Pid) (config : Config) : Station where
  pid := pid
  config := config
  adjustments := Adjustments.none
  late := []
  process := Process.start config

/-- The kernel and configuration of a process. -/
def endpoint (s : Station) : Endpoint KernelState :=
  { kernel := s.adjustments.kernel s.pid, config := s.config }

/-- Let a process act in a world. -/
def act {α : Type} (f : Endpoint KernelState → Act KernelState α) (s : Station) (w : World) :
    α × Station × World :=
  let (a, session) := (f s.endpoint).run
    { kernel := { world := w, late := s.late }, process := s.process }
  (a, { s with late := session.kernel.late, process := session.process }, session.kernel.world)

end Station

end Interprocess

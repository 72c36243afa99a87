import Interprocess.Simulation.System
import Interprocess.Simulation.WorldStep

/-!
# Scenarios

A scenario is a list of lines, each a step on a system of processes: changes of the world,
questions about it, and requests of its processes.  Three things are added to the system:

* processes are started under names.  A name stands for the process that was last started
  under it; an earlier one stays in the system and can still be changed by its handlers;
* tokens lie in named slots, which all processes share;
* shutdown handlers are made under names.  A handler may register or drop another handler
  while it runs, at the process that made it.

Each line is answered by a `StepReport`: the result of its step, and what that added to the
records of the world.  A step that makes no sense, or that would wait for ever, is `Malformed`.
-/

namespace Interprocess

/-- What a handler does to the process that made it while it runs. -/
inductive HandlerAction
  /-- Register the handler called `other`. -/
  | register (other : String) (userData : Nat)
  /-- Drop the handler called `other`. -/
  | unregister (other : String)
deriving DecidableEq

/-- A handler of shutdown announcements. -/
structure Handler where
  /-- The name under which it was made. -/
  name : String
  /-- The process that made it. -/
  maker : StationId
  /-- What it does when it runs. -/
  action : Option HandlerAction
deriving DecidableEq

/-- A run of a handler. -/
structure HandlerRun where
  /-- The name of the handler. -/
  handler : String
  /-- What it was handed. -/
  userData : Nat
  /-- The announcement. -/
  notice : ShutdownNotice
  /-- How its action went, if it took one. -/
  action : Option (Except Error Unit)

/-- The state of a scenario. -/
structure Scenario where
  /-- The processes and their world. -/
  system : System
  /-- The processes that the names stand for. -/
  names : Table String StationId
  /-- The last envelope that each process received. -/
  lastEnvelopes : Table StationId Envelope
  /-- The tokens that lie about. -/
  slots : Table String Token
  /-- Every handler that was made; its place in the list is its identity. -/
  handlers : List Handler
  /-- Every run of a handler, in order. -/
  handled : List HandlerRun

/-- Why a step makes no sense. -/
inductive Malformed
  | unknownProcess
  | emptySlot
  | unknownHandler
  | noEnvelope
  | waitsForever
deriving DecidableEq

/-- What is wrong with a step. -/
def Malformed.message : Malformed → String
  | unknownProcess => "unknown process"
  | emptySlot => "unknown slot"
  | unknownHandler => "unknown handler"
  | noEnvelope => "no envelope"
  | waitsForever => "receive would block forever"

/-- A step of a process. -/
inductive ProcessStep
  /-- Start the process. -/
  | spawn (pid : Pid) (config : Config)
  /-- Change its kernel. -/
  | adjust (changes : List Adjustment)
  /-- Carry out an operation that involves no slot. -/
  | perform (operation : Operation)
  /-- Carry out an operation on the token in a slot. -/
  | performOn (slot : String) (operation : Token → Operation)
  /-- Carry out an operation that may hand out a token, which goes into a slot. -/
  | performInto (slot : String) (operation : Operation)
  /-- Call the kernel. -/
  | callKernel (call : KernelCall)
  /-- Call the kernel with the token in a slot. -/
  | callKernelOn (slot : String) (call : Token → KernelCall)
  /-- Call the kernel for a token, which goes into a slot. -/
  | callKernelInto (slot : String) (call : KernelCall)
  /-- Make a handler. -/
  | makeHandler (name : String) (action : Option HandlerAction)
  /-- Register a handler. -/
  | registerHandler (name : String) (userData : Nat)
  /-- Drop a handler. -/
  | unregisterHandler (name : String)
  /-- Hand an announcement to the handlers: this one, or the last envelope received. -/
  | dispatch (envelope : Option Envelope)

/-- A step of a scenario. -/
inductive Step
  | world (step : WorldStep)
  | process (name : String) (step : ProcessStep)
  | setToken (slot : String) (token : Token)
  | copyToken (source target : String)
  | getToken (slot : String)

/-- A line of a scenario. -/
structure ScenarioLine where
  /-- What is done. -/
  step : Step
  /-- The name of a process whose records are counted afterwards.  A line may watch a process
  that has nothing to do with its step, and a name that stands for no process is ignored. -/
  watched : Option String

/-- The answer to a line. -/
structure StepReport where
  /-- Its result. -/
  result : Answer
  /-- The monotonic clock. -/
  now : Nat
  /-- The number of records of the watched process, if there is one. -/
  ledger : Option Nat
  /-- The lines that were added to the log. -/
  lines : List String
  /-- The calls with an envelope that were added. -/
  sent : List Submission
  /-- The broadcasts that were added. -/
  broadcasts : List Envelope
  /-- The calls to bring the machine down that were added. -/
  powerCalls : List PowerCall
  /-- The runs of handlers that were added. -/
  handled : List HandlerRun

namespace Scenario

/-- The scenario before its first step. -/
def start : Scenario where
  system := System.start
  names := []
  lastEnvelopes := []
  slots := []
  handlers := []
  handled := []

/-- The token in a slot. -/
def slot (name : String) (s : Scenario) : Except Malformed Token :=
  match s.slots.find? name with
  | some token => .ok token
  | none => .error .emptySlot

/-- Put a token into a slot. -/
def setSlot (name : String) (token : Token) (s : Scenario) : Scenario :=
  { s with slots := s.slots.insert name token }

/-- Put the token that an answer hands out, if there is one, into a slot. -/
def keepToken (name : String) (answer : Answer) (s : Scenario) : Scenario :=
  match answer.token? with
  | some token => s.setSlot name token
  | none => s

/-- The identity of the handler that was last made under a name. -/
def handlerId? (name : String) (s : Scenario) : Option HandlerId :=
  (s.handlers.zipIdx.reverse.find? fun entry => entry.1.name == name).map Prod.snd

/-- Whether a process that waits without a limit would wait for ever. -/
def waitsForever (station : Station) (w : World) : Bool :=
  (station.adjustments.refusal? .receive).isNone && (w.mailbox station.pid).isEmpty

/-- Whether an operation of a process would never end. -/
def neverEnds (station : Station) (w : World) : Operation → Bool
  | .receive timeout =>
      timeout == 0 && station.process.inbox.waiting.isEmpty && waitsForever station w
  | _ => false

/-- The process called `name`, with its identity. -/
def station (name : String) (s : Scenario) : Except Malformed (StationId × Station) :=
  match s.names.find? name with
  | none => .error .unknownProcess
  | some id =>
      match s.system.station? id with
      | none => .error .unknownProcess
      | some station => .ok (id, station)

/-- Let a process carry out an operation.  What it receives is its last envelope. -/
def perform (name : String) (operation : Operation) (s : Scenario) :
    Except Malformed (Answer × Scenario) := do
  let (id, station) ← s.station name
  if neverEnds station s.system.world operation then throw .waitsForever
  else
    match s.system.perform id operation with
    | none => throw .unknownProcess
    | some (answer, system) =>
        let s := { s with system }
        match answer with
        | .attempt (.ok (.envelope e)) =>
            return (answer, { s with lastEnvelopes := s.lastEnvelopes.insert id e })
        | _ => return (answer, s)

/-- Let a process call its kernel. -/
def callKernel (name : String) (call : KernelCall) (s : Scenario) :
    Except Malformed (Answer × Scenario) := do
  let (id, station) ← s.station name
  if call = .receive 0 ∧ waitsForever station s.system.world then throw .waitsForever
  else
    match s.system.callKernel id call with
    | none => throw .unknownProcess
    | some (answer, system) => return (answer, { s with system })

/-- Change the handlers of a process, as another handler does. -/
def takeAction (maker : StationId) (action : HandlerAction) (s : Scenario) :
    Option (Except Error Unit) × Scenario :=
  let act (id : HandlerId) : Act KernelState (Except Error Unit) :=
    match action with
    | .register _ userData => Act.onProcess (Process.registerHandler id userData)
    | .unregister _ => Act.onProcess (Process.unregisterHandler id)
  let other := match action with
    | .register other _ => other
    | .unregister other => other
  match s.handlerId? other with
  | none => (none, s)
  | some id =>
      match s.system.act maker fun _ => act id with
      | none => (none, s)
      | some (r, system) => (some r, { s with system })

/-- Run a handler. -/
def runHandler (callback : Callback) (notice : ShutdownNotice) (s : Scenario) : Scenario :=
  match s.handlers[callback.handler]? with
  | none => s
  | some handler =>
      let (action, s) := match handler.action with
        | none => (none, s)
        | some action => s.takeAction handler.maker action
      { s with handled := s.handled ++
          [{ handler := handler.name, userData := callback.userData, notice, action }] }

/-- Hand an announcement to the handlers of a process. -/
def dispatch (station : Station) (e : Envelope) : StateM Scenario (Except Error Nat) :=
  dispatchNotice (pure station.process.callbacks)
    (fun callback notice => modify (runHandler callback notice)) e

/-- Carry out a step of a process. -/
def performProcess (name : String) (step : ProcessStep) (s : Scenario) :
    Except Malformed (Answer × Scenario) :=
  match step with
  | .spawn pid config =>
      let (id, system) := s.system.spawn pid config
      .ok (.value (.number pid.toNat), { s with system, names := s.names.insert name id })
  | .adjust changes => do
      let (id, _) ← s.station name
      match s.system.adjust id changes with
      | some system => return (.value .nothing, { s with system })
      | none => throw .unknownProcess
  | .perform operation => s.perform name operation
  | .performOn slot operation => do
      let token ← s.slot slot
      let (answer, s) ← s.perform name (operation token)
      match answer with
      | .tokenAfter _ changed => return (answer, s.setSlot slot changed)
      | _ => return (answer, s)
  | .performInto slot operation => do
      let (answer, s) ← s.perform name operation
      return (answer, s.keepToken slot answer)
  | .callKernel call => s.callKernel name call
  | .callKernelOn slot call => do
      let token ← s.slot slot
      s.callKernel name (call token)
  | .callKernelInto slot call => do
      let (answer, s) ← s.callKernel name call
      return (answer, s.keepToken slot answer)
  | .makeHandler handler action => do
      let (id, _) ← s.station name
      return (.value .nothing,
        { s with handlers := s.handlers ++ [{ name := handler, maker := id, action }] })
  | .registerHandler handler userData =>
      match s.handlerId? handler with
      | some id => s.perform name (.registerHandler id userData)
      | none => .error .unknownHandler
  | .unregisterHandler handler =>
      match s.handlerId? handler with
      | some id => s.perform name (.unregisterHandler id)
      | none => .error .unknownHandler
  | .dispatch envelope => do
      let (id, station) ← s.station name
      match envelope.or (s.lastEnvelopes.find? id) with
      | none => .error .noEnvelope
      | some e =>
          let (r, s) := (dispatch station e).run s
          return (.ofAttempt .number r, s)

/-- Carry out a step. -/
def performStep (step : Step) (s : Scenario) : Except Malformed (Answer × Scenario) :=
  match step with
  | .world step =>
      let (value, world) := s.system.world.perform step
      .ok (.value value, { s with system := { s.system with world } })
  | .process name step => s.performProcess name step
  | .setToken slot token => .ok (.value .nothing, s.setSlot slot token)
  | .copyToken source target => do
      let token ← s.slot source
      return (.value .nothing, s.setSlot target token)
  | .getToken slot => do
      let token ← s.slot slot
      return (.value (.token token), s)

/-- The number of records of the process that a name stands for. -/
def ledgerSize? (name : String) (s : Scenario) : Option Nat :=
  match s.station name with
  | .ok (_, station) => some station.process.ledger.size
  | .error _ => none

/-- Carry out a line and report what it did. -/
def performLine (line : ScenarioLine) (s : Scenario) :
    Except Malformed (StepReport × Scenario) := do
  let (result, after) ← s.performStep line.step
  let old := s.system.world
  let new := after.system.world
  return ({
    result
    now := new.clock
    ledger := line.watched.bind fun name => after.ledgerSize? name
    lines := new.lines.drop old.lines.length
    sent := new.sent.drop old.sent.length
    broadcasts := new.broadcasts.drop old.broadcasts.length
    powerCalls := new.powerCalls.drop old.powerCalls.length
    handled := after.handled.drop s.handled.length }, after)

/-- Carry out lines in order and report on each. -/
def run : List ScenarioLine → Scenario → Except Malformed (List StepReport)
  | [], _ => .ok []
  | line :: rest, s => do
      let (report, s) ← s.performLine line
      let reports ← run rest s
      return report :: reports

end Scenario

end Interprocess

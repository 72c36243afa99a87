import Interprocess.Simulation.KernelCall

/-!
# Several processes in one world

A `System` is a world with processes in it.  Processes take turns: each operation of a process
runs to its end before another process acts.

A process never leaves the system, and its place in the order of starting is its identity
(`StationId`).  Several processes may have the same address; then they share a mailbox.
-/

namespace Interprocess

/-- The identity of a process: how many processes were started before it. -/
abbrev StationId := Nat

/-- A world and its processes. -/
structure System where
  /-- The world. -/
  world : World
  /-- The processes, in the order in which they were started. -/
  stations : List Station

/-- A change to how the kernel of one process departs from that of the world. -/
inductive Adjustment
  /-- Refuse a request from now on, or no longer. -/
  | fault (request : KernelRequest) (fault : Option KernelFault)
  /-- Support no more than a kernel must, or all. -/
  | plain (isPlain : Bool)
  /-- Report late on envelopes to an address. -/
  | delay (pid : Pid) (delays : Timetable)
  /-- Sleep too long. -/
  | oversleep (ms : Nat)
  /-- Describe every token in this way. -/
  | grantDescription (text : String)

/-- Make a change. -/
def Adjustments.adjust (change : Adjustment) (a : Adjustments) : Adjustments :=
  match change with
  | .fault request (some fault) => { a with faults := a.faults.insert request fault }
  | .fault request .none => { a with faults := a.faults.erase request }
  | .plain isPlain => { a with isPlain }
  | .delay pid delays => { a with delays := a.delays.insert pid delays }
  | .oversleep ms => { a with oversleep := ms }
  | .grantDescription text => { a with grantDescription := some text }

namespace System

/-- A world without processes. -/
def start : System := { world := World.start, stations := [] }

/-- Change the world. -/
def onWorld (f : World → World) (s : System) : System := { s with world := f s.world }

/-- The process with an identity. -/
def station? (id : StationId) (s : System) : Option Station := s.stations[id]?

/-- Put a process in the place of the one with its identity. -/
def setStation (id : StationId) (station : Station) (s : System) : System :=
  { s with stations := s.stations.set id station }

/-- Let a process act, if there is one with this identity. -/
def act {α : Type} (id : StationId) (f : Endpoint KernelState → Act KernelState α)
    (s : System) : Option (α × System) :=
  (s.station? id).map fun station =>
    let (a, station, world) := station.act f s.world
    (a, { s with world }.setStation id station)

/-- Let a process carry out an operation. -/
def perform (id : StationId) (operation : Operation) (s : System) : Option (Answer × System) :=
  s.act id fun e => e.perform operation

/-- Let a process call its kernel. -/
def callKernel (id : StationId) (call : KernelCall) (s : System) : Option (Answer × System) :=
  (s.station? id).map fun station =>
    let (answer, k) := call.perform station.pid station.adjustments
      { world := s.world, late := station.late }
    (answer, { s with world := k.world }.setStation id { station with late := k.late })

/-- Change how the kernel of a process departs from that of the world. -/
def adjust (id : StationId) (changes : List Adjustment) (s : System) : Option System :=
  (s.station? id).map fun station =>
    let adjustments := changes.foldl (fun a change => a.adjust change) station.adjustments
    s.setStation id { station with adjustments }

/-- Start a process, which gets a mailbox and greets. -/
def spawn (pid : Pid) (config : Config) (s : System) : StationId × System :=
  let (_, station, world) :=
    (Station.start pid config).act Endpoint.greet (s.world.openMailbox pid)
  (s.stations.length, { world, stations := s.stations ++ [station] })

end System

end Interprocess

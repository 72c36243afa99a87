import Interprocess.Operation
import Interprocess.Simulation.World
import Interprocess.Text.Field

/-!
# Steps on a world

What happens to a world without the help of any process in it, and what can be asked about
it: time passes, peers appear and change, the kernel begins to refuse things, and envelopes
arrive from outside.
-/

namespace Interprocess

/-- A step on the world. -/
inductive WorldStep
  | advance (ms : Nat)
  | advanceWallclock (seconds : Nat)
  | respond (pid : Pid) (responder : Responder)
  | failSends (pid : Pid) (fault : SendFault)
  | failBroadcasts (fault : SendFault)
  | failProtection (fault : KernelFault)
  | deliver (pid : Pid) (envelope : Envelope)
  | denyGrants
  | forgeOwner (pid : Pid)
  | grantsOf (pid : Pid)
  | portLength
  | sendCount
  | wallclock
  | protectionOf (pid : Pid)
  | sentTo (pid : Pid)
  | hasLog (text : String)

/-- Carry out a step on the world. -/
def World.perform (step : WorldStep) (w : World) : Value × World :=
  match step with
  | .advance ms => (.nothing, w.advance ms)
  | .advanceWallclock seconds =>
      let w := w.advanceWallclock seconds
      (.number w.wallclock, w)
  | .respond pid responder =>
      (.nothing, { w with responders := w.responders.insert pid responder })
  | .failSends pid fault => (.nothing, { w with sendFaults := w.sendFaults.insert pid fault })
  | .failBroadcasts fault => (.nothing, { w with broadcastFault := some fault })
  | .failProtection fault => (.nothing, { w with protectionFault := some fault })
  | .deliver pid envelope => (.nothing, w.deliver pid envelope)
  | .denyGrants => (.nothing, { w with deniesGrants := true })
  | .forgeOwner pid => (.nothing, { w with forgedOwner := some pid })
  | .grantsOf pid => (.tokens (w.grantsOf pid), w)
  | .portLength => (.number w.port.length, w)
  | .sendCount => (.number w.sent.length, w)
  | .wallclock => (.number w.wallclock, w)
  | .protectionOf pid => (Value.ofOption .flag (w.protection.find? pid), w)
  | .sentTo pid =>
      let sent := w.sent.map Submission.envelope
      (.envelopes (sent.filter fun e => e.receiver == pid), w)
  | .hasLog text =>
      (.flag (w.lines.any fun line => Text.occursIn text.toList line.toList), w)

end Interprocess

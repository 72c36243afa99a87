import Interprocess.Operation
import Interprocess.Simulation.Station

/-!
# Calls to the kernel of a process

A process normally uses its kernel through the operations of this library.  A `KernelCall`
goes past them, straight to the kernel; what is learned or changed in this way the process
does not remember.
-/

namespace Interprocess

/-- A call straight to the kernel of a process. -/
inductive KernelCall
  | send (envelope : Envelope) (wantsFeedback : Bool) (sequence : Sequence)
  | report (sequence : Sequence)
  | receive (timeout : Nat)
  | pending
  | peek
  | clear
  | sleep (ms : Nat)
  | log (line : String)
  | acquire (capabilities : UInt32) (description : String) (seconds : Nat)
  | release (token : Token)
  | renew (token : Token) (seconds : Nat)
  | grantsOf (pid : Pid)
  | portSend (token : Token)
  | protectChildren (emergencyOk : Bool)
  | powerOff (kind : PowerKind) (reason : Nat) (flags : UInt32) (message : String)
  | powerState
  | cancelPowerOff
deriving DecidableEq

namespace KernelCall

/-- The answer of a kernel that may refuse. -/
def answer {σ α : Type} (f : α → Value) (r : Except KernelFault α × σ) : Answer × σ :=
  (.kernel (r.1.map f), r.2)

/-- The answer of a kernel that may refuse and has nothing to tell. -/
def answerDone {σ : Type} (r : Except KernelFault Unit × σ) : Answer × σ :=
  answer (fun _ => .nothing) r

/-- Make a call to the kernel of process `pid`. -/
def perform (pid : Pid) (a : Adjustments) (call : KernelCall) (s : KernelState) :
    Answer × KernelState :=
  let kernel := a.kernel pid
  match call with
  | send envelope wantsFeedback sequence =>
      let (r, s) := kernel.send envelope wantsFeedback sequence s
      (.submitted r, s)
  | report sequence =>
      let (r, s) := s.takeReport pid sequence
      (.value (Value.ofOption .feedback r), s)
  | receive timeout => answer (Value.ofOption .envelope) (kernel.receive timeout s)
  | pending => (.kernel ((kernel.pending s).map .number), s)
  | peek => (.kernel ((kernel.peek s).map (Value.ofOption fun head => .head head.1 head.2)), s)
  | clear => answerDone (kernel.clear s)
  | sleep ms =>
      let s := kernel.sleep ms s
      (.value (.number (kernel.now s)), s)
  | log line => (.value .nothing, kernel.log line s)
  | acquire capabilities description seconds =>
      let (t, s) := kernel.acquire capabilities description seconds s
      (.value (Value.ofOption .token t), s)
  | release token => answerDone (kernel.release token s)
  | renew token seconds => answer .number (kernel.renew token seconds s)
  | grantsOf other => (.value (.tokens (kernel.grantsOf other s)), s)
  | portSend token => answerDone (kernel.portSend token s)
  | protectChildren emergencyOk => answerDone (kernel.protectChildren emergencyOk s)
  | powerOff kind reason flags message =>
      answerDone (kernel.powerOff kind reason flags message s)
  | powerState => (.kernel ((kernel.powerState s).map .power), s)
  | cancelPowerOff => answerDone (kernel.cancelPowerOff s)

end KernelCall

end Interprocess

import Interprocess.Endpoint.Sending

/-!
# Exemption from being killed

A process that must not lose its children asks the kernel to keep them alive, sends the
kernel an exemption request, and announces it.  The exemption is granted as soon as the
kernel has taken the request.
-/

namespace Interprocess

/-- What a state means to a process that waits for an exemption. -/
inductive ExemptionOutcome
  /-- The kernel has the request. -/
  | granted
  /-- The request failed. -/
  | refused (error : Error)
  /-- There is nothing yet. -/
  | undecided
deriving DecidableEq

/-- What a state means to a process that waits for an exemption. -/
def DeliveryState.exemptionOutcome : DeliveryState → ExemptionOutcome
  | .sent | .delivered | .received | .unknown => .granted
  | .permissionDenied => .refused .permissionDenied
  | .sentFailed | .deliveryFailed | .lost => .refused .serviceUnavailable
  | .pending | .sending => .undecided

namespace Announcement

/-- The text that tells that the children of a process are protected. -/
def doNotKillText (emergencyOk : Bool) (pid : Pid) : String :=
  (if emergencyOk then doNotKillEmergency else doNotKill) ++ Text.decimal pid.toNat

end Announcement

namespace Endpoint

variable {σ : Type} (e : Endpoint σ)

/-- Tell every process that the children of this one are protected.  A failure is only
logged. -/
def announceExemption (emergencyOk : Bool) : Act σ Unit := do
  let text := Announcement.doNotKillText emergencyOk e.pid
  match ← (e.broadcast MessageKind.doNotKill 0 (Utf8.encode text)).run with
  | .ok () => pure ()
  | .error error => e.log ("do-not-kill: announcement failed: " ++ error.message)

/-- Wait until the kernel has taken the request with a sequence, for `left` of `polls`
polls. -/
def awaitExemption (sequence : Sequence) (emergencyOk : Bool) (polls : Nat) :
    Nat → Attempt σ Unit
  | 0 => do
      (Act.drop sequence : Act σ Unit)
      e.log ("do-not-kill: no answer after " ++ Text.decimal polls ++ " polls")
      throw .timeout
  | left + 1 => do
      let state ← e.state sequence
      match state.exemptionOutcome with
      | .granted =>
          (Act.drop sequence : Act σ Unit)
          e.log ("do-not-kill: granted pid=" ++ Text.decimal e.pid.toNat ++
            " emergency_ok=" ++ (if emergencyOk then "true" else "false"))
      | .refused error =>
          (Act.drop sequence : Act σ Unit)
          e.log ("do-not-kill: refused state=" ++ state.name)
          throw error
      | .undecided =>
          e.sleep e.config.exemptionPoll
          awaitExemption sequence emergencyOk polls left

/-- Obtain the exemption with a budget of polls. -/
def obtainExemption (emergencyOk : Bool) (polls : Nat) : Attempt σ Unit := do
  Attempt.onKernel (e.kernel.protectChildren emergencyOk)
  let sequence ← e.send e.config.kernelPid MessageKind.doNotKill (littleEndian 4 e.pid.toNat) true
  e.announceExemption emergencyOk
  e.awaitExemption sequence emergencyOk polls polls

/-- Keep the children of the process alive when it exits; with `emergencyOk` they may still be
killed in an emergency. -/
def protectChildren (emergencyOk : Bool) : Attempt σ Unit :=
  e.obtainExemption emergencyOk e.config.exemptionRetries

/-- Obtain the exemption within about `timeout` milliseconds. -/
def requestExemption (timeout : Nat) : Attempt σ Unit :=
  e.obtainExemption false (max 1 (timeout / max 1 e.config.exemptionPoll))

end Endpoint

end Interprocess

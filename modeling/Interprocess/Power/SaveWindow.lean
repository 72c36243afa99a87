import Interprocess.Power.Exemption

/-!
# Saving state before power-off

`beginSave` obtains the exemption, asks the power manager to wait, and opens a window of
time for saving state.  `saveComplete` tells the power manager and closes the window.
-/

namespace Interprocess

namespace Endpoint

variable {σ : Type} (e : Endpoint σ)

/-- Begin to save state. -/
def beginSave : Attempt σ Unit := do
  e.protectChildren false
  let _ ← e.send e.config.powerManagerPid MessageKind.saveWait
    (Utf8.encode Announcement.saveWait) false
  let now ← e.now
  (Act.changeProcess fun p => { p with saveDeadline := some (timeAfter now e.config.saveGrace) } :
    Act σ Unit)
  e.log ("appendix-s: save started grace=" ++ Text.decimal e.config.saveGrace ++ "ms")

/-- Tell that state is saved. -/
def saveComplete : Attempt σ Unit := do
  let _ ← e.send e.config.powerManagerPid MessageKind.saveDone
    (Utf8.encode Announcement.saveDone) false
  (Act.changeProcess fun p => { p with saveDeadline := none } : Act σ Unit)
  e.log "appendix-s: save complete"

/-- The milliseconds that are left for saving state; zero while none is saved. -/
def remainingTime : Act σ Nat := do
  let now ← e.now
  let deadline ← Act.ofProcess Process.saveDeadline
  return match deadline with
    | some deadline => deadline - now
    | none => 0

end Endpoint

/-- Whether state is being saved. -/
def Act.isSaving {σ : Type} : Act σ Bool := ofProcess fun p => p.saveDeadline.isSome

end Interprocess

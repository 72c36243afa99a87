import Interprocess.Endpoint.Session
import Interprocess.Text.Cut

/-!
# Holding capability tokens

A process asks the grant authority of its kernel for tokens, and gives them back, extends
them and passes them on.  A token is an ordinary value; the authority keeps its own record
of what it granted, and `checkFor` goes by that record.

Every operation that uses a token first checks it on the spot: its owner must be the
caller, and to be extended or passed on it must be neither empty nor expired.  A refusal
leaves the token as it was.
-/

namespace Interprocess
namespace Endpoint

variable {σ : Type} (e : Endpoint σ)

/-- Ask for capabilities for a number of seconds.  The description is cut to its limit, and
so is the one that comes back.  Whatever owner the authority names, the token belongs to
the caller. -/
def acquire (capabilities : UInt32) (description : String) (seconds : Nat) :
    Act σ (Option Token) := do
  let description := Text.cut maxDescriptionLength description
  match ← Act.onKernel (e.kernel.acquire capabilities description seconds) with
  | none =>
      e.log ("cap: grant refused caps=0x" ++ Text.hex capabilities.toNat ++
        " desc=" ++ description)
      return none
  | some token =>
      if token.owner ≠ e.pid then
        e.log ("cap: authority reported owner=" ++ Text.decimal token.owner.toNat ++
          " for caller=" ++ Text.decimal e.pid.toNat ++ ", overriding")
      return some { token with
        owner := e.pid, description := Text.cut maxDescriptionLength token.description }

/-- Refuse a token of another owner. -/
def checkOwner (token : Token) : Attempt σ Unit :=
  if token.owner = e.pid then pure () else throw .notOwner

/-- Refuse a token that is empty or past its time. -/
def checkUsable (token : Token) : Attempt σ Unit :=
  if token.isEmpty then throw .invalidParameter
  else do
    let now ← e.wallclock
    if token.isExpired now then throw .expired else pure ()

/-- Give a token back.  What is left of it is the blank token. -/
def release (token : Token) : Attempt σ Token := do
  e.checkOwner token
  Attempt.onKernel (e.kernel.release token)
  return Token.blank

/-- Add seconds to the time of a token. -/
def renew (token : Token) (seconds : Nat) : Attempt σ Token := do
  e.checkOwner token
  e.checkUsable token
  let validUntil ← Attempt.onKernel (e.kernel.renew token seconds)
  return { token with validUntil }

/-- Whether the process may use a token for `required`. -/
def validate (token : Token) (required : UInt32) : Act σ Bool := do
  return token.isValidFor e.pid required (← e.wallclock)

/-- Whether process `pid` holds every capability of `required`, by all its tokens together. -/
def checkFor (required : UInt32) (pid : Pid) : Act σ Bool := do
  let now ← e.wallclock
  let tokens ← Act.ofKernel (e.kernel.grantsOf pid)
  return Capability.includes (Token.held pid now tokens) required

/-- Whether the process itself holds every capability of `required`. -/
def check (required : UInt32) : Act σ Bool := e.checkFor required e.pid

/-- Put a token on the virtual port, for another process to take. -/
def portSend (token : Token) : Attempt σ Unit := do
  e.checkOwner token
  e.checkUsable token
  Attempt.onKernel (e.kernel.portSend token)
  e.log ("cap: token id=" ++ Text.decimal token.id ++ " sent to virtual port")

/-- Take the next token off the virtual port.  It is not checked. -/
def portReceive : Attempt σ (Option Token) := Attempt.onKernel e.kernel.portReceive

/-- Take back every token that the process left on the virtual port. -/
def portClear : Attempt σ Unit := Attempt.onKernel e.kernel.portClear

end Endpoint
end Interprocess

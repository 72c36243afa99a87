import Interprocess.Grant.Token
import Interprocess.Json.Record

/-!
# Capability tokens as JSON
-/

namespace Interprocess

namespace Token

/-- The fields of a token in order. -/
def fieldNames : List String := ["id", "capabilities", "owner_pid", "valid_until", "description"]

/-- The tree of a token. -/
def toJson (t : Token) : Json :=
  Json.ofFields (fieldNames.zip
    [Json.ofNat t.id, Json.ofWord t.capabilities, Json.ofWord t.owner, Json.ofNat t.validUntil,
      Json.ofText t.description])

/-- The token that a tree means. -/
def ofJson? (j : Json) : Option Token := do
  match ← j.toFields? fieldNames 0 with
  | [some id, some capabilities, some owner, some validUntil, some description] =>
      some {
        id := ← id.toLong?
        capabilities := ← capabilities.toWord?
        owner := ← owner.toWord?
        validUntil := ← validUntil.toLong?
        description := ← description.toText? }
  | _ => none

instance : Json.Form Token := ⟨toJson, ofJson?⟩

end Token

end Interprocess

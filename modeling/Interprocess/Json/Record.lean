import Interprocess.Json.Value

/-!
# Records and variants in JSON

**Records.**  A record with named fields is written as an object, with its fields in order of
declaration.  It is read from an object whose members may come in any order, with unknown
members skipped, or from an array of the field values in order of declaration.  A field
name that occurs twice is refused, and so is a key that spells no text.

**Variants.**  A case without contents is written as its name, and read from its name or from
an object with the single member `name: null`.  A case with contents is an object with the
single member `name: contents`.

`Json.Form` collects the types that are written and read in this way.
-/

namespace Interprocess
namespace Json

/-- A type whose values are exchanged as JSON. -/
class Form (α : Type) where
  /-- The tree written for a value. -/
  toJson : α → Json
  /-- The value that a tree means. -/
  ofJson? : Json → Option α

/-- The JSON text of a value. -/
def encode {α : Type} [Form α] (value : α) : Bytes := (Form.toJson value).render

/-- The value that a JSON text means. -/
def decode? {α : Type} [Form α] (text : Bytes) : Option α :=
  (parse? text).bind Form.ofJson?

/-! ## Scalars -/

/-- The tree of a text. -/
def ofText (s : String) : Json := string (StringLiteral.ofText s)

/-- The text that a tree means. -/
def toText? : Json → Option String
  | string literal => literal.text?
  | _ => none

/-- The tree of an integer. -/
def ofInt (i : Int) : Json := number (NumberLiteral.ofInt i)

/-- The integer that a tree means. -/
def toInt? : Json → Option Int
  | number literal => literal.toInt?
  | _ => none

/-- The tree of a natural number. -/
def ofNat (n : Nat) : Json := ofInt n

/-- The natural number below `bound` that a tree means. -/
def toNatBelow? (bound : Nat) (j : Json) : Option Nat :=
  j.toInt?.bind fun i => if 0 ≤ i ∧ i < bound then some i.toNat else none

/-- The tree of a 32-bit word. -/
def ofWord (w : UInt32) : Json := ofNat w.toNat

/-- The 32-bit word that a tree means. -/
def toWord? (j : Json) : Option UInt32 := (j.toNatBelow? 0x100000000).map UInt32.ofNat

/-- The 64-bit number that a tree means. -/
def toLong? (j : Json) : Option Nat := j.toNatBelow? 0x10000000000000000

/-- The tree of a list of bytes: an array of numbers. -/
def ofBytes (bytes : Bytes) : Json := array (bytes.map fun b => ofNat b.toNat)

/-- The byte that a tree means. -/
def toByte? (j : Json) : Option UInt8 := (j.toNatBelow? 0x100).map UInt8.ofNat

/-- The list of bytes that a tree means. -/
def toBytes? : Json → Option Bytes
  | array items => items.mapM toByte?
  | _ => none

/-! ## Records -/

/-- The object with these fields. -/
def ofFields (fields : List (String × Json)) : Json :=
  object (fields.map fun field => (StringLiteral.ofText field.1, field.2))

/-- The value of the only member named `name`; `none` if that name occurs twice. -/
def onlyMember? (name : String) (members : List (String × Json)) : Option (Option Json) :=
  match members.filter fun member => member.1 == name with
  | [] => some none
  | [member] => some (some member.2)
  | _ => none

/-- The values of the fields called `names`, in that order; a field that is left out has
`none`.  In an array only the last `optional` fields may be left out. -/
def toFields? (names : List String) (optional : Nat) : Json → Option (List (Option Json))
  | object members => do
      let members ← members.mapM fun member =>
        (StringLiteral.text? member.1).map fun key => (key, member.2)
      names.mapM fun name => onlyMember? name members
  | array items =>
      if items.length ≤ names.length ∧ names.length ≤ items.length + optional then
        some (items.map some ++ List.replicate (names.length - items.length) none)
      else none
  | _ => none

/-! ## Variants -/

/-- The name of a case, with the tree of its contents if any are given. -/
def toVariant? : Json → Option (String × Option Json)
  | string literal => literal.text?.map fun name => (name, none)
  | object [(key, contents)] => (StringLiteral.text? key).map fun name => (name, some contents)
  | _ => none

/-- Whether nothing, or `null`, is given as the contents of a case. -/
def isBareCase : Option Json → Bool
  | none | some null => true
  | _ => false

end Json
end Interprocess

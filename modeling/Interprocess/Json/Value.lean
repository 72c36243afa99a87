import Interprocess.Json.Lexeme

/-!
# JSON values

A `Json` is a JSON text as a tree.  Literals are kept as they stand, and the members of an
object in their order with all repetitions, so that reading a text decides nothing about
its meaning.

**Reading.**  `Json.parse?` runs a machine over the lexemes.  The machine keeps the arrays and
objects that are still open on a stack of its own, so a text may be nested to any depth.

**Writing.**  `Json.render` writes a tree without blanks.
-/

namespace Interprocess

open Json in
/-- A JSON text as a tree. -/
inductive Json
  | null
  | boolean (value : Bool)
  | number (literal : NumberLiteral)
  | string (literal : StringLiteral)
  | array (items : List Json)
  | object (members : List (StringLiteral × Json))

namespace Json

/-- An array or object that is still open.  What it holds so far comes last one first. -/
inductive Frame
  /-- An array that waits for one more item. -/
  | array (done : List Json)
  /-- An object that waits for the value of `key`. -/
  | member (done : List (StringLiteral × Json)) (key : StringLiteral)

/-- What must come next in the innermost array or object. -/
inductive Phase
  /-- A value. -/
  | value
  /-- The first item of an array, or its end. -/
  | firstItem
  /-- A comma or the end of an array. -/
  | afterItem (done : List Json)
  /-- The first key of an object, or its end. -/
  | firstKey
  /-- A key. -/
  | key (done : List (StringLiteral × Json))
  /-- A colon. -/
  | colon (done : List (StringLiteral × Json)) (key : StringLiteral)
  /-- A comma or the end of an object. -/
  | afterMember (done : List (StringLiteral × Json))
  /-- Nothing: the text is complete. -/
  | complete (value : Json)

/-- The machine that builds a tree. -/
structure Builder where
  /-- The arrays and objects outside the innermost one, innermost first. -/
  stack : List Frame
  /-- What must come next. -/
  phase : Phase

namespace Builder

/-- The machine before the first lexeme. -/
def start : Builder := { stack := [], phase := .value }

/-- Put a finished value where it belongs. -/
def place (value : Json) : List Frame → Builder
  | [] => { stack := [], phase := .complete value }
  | .array done :: stack => { stack, phase := .afterItem (value :: done) }
  | .member done key :: stack => { stack, phase := .afterMember ((key, value) :: done) }

/-- Take in a lexeme where a value must come. -/
def beginValue? (stack : List Frame) : Lexeme → Option Builder
  | .null => some (place .null stack)
  | .boolean value => some (place (.boolean value) stack)
  | .number literal => some (place (.number literal) stack)
  | .string literal => some (place (.string literal) stack)
  | .arrayOpen => some { stack, phase := .firstItem }
  | .objectOpen => some { stack, phase := .firstKey }
  | .arrayClose | .objectClose | .comma | .colon => none

/-- Take in a lexeme. -/
def step? (b : Builder) (lexeme : Lexeme) : Option Builder :=
  match b.phase, lexeme with
  | .value, _ => beginValue? b.stack lexeme
  | .firstItem, .arrayClose => some (place (.array []) b.stack)
  | .firstItem, _ => beginValue? (.array [] :: b.stack) lexeme
  | .afterItem done, .comma => some { stack := .array done :: b.stack, phase := .value }
  | .afterItem done, .arrayClose => some (place (.array done.reverse) b.stack)
  | .firstKey, .objectClose => some (place (.object []) b.stack)
  | .firstKey, .string key => some { b with phase := .colon [] key }
  | .key done, .string key => some { b with phase := .colon done key }
  | .colon done key, .colon => some { stack := .member done key :: b.stack, phase := .value }
  | .afterMember done, .comma => some { b with phase := .key done }
  | .afterMember done, .objectClose => some (place (.object done.reverse) b.stack)
  | _, _ => none

/-- The tree, if it is complete. -/
def finish? (b : Builder) : Option Json :=
  match b.phase with
  | .complete value => some value
  | _ => none

end Builder

/-- The tree of a list of lexemes. -/
def ofLexemes? (lexemes : List Lexeme) : Option Json :=
  (lexemes.foldlM Builder.step? Builder.start).bind Builder.finish?

/-- The tree of a text, which must be one value with blanks around it at most. -/
def parse? (text : Bytes) : Option Json := (Lexeme.scan? text).bind ofLexemes?

mutual

/-- The lexemes of a tree. -/
def lexemes : Json → List Lexeme
  | null => [.null]
  | boolean value => [.boolean value]
  | number literal => [.number literal]
  | string literal => [.string literal]
  | array items => .arrayOpen :: (itemLexemes items ++ [.arrayClose])
  | object members => .objectOpen :: (memberLexemes members ++ [.objectClose])

/-- The lexemes of the items of an array. -/
def itemLexemes : List Json → List Lexeme
  | [] => []
  | [item] => lexemes item
  | item :: rest => lexemes item ++ .comma :: itemLexemes rest

/-- The lexemes of the members of an object. -/
def memberLexemes : List (StringLiteral × Json) → List Lexeme
  | [] => []
  | [(key, value)] => .string key :: .colon :: lexemes value
  | (key, value) :: rest => .string key :: .colon :: (lexemes value ++ .comma :: memberLexemes rest)

end

/-- The text of a tree, without blanks. -/
def render (j : Json) : Bytes := j.lexemes.flatMap Lexeme.render

end Json

end Interprocess

import Interprocess.Json.Literal
import Interprocess.Text.Numeral

/-!
# Lexemes of JSON

**Input.**  A list of bytes.

**Algorithm.**  One pass from left to right.  The scanner is always in one `ScanMode`: between
lexemes, inside one of the three words, inside a number, or inside a string.  Each byte either
moves it to the next mode or is refused.  A number has no closing mark, so the byte after it
ends it and is then looked at again between lexemes.

A string may hold any bytes but control characters, quotes and backslashes; what the bytes
and escapes spell is not looked at here.

**Results.**  `Lexeme.scan?` gives the lexemes, and `Lexeme.render` writes one back.
-/

namespace Interprocess
namespace Json

/-- A lexeme. -/
inductive Lexeme
  | arrayOpen
  | arrayClose
  | objectOpen
  | objectClose
  | comma
  | colon
  | null
  | boolean (value : Bool)
  | number (literal : NumberLiteral)
  | string (literal : StringLiteral)
deriving DecidableEq

/-- Whether a byte is a space, a tab or one of the two line ends. -/
def isBlank (b : UInt8) : Bool := b == 0x20 || b == 0x09 || b == 0x0A || b == 0x0D

/-- Whether a byte is a decimal digit. -/
def isDigit (b : UInt8) : Bool := decide (0x30 ≤ b) && decide (b ≤ 0x39)

/-- Whether a byte opens an exponent. -/
def isExponentMark (b : UInt8) : Bool := b == 0x65 || b == 0x45

/-- The value of a hexadecimal digit in either case. -/
def hexDigit? (b : UInt8) : Option Nat :=
  if isDigit b then some (b.toNat - 0x30)
  else if decide (0x61 ≤ b) && decide (b ≤ 0x66) then some (b.toNat - 0x61 + 10)
  else if decide (0x41 ≤ b) && decide (b ≤ 0x46) then some (b.toNat - 0x41 + 10)
  else none

/-- How far a number has been read, named for what was read last. -/
inductive NumberPhase
  /-- The minus sign. -/
  | minus
  /-- A zero at the front, which no digit may follow. -/
  | zero
  /-- A digit of the whole part that began with another digit than zero. -/
  | whole
  /-- The point. -/
  | point
  /-- A digit after the point. -/
  | fraction
  /-- The letter that opens the exponent. -/
  | exponentMark
  /-- The sign of the exponent. -/
  | exponentSign
  /-- A digit of the exponent. -/
  | exponent
deriving DecidableEq

namespace NumberPhase

/-- Whether a number may end here. -/
def isComplete : NumberPhase → Bool
  | zero | whole | fraction | exponent => true
  | minus | point | exponentMark | exponentSign => false

/-- Whether only the sign and the whole part have been read. -/
def isInWhole : NumberPhase → Bool
  | minus | zero | whole => true
  | point | fraction | exponentMark | exponentSign | exponent => false

/-- The phase after one more byte, if a number may go on with it. -/
def next? (b : UInt8) : NumberPhase → Option NumberPhase
  | minus => if b = 0x30 then some zero else if isDigit b then some whole else none
  | zero =>
      if b = 0x2E then some point else if isExponentMark b then some exponentMark else none
  | whole =>
      if isDigit b then some whole
      else if b = 0x2E then some point
      else if isExponentMark b then some exponentMark
      else none
  | point => if isDigit b then some fraction else none
  | fraction =>
      if isDigit b then some fraction
      else if isExponentMark b then some exponentMark
      else none
  | exponentMark =>
      if isDigit b then some exponent
      else if b = 0x2B ∨ b = 0x2D then some exponentSign
      else none
  | exponentSign => if isDigit b then some exponent else none
  | exponent => if isDigit b then some exponent else none

end NumberPhase

/-- A number that is being read. -/
structure NumberDraft where
  /-- Whether it has a minus sign. -/
  isNegative : Bool
  /-- What its whole part spells so far. -/
  whole : Nat
  /-- How far it has been read. -/
  phase : NumberPhase
deriving DecidableEq

namespace NumberDraft

/-- A number that begins with `b`, if one may. -/
def start? (b : UInt8) : Option NumberDraft :=
  if b = 0x2D then some { isNegative := true, whole := 0, phase := .minus }
  else if b = 0x30 then some { isNegative := false, whole := 0, phase := .zero }
  else if isDigit b then
    some { isNegative := false, whole := b.toNat - 0x30, phase := .whole }
  else none

/-- The number with one more byte, if it may go on with it. -/
def extend? (b : UInt8) (n : NumberDraft) : Option NumberDraft :=
  (n.phase.next? b).map fun phase =>
    if phase.isInWhole then { n with whole := 10 * n.whole + (b.toNat - 0x30), phase }
    else { n with phase }

/-- The number, if it may end here. -/
def finish? (n : NumberDraft) : Option NumberLiteral :=
  if n.phase.isComplete then
    some { isNegative := n.isNegative, whole := n.whole, isWhole := n.phase.isInWhole }
  else none

end NumberDraft

/-- Where the scanner is.  Parts of a string are held last one first. -/
inductive ScanMode
  /-- Between two lexemes. -/
  | between
  /-- Inside a word of which `rest` is still to come. -/
  | word (rest : Bytes) (lexeme : Lexeme)
  /-- Inside a number. -/
  | number (draft : NumberDraft)
  /-- Inside a string. -/
  | string (parts : StringLiteral)
  /-- After a backslash inside a string. -/
  | escape (parts : StringLiteral)
  /-- Inside an escaped code unit: `missing` digits are still to come. -/
  | codeUnit (parts : StringLiteral) (missing : Nat) (value : Nat)
deriving DecidableEq

/-- The scanner: its mode, and the lexemes found, last one first. -/
structure Scanner where
  /-- Where it is. -/
  mode : ScanMode
  /-- What it found. -/
  found : List Lexeme
deriving DecidableEq

namespace Scanner

/-- The scanner before the first byte. -/
def start : Scanner := { mode := .between, found := [] }

/-- The scanner after a whole lexeme. -/
def emit (lexeme : Lexeme) (found : List Lexeme) : Scanner :=
  { mode := .between, found := lexeme :: found }

/-- Look at a byte between two lexemes. -/
def begin? (found : List Lexeme) (b : UInt8) : Option Scanner :=
  if isBlank b then some { mode := .between, found }
  else if b = 0x5B then some (emit .arrayOpen found)
  else if b = 0x5D then some (emit .arrayClose found)
  else if b = 0x7B then some (emit .objectOpen found)
  else if b = 0x7D then some (emit .objectClose found)
  else if b = 0x2C then some (emit .comma found)
  else if b = 0x3A then some (emit .colon found)
  else if b = 0x22 then some { mode := .string [], found }
  else if b = 0x6E then some { mode := .word [0x75, 0x6C, 0x6C] .null, found }
  else if b = 0x74 then some { mode := .word [0x72, 0x75, 0x65] (.boolean true), found }
  else if b = 0x66 then some { mode := .word [0x61, 0x6C, 0x73, 0x65] (.boolean false), found }
  else (NumberDraft.start? b).map fun draft => { mode := .number draft, found }

/-- The code unit that a letter after a backslash stands for. -/
def shortEscape? (b : UInt8) : Option UInt16 :=
  if b = 0x22 then some 0x22
  else if b = 0x5C then some 0x5C
  else if b = 0x2F then some 0x2F
  else if b = 0x62 then some 0x08
  else if b = 0x66 then some 0x0C
  else if b = 0x6E then some 0x0A
  else if b = 0x72 then some 0x0D
  else if b = 0x74 then some 0x09
  else none

/-- Look at one more byte. -/
def step? (s : Scanner) (b : UInt8) : Option Scanner :=
  match s.mode with
  | .between => begin? s.found b
  | .word [] _ => none
  | .word (c :: rest) lexeme =>
      if b = c then
        if rest.isEmpty then some (emit lexeme s.found)
        else some { s with mode := .word rest lexeme }
      else none
  | .number draft =>
      match draft.extend? b with
      | some draft => some { s with mode := .number draft }
      | none => draft.finish?.bind fun literal => begin? (.number literal :: s.found) b
  | .string parts =>
      if b = 0x22 then some (emit (.string parts.reverse) s.found)
      else if b = 0x5C then some { s with mode := .escape parts }
      else if b < 0x20 then none
      else some { s with mode := .string (.byte b :: parts) }
  | .escape parts =>
      if b = 0x75 then some { s with mode := .codeUnit parts 4 0 }
      else (shortEscape? b).map fun u => { s with mode := .string (.codeUnit u :: parts) }
  | .codeUnit parts missing value =>
      (hexDigit? b).map fun digit =>
        let value := 16 * value + digit
        if missing ≤ 1 then { s with mode := .string (.codeUnit (UInt16.ofNat value) :: parts) }
        else { s with mode := .codeUnit parts (missing - 1) value }

/-- The lexemes at the end of the input, which must not be inside a word or a string. -/
def finish? (s : Scanner) : Option (List Lexeme) :=
  match s.mode with
  | .between => some s.found.reverse
  | .number draft => draft.finish?.map fun literal => (Lexeme.number literal :: s.found).reverse
  | _ => none

end Scanner

namespace Lexeme

/-- The lexemes of a text. -/
def scan? (text : Bytes) : Option (List Lexeme) :=
  (text.foldlM Scanner.step? Scanner.start).bind Scanner.finish?

/-- The four hexadecimal digits of a code unit, in lower case. -/
def codeUnitDigits (u : UInt16) : Bytes :=
  Utf8.encode (Text.hexPadded 4 u.toNat)

/-- How an escaped code unit is written: by a letter if it has one, else by its number.  A
slash needs no escape, and none is written for it. -/
def renderCodeUnit (u : UInt16) : Bytes :=
  if u = 0x22 then [0x5C, 0x22]
  else if u = 0x5C then [0x5C, 0x5C]
  else if u = 0x08 then [0x5C, 0x62]
  else if u = 0x09 then [0x5C, 0x74]
  else if u = 0x0A then [0x5C, 0x6E]
  else if u = 0x0C then [0x5C, 0x66]
  else if u = 0x0D then [0x5C, 0x72]
  else 0x5C :: 0x75 :: codeUnitDigits u

/-- How a piece of a string is written. -/
def renderPart : StringPart → Bytes
  | .byte b => [b]
  | .codeUnit u => renderCodeUnit u

/-- How a number is written.  Only integers are ever written. -/
def renderNumber (n : NumberLiteral) : Bytes :=
  (if n.isNegative then [0x2D] else []) ++ Utf8.encode (Text.decimal n.whole)

/-- How a lexeme is written. -/
def render : Lexeme → Bytes
  | arrayOpen => [0x5B]
  | arrayClose => [0x5D]
  | objectOpen => [0x7B]
  | objectClose => [0x7D]
  | comma => [0x2C]
  | colon => [0x3A]
  | null => Utf8.encode "null"
  | boolean value => Utf8.encode (if value then "true" else "false")
  | number literal => renderNumber literal
  | string literal => 0x22 :: literal.flatMap renderPart ++ [0x22]

end Lexeme

end Json
end Interprocess

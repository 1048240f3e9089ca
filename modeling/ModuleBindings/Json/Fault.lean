import ModuleBindings.Decimal.Shortest
import ModuleBindings.Text.Quoted

/-!
# Faults of a JSON text

What can be wrong with a JSON text or with the document it holds, and where. Lines count from
one. Columns count the bytes of the line before the place, so a place just after a line feed
has column zero.
-/

namespace ModuleBindings.Json

/-- A place between two bytes of a text. -/
structure Mark where
  line : Nat
  column : Nat
  deriving DecidableEq, Repr

namespace Mark

def start : Mark := ⟨1, 0⟩

def advance (m : Mark) (c : Char) : Mark :=
  if c = '\n' then ⟨m.line + 1, 0⟩ else ⟨m.line, m.column + c.utf8Size⟩

def advanceAll (m : Mark) (cs : List Char) : Mark :=
  cs.foldl advance m

/-- The place `n` bytes further on, which may be inside a character. -/
def advanceBytes (m : Mark) (n : Nat) : List Char → Mark
  | [] => m
  | c :: cs =>
    if c.utf8Size ≤ n then (m.advance c).advanceBytes (n - c.utf8Size) cs
    else ⟨m.line, m.column + n⟩

/-- The place after the first byte of what follows. -/
def ahead (m : Mark) (cs : List Char) : Mark :=
  m.advanceBytes 1 cs

end Mark

inductive Number where
  | integer (n : Int)
  | float (x : Float)

/-- How numbers are written in messages: with an exponent below `0.00001` and from ten
quadrillions on. -/
def numberFormat : Decimal.FloatFormat := ⟨-5, 16, 2⟩

/-- A value that was found where one of another type was expected. -/
inductive Found where
  | null
  | boolean (b : Bool)
  | number (n : Number)
  | text (s : String)
  | sequence
  | map

namespace Found

def describe : Found → String
  | null => "null"
  | boolean b => "boolean `" ++ toString b ++ "`"
  | number (.integer n) => "integer `" ++ toString n ++ "`"
  | number (.float x) => "floating point `" ++ Decimal.floatText numberFormat x ++ "`"
  | text s => "string " ++ Text.quoteText s
  | sequence => "sequence"
  | map => "map"

end Found

inductive Fault where
  | endInList
  | endInObject
  | endInText
  | endInValue
  | expectedColon
  | expectedListCommaOrEnd
  | expectedObjectCommaOrEnd
  | expectedWord
  | expectedValue
  | invalidEscape
  | invalidNumber
  | numberOutOfRange
  | controlCharacter
  | keyNotText
  | loneSurrogate
  | trailingComma
  | trailingCharacters
  | unfinishedSurrogatePair
  | nestedTooDeep
  | invalidType (found : Found) (expected : String)
  | duplicateField (name : String)

namespace Fault

def message : Fault → String
  | endInList => "EOF while parsing a list"
  | endInObject => "EOF while parsing an object"
  | endInText => "EOF while parsing a string"
  | endInValue => "EOF while parsing a value"
  | expectedColon => "expected `:`"
  | expectedListCommaOrEnd => "expected `,` or `]`"
  | expectedObjectCommaOrEnd => "expected `,` or `\x7d`"
  | expectedWord => "expected ident"
  | expectedValue => "expected value"
  | invalidEscape => "invalid escape"
  | invalidNumber => "invalid number"
  | numberOutOfRange => "number out of range"
  | controlCharacter => "control character (\\u0000-\\u001F) found while parsing a string"
  | keyNotText => "key must be a string"
  | loneSurrogate => "lone leading surrogate in hex escape"
  | trailingComma => "trailing comma"
  | trailingCharacters => "trailing characters"
  | unfinishedSurrogatePair => "unexpected end of hex escape"
  | nestedTooDeep => "recursion limit exceeded"
  | invalidType found expected => "invalid type: " ++ found.describe ++ ", expected " ++ expected
  | duplicateField name => "duplicate field `" ++ name ++ "`"

end Fault

/-- A fault and the place where it shows. -/
structure Flaw where
  fault : Fault
  mark : Mark

end ModuleBindings.Json

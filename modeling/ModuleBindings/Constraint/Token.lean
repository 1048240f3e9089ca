import ModuleBindings.Location
import ModuleBindings.Text.Alphanumeric
import ModuleBindings.Text.Quoted

/-!
# Tokens of the constraint syntax

Five punctuation characters and names, which are runs of letters, digits, `_` and `-`. Also
the errors of reading a constraint, which speak of tokens.
-/

namespace ModuleBindings.Constraint

inductive TokenKind where
  | name
  | parenL
  | parenR
  | braceL
  | braceR
  | equals
  | eof
  deriving DecidableEq, Repr

namespace TokenKind

/-- A kind of token as it is shown in messages. -/
def text : TokenKind → String
  | name => "Name"
  | parenL => "\"(\""
  | parenR => "\")\""
  | braceL => "\"\x7b\""
  | braceR => "\"\x7d\""
  | equals => "\"=\""
  | eof => "<EOF>"

def ofPunctuation? (c : Char) : Option TokenKind :=
  if c = '(' then some parenL
  else if c = ')' then some parenR
  else if c = '\x7b' then some braceL
  else if c = '\x7d' then some braceR
  else if c = '=' then some equals
  else none

end TokenKind

def isNameChar (c : Char) : Bool :=
  Text.isAlphanumeric c || c = '_' || c = '-'

/-- A punctuation character is no name character. -/
theorem isNameChar_of_ofPunctuation? {c : Char} {k : TokenKind}
    (h : TokenKind.ofPunctuation? c = some k) : isNameChar c = false := by
  unfold TokenKind.ofPunctuation? at h
  repeat' split at h
  all_goals first
    | (subst_vars; decide)
    | contradiction

structure Token where
  kind : TokenKind
  value : String
  location : Location
  deriving DecidableEq, Repr

namespace Token

/-- A token as it is shown in messages. -/
def text (t : Token) : String :=
  match t.kind with
  | .name => "Name \"" ++ t.value ++ "\""
  | kind => kind.text

end Token

/-- What could have stood in the place of an unexpected token. -/
inductive Expectation where
  | token (kind : TokenKind)
  | keyword
  | fieldOrClose
  | shallowerNesting
  deriving DecidableEq, Repr

namespace Expectation

def text : Expectation → String
  | token kind => kind.text
  | keyword => "optional, string, bool, number, null, any, map, list or object"
  | fieldOrClose => "Name or \"\x7d\""
  | shallowerNesting => "shallower nesting"

end Expectation

inductive SyntaxError where
  /-- A character that begins no token. -/
  | badCharacter (character : Char) (location : Location)
  /-- A token that cannot stand where it does. -/
  | unexpected (found : Token) (expected : Expectation)
  deriving DecidableEq, Repr

namespace SyntaxError

def location : SyntaxError → Location
  | badCharacter _ location => location
  | unexpected found _ => found.location

def message : SyntaxError → String
  | badCharacter c location => location.text ++ ": unexpected character " ++ Text.quoteChar c
  | unexpected found expected =>
    found.location.text ++ ": unexpected " ++ found.text ++ ", expected " ++ expected.text

end SyntaxError

end ModuleBindings.Constraint

import ModuleBindings.Text.GraphemeExtend
import ModuleBindings.Text.Printable

/-!
# Quoted characters and texts in messages

In a message a character stands between apostrophes and a text between quotation marks. What
would not show on a line of its own (controls, marks that join the character before them,
unprintable characters) is written by its code point.
-/

namespace ModuleBindings.Text

/-- A character by its code point in lower-case hexadecimal digits. -/
def codePointEscape (c : Char) : List Char :=
  ['\\', 'u', '\x7b'] ++ Nat.toDigits 16 c.toNat ++ ['\x7d']

/-- A character as it is written between two `mark` characters. -/
def escapeIn (mark : Char) (c : Char) : List Char :=
  if c = '\x00' then ['\\', '0']
  else if c = '\t' then ['\\', 't']
  else if c = '\r' then ['\\', 'r']
  else if c = '\n' then ['\\', 'n']
  else if c = '\\' || c = mark then ['\\', c]
  else if isGraphemeExtend c || !isPrintable c then codePointEscape c
  else [c]

def quoteChar (c : Char) : String :=
  String.ofList ('\'' :: escapeIn '\'' c ++ ['\''])

def quoteText (s : String) : String :=
  String.ofList ('"' :: s.toList.flatMap (escapeIn '"') ++ ['"'])

end ModuleBindings.Text

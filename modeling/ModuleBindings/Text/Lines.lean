/-!
# Lines of a text

A line ends with a line feed, before which one carriage return is dropped. What follows the
last line feed is a line unless it is empty.
-/

namespace ModuleBindings.Text

/-- Drops one carriage return from the end. -/
def dropReturn (line : List Char) : List Char :=
  if line.getLast? = some '\r' then line.dropLast else line

/-- The lines of `cs` when `begun` is the line begun before it, last character first. A line
that no line feed ends keeps a carriage return at its end. -/
def linesAfter (begun : List Char) : List Char → List (List Char)
  | [] => if begun.isEmpty then [] else [begun.reverse]
  | c :: cs =>
    if c = '\n' then dropReturn begun.reverse :: linesAfter [] cs
    else linesAfter (c :: begun) cs

def lines (s : String) : List String :=
  (linesAfter [] s.toList).map String.ofList

end ModuleBindings.Text

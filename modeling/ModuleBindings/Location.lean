/-!
# Places in a source text

Offsets and columns count code points, lines and columns from one. Only a line feed begins a
new line.
-/

namespace ModuleBindings

/-- A text together with the name it is reported under. -/
structure Source where
  name : String
  input : String
  deriving DecidableEq, Repr

/-- A stretch of a source text, `stop` exclusive, with the line and column of its start. -/
structure Location where
  source : String
  start : Nat
  stop : Nat
  line : Nat
  column : Nat
  deriving DecidableEq, Repr

namespace Location

/-- A place as it is shown in messages. -/
def text (l : Location) : String :=
  l.source ++ ":" ++ toString l.line ++ ":" ++ toString l.column

end Location

/-- A point between two characters of a text. -/
structure Cursor where
  offset : Nat
  line : Nat
  column : Nat
  deriving DecidableEq, Repr

namespace Cursor

def start : Cursor := ⟨0, 1, 1⟩

def advance (k : Cursor) (c : Char) : Cursor :=
  if c = '\n' then ⟨k.offset + 1, k.line + 1, 1⟩ else ⟨k.offset + 1, k.line, k.column + 1⟩

def advanceAll (k : Cursor) (cs : List Char) : Cursor :=
  cs.foldl advance k

/-- The stretch of `n` characters that begins here. -/
def span (k : Cursor) (source : String) (n : Nat) : Location :=
  ⟨source, k.offset, k.offset + n, k.line, k.column⟩

@[simp] theorem advanceAll_nil (k : Cursor) : k.advanceAll [] = k := rfl

@[simp] theorem advanceAll_cons (k : Cursor) (c : Char) (cs : List Char) :
    k.advanceAll (c :: cs) = (k.advance c).advanceAll cs := rfl

theorem advanceAll_append (k : Cursor) (cs ds : List Char) :
    k.advanceAll (cs ++ ds) = (k.advanceAll cs).advanceAll ds := by
  simp [advanceAll]

end Cursor

end ModuleBindings

import ModuleBindings.Constraint.Lexer

/-!
# Looking ahead

A scanner reads its text only once. A token that was looked at is kept until it is asked for, and
a bad character is remembered, so that nothing is read behind it.
-/

namespace ModuleBindings.Constraint

structure Scanner where
  lexer : Lexer
  /-- The token that was looked at and not asked for yet. -/
  ahead : Option Token
  /-- What was said of the bad character that the text was read up to. -/
  fault : Option SyntaxError
  deriving DecidableEq, Repr

namespace Scanner

def ofSource (s : Source) : Scanner :=
  ⟨Lexer.ofSource s, none, none⟩

/-- Reads on in the text, unless a bad character was met. -/
def read (s : Scanner) : Except SyntaxError Token × Scanner :=
  match s.fault with
  | some e => (.error e, s)
  | none =>
    match s.lexer.read with
    | (.ok t, l) => (.ok t, { s with lexer := l })
    | (.error e, l) => (.error e, { s with lexer := l, fault := some e })

def peek (s : Scanner) : Except SyntaxError Token × Scanner :=
  match s.ahead with
  | some t => (.ok t, s)
  | none =>
    match s.read with
    | (.ok t, s') => (.ok t, { s' with ahead := some t })
    | (.error e, s') => (.error e, s')

def next (s : Scanner) : Except SyntaxError Token × Scanner :=
  match s.ahead with
  | some t => (.ok t, { s with ahead := none })
  | none => s.read

/-- A token of another kind is refused and used up all the same. -/
def skip (s : Scanner) (kind : TokenKind) : Except SyntaxError Token × Scanner :=
  match s.next with
  | (.ok t, s') =>
    if t.kind = kind then (.ok t, s') else (.error (.unexpected t (.token kind)), s')
  | (.error e, s') => (.error e, s')

def step (s : Scanner) : Lexer.Step → Except SyntaxError Token × Scanner
  | .peek => s.peek
  | .next => s.next
  | .skip kind => s.skip kind

def run (s : Scanner) : List Lexer.Step → List (Except SyntaxError Token)
  | [] => []
  | st :: steps => (s.step st).1 :: (s.step st).2.run steps

end Scanner

end ModuleBindings.Constraint

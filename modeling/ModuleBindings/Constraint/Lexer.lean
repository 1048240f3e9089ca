import ModuleBindings.Constraint.Token
import ModuleBindings.Text.Blank

/-!
# Reading tokens

A lexer is what is left of the text. Reading at the end of the text or at a bad character
moves no further, so the same answer is given from then on. `Lexer.stream` is everything a
lexer will ever answer.
-/

namespace ModuleBindings.Constraint

structure Lexer where
  source : String
  cursor : Cursor
  rest : List Char
  deriving DecidableEq, Repr

namespace Lexer

def ofSource (s : Source) : Lexer :=
  ⟨s.name, Cursor.start, s.input.toList⟩

def skipBlanks (k : Cursor) : List Char → Cursor × List Char
  | [] => (k, [])
  | c :: cs => if Text.isBlank c then skipBlanks (k.advance c) cs else (k, c :: cs)

theorem length_skipBlanks_le (k : Cursor) (cs : List Char) :
    (skipBlanks k cs).2.length ≤ cs.length := by
  induction cs generalizing k with
  | nil => simp [skipBlanks]
  | cons c cs ih =>
    rw [skipBlanks]
    split
    · exact Nat.le_succ_of_le (ih _)
    · simp

/-- The token that begins with the character `c`, and the lexer after it. -/
def readFrom (source : String) (k : Cursor) (c : Char) (cs : List Char) :
    Except SyntaxError Token × Lexer :=
  match TokenKind.ofPunctuation? c with
  | some kind => (.ok ⟨kind, String.singleton c, k.span source 1⟩, ⟨source, k.advance c, cs⟩)
  | none =>
    if isNameChar c then
      let word := c :: cs.takeWhile isNameChar
      (.ok ⟨.name, String.ofList word, k.span source word.length⟩,
        ⟨source, k.advanceAll word, cs.dropWhile isNameChar⟩)
    else (.error (.badCharacter c (k.span source 1)), ⟨source, k, c :: cs⟩)

/-- The next token, and the lexer after it. -/
def read (l : Lexer) : Except SyntaxError Token × Lexer :=
  match skipBlanks l.cursor l.rest with
  | (k, []) => (.ok ⟨.eof, "", k.span l.source 0⟩, ⟨l.source, k, []⟩)
  | (k, c :: cs) => readFrom l.source k c cs

def peek (l : Lexer) : Except SyntaxError Token :=
  l.read.1

/-- Reads the next token and refuses one of another kind, which is used up all the same. -/
def skip (l : Lexer) (kind : TokenKind) : Except SyntaxError Token × Lexer :=
  match l.read with
  | (.error e, l') => (.error e, l')
  | (.ok t, l') =>
    if t.kind = kind then (.ok t, l') else (.error (.unexpected t (.token kind)), l')

/-- What a client of a lexer can ask of it. -/
inductive Step where
  | peek
  | next
  | skip (kind : TokenKind)
  deriving DecidableEq, Repr

def step (l : Lexer) : Step → Except SyntaxError Token × Lexer
  | .peek => (l.peek, l)
  | .next => l.read
  | .skip kind => l.skip kind

def run (l : Lexer) : List Step → List (Except SyntaxError Token)
  | [] => []
  | s :: steps => (l.step s).1 :: (l.step s).2.run steps

theorem length_rest_readFrom_lt {source : String} {k : Cursor} {c : Char} {cs : List Char}
    {t : Token} {l : Lexer} (h : readFrom source k c cs = (.ok t, l)) :
    l.rest.length < (c :: cs).length := by
  unfold readFrom at h
  split at h
  · obtain ⟨-, rfl⟩ := Prod.mk.inj h
    simp
  · split at h
    · obtain ⟨-, rfl⟩ := Prod.mk.inj h
      exact Nat.lt_succ_of_le (List.dropWhile_suffix _).length_le
    · simp at h

/-- Every token but the one at the end uses up some of the text. -/
theorem length_rest_read_lt {l l' : Lexer} {t : Token} (h : l.read = (.ok t, l'))
    (ht : t.kind ≠ .eof) : l'.rest.length < l.rest.length := by
  have hle := length_skipBlanks_le l.cursor l.rest
  unfold read at h
  split at h
  · obtain ⟨h, -⟩ := Prod.mk.inj h
    cases h
    exact absurd rfl ht
  · next hs =>
    rw [hs] at hle
    exact Nat.lt_of_lt_of_le (length_rest_readFrom_lt h) hle

/-- All tokens before the end of the text or the first bad character, and what is read there:
the token at the end or the error. -/
structure Stream where
  tokens : List Token
  ending : Except SyntaxError Token

def stream (l : Lexer) : Stream :=
  match _h : l.read with
  | (.error e, _) => ⟨[], .error e⟩
  | (.ok t, l') =>
    if _ht : t.kind = .eof then ⟨[], .ok t⟩
    else
      let s := stream l'
      ⟨t :: s.tokens, s.ending⟩
termination_by l.rest.length
decreasing_by exact length_rest_read_lt _h _ht

end Lexer

end ModuleBindings.Constraint

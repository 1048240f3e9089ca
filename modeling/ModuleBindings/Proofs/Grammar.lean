import ModuleBindings.Constraint.Parser
import Mathlib.Tactic.Lemma

/-!
# The grammar of types

A derivation tree of the grammar spells a list of symbols, writes a constraint and is some levels
deep. Nothing here reads tokens: the tree is what a text that spells it should be parsed into.
-/

namespace ModuleBindings.Constraint

/-- What the grammar sees of a token: the text of a name, the kind of anything else. -/
inductive Symbol where
  | word (text : String)
  | mark (kind : TokenKind)
  deriving DecidableEq, Repr

def Token.symbol (t : Token) : Symbol :=
  if t.kind = .name then .word t.value else .mark t.kind

namespace Token

lemma symbol_eq_mark_iff {t : Token} {kind : TokenKind} (hk : kind ≠ .name) :
    t.symbol = .mark kind ↔ t.kind = kind := by
  unfold symbol
  by_cases ht : t.kind = .name
  · simp [ht, hk.symm]
  · simp [ht]

lemma symbol_eq_word_iff {t : Token} {text : String} :
    t.symbol = .word text ↔ t.kind = .name ∧ t.value = text := by
  unfold symbol
  by_cases ht : t.kind = .name <;> simp [ht]

end Token

/-- The lexer reads all of its text, as these symbols. -/
def Lexer.Spells (l : Lexer) (ss : List Symbol) : Prop :=
  (∃ eof, l.stream.ending = .ok eof) ∧ l.stream.tokens.map Token.symbol = ss

/-- Derivation trees, one constructor for each way to write a type. Any name can be that of a
field, and fields may share one. -/
inductive Derivation where
  | optional (type : Derivation)
  | scalar (kind : Kind) (isScalar : kind.isScalar = true)
  | wrapper (kind : Kind) (wraps : kind.wraps = true) (elem : Derivation)
  | object (fields : List (String × Derivation))

namespace Derivation

mutual

/-- The symbols of a text that is derived so. -/
def symbols : Derivation → List Symbol
  | optional d => .word "optional" :: .mark .parenL :: (d.symbols ++ [.mark .parenR])
  | scalar kind _ => [.word kind.keyword]
  | wrapper kind _ d => .word kind.keyword :: .mark .parenL :: (d.symbols ++ [.mark .parenR])
  | object fs =>
    .word "object" :: .mark .parenL :: .mark .braceL ::
      (fieldSymbols fs ++ [.mark .braceR, .mark .parenR])

def fieldSymbols : List (String × Derivation) → List Symbol
  | [] => []
  | (name, d) :: rest => .word name :: .mark .equals :: (d.symbols ++ fieldSymbols rest)

end

mutual

/-- The levels of types inside each other; an `optional` is a level of its own. -/
def depth : Derivation → Nat
  | optional d => d.depth + 1
  | scalar _ _ => 1
  | wrapper _ _ d => d.depth + 1
  | object fs => fieldDepth fs + 1

def fieldDepth : List (String × Derivation) → Nat
  | [] => 0
  | (_, d) :: rest => max d.depth (fieldDepth rest)

end

mutual

/-- The constraint that is written. An `optional` flags the type directly inside it and none
further in. -/
def tree : Derivation → Constraint
  | optional d => d.tree.withOptional true
  | scalar kind _ => node kind.keyword kind none false [] none
  | wrapper kind _ d => node kind.keyword kind (some d.tree) false [] none
  | object fs => node "object" .object none false (fieldTrees fs) none

def fieldTrees : List (String × Derivation) → List (Field Constraint)
  | [] => []
  | (name, d) :: rest => ⟨name, none, d.tree⟩ :: fieldTrees rest

end

end Derivation

end ModuleBindings.Constraint

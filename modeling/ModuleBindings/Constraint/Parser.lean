import ModuleBindings.Constraint.Basic
import ModuleBindings.Constraint.Lexer
import ModuleBindings.Rest

/-!
# Parsing constraints

```text
Type   := optional ( Type )
        | string | bool | number | null | any
        | map ( Type ) | list ( Type )
        | object ( { Field* } )
Field  := Name = Type
```

The parser reads the tokens from left to right and gives back those it leaves. It stops at the
first token that cannot stand where it does, or at a type nested too deep.
-/

namespace ModuleBindings.Constraint

/-- What a name at the beginning of a type says about the rest of it. -/
inductive Keyword where
  | optional
  | scalar (kind : Kind)
  | wrapper (kind : Kind)
  | object
  deriving DecidableEq, Repr

namespace Keyword

def ofName? (name : String) : Option Keyword :=
  if name = "optional" then some optional
  else if name = "string" then some (scalar .string)
  else if name = "bool" then some (scalar .boolean)
  else if name = "number" then some (scalar .number)
  else if name = "null" then some (scalar .null)
  else if name = "any" then some (scalar .any)
  else if name = "map" then some (wrapper .map)
  else if name = "list" then some (wrapper .list)
  else if name = "object" then some object
  else none

def ofToken? (t : Token) : Option Keyword :=
  if t.kind = .name then ofName? t.value else none

end Keyword

namespace Parser

/-- What all types of one text are parsed under: the deepest level at which a type may begin,
if there is one, and what is read where the tokens end. -/
structure Bounds where
  limit : Option Nat
  ending : Except SyntaxError Token

def Bounds.tooDeep (b : Bounds) (depth : Nat) : Bool :=
  b.limit.any (· < depth)

/-- What is read next where these tokens are left. -/
def Bounds.next (b : Bounds) : List Token → Except SyntaxError Token
  | [] => b.ending
  | t :: _ => .ok t

/-- The error at the first of the tokens, unless the text goes bad there. -/
def unexpected (b : Bounds) (expected : Expectation) : List Token → SyntaxError
  | [] =>
    match b.ending with
    | .error e => e
    | .ok t => .unexpected t expected
  | t :: _ => .unexpected t expected

/-- What is refused is whatever is read next. -/
theorem error_unexpected {α : Type} (b : Bounds) (expected : Expectation) (ts : List Token) :
    (.error (unexpected b expected ts) : Except SyntaxError α) =
      b.next ts >>= fun t => .error (.unexpected t expected) := by
  cases ts with
  | cons t ts => rfl
  | nil =>
    rw [unexpected, Bounds.next]
    cases b.ending <;> rfl

def expect (b : Bounds) (kind : TokenKind) :
    (ts : List Token) → Except SyntaxError (ProperRest ts)
  | [] => .error (unexpected b (.token kind) [])
  | t :: rest =>
    if t.kind = kind then .ok ⟨rest, by simp⟩ else .error (.unexpected t (.token kind))

mutual

/-- A type at the given level of nesting; `flagged` if an `optional` stands directly around
it. -/
def typeAt (b : Bounds) (depth : Nat) (flagged : Bool) (ts : List Token) :
    Except SyntaxError (Constraint × ProperRest ts) :=
  match ts with
  | [] =>
    .error (unexpected b (if b.tooDeep depth then .shallowerNesting else .keyword) [])
  | t :: rest =>
    if b.tooDeep depth then .error (.unexpected t .shallowerNesting)
    else
      match Keyword.ofToken? t with
      | none => .error (.unexpected t .keyword)
      | some (.scalar kind) =>
        .ok (node t.value kind none flagged [] (some t.location), ⟨rest, by simp⟩)
      | some .optional => do
        let ⟨r₁, h₁⟩ ← expect b .parenL rest
        let (u, ⟨r₂, h₂⟩) ← typeAt b (depth + 1) true r₁
        let ⟨r₃, h₃⟩ ← expect b .parenR r₂
        return (u, ⟨r₃, by simp; omega⟩)
      | some (.wrapper kind) => do
        let ⟨r₁, h₁⟩ ← expect b .parenL rest
        let (u, ⟨r₂, h₂⟩) ← typeAt b (depth + 1) false r₁
        let ⟨r₃, h₃⟩ ← expect b .parenR r₂
        return (node kind.keyword kind (some u) flagged [] (some t.location),
          ⟨r₃, by simp; omega⟩)
      | some .object => do
        let ⟨r₁, h₁⟩ ← expect b .parenL rest
        let ⟨r₂, h₂⟩ ← expect b .braceL r₁
        let (fs, ⟨r₃, h₃⟩) ← fieldsAt b depth r₂
        let ⟨r₄, h₄⟩ ← expect b .parenR r₃
        return (node Kind.object.keyword .object none flagged fs (some t.location),
          ⟨r₄, by simp; omega⟩)
termination_by ts.length

/-- The fields of an object whose type stands at level `depth`, up to and including the
closing brace. -/
def fieldsAt (b : Bounds) (depth : Nat) (ts : List Token) :
    Except SyntaxError (List (Field Constraint) × ProperRest ts) :=
  match ts with
  | [] => .error (unexpected b .fieldOrClose [])
  | t :: rest =>
    match t.kind with
    | .braceR => .ok ([], ⟨rest, by simp⟩)
    | .name => do
      let ⟨r₁, h₁⟩ ← expect b .equals rest
      let (u, ⟨r₂, h₂⟩) ← typeAt b (depth + 1) false r₁
      let (fs, ⟨r₃, h₃⟩) ← fieldsAt b depth r₂
      return (⟨t.value, some t.location, u⟩ :: fs, ⟨r₃, by simp; omega⟩)
    | _ => .error (.unexpected t .fieldOrClose)
termination_by ts.length

end

/-- One type, and nothing after it. -/
def parseStream (limit : Option Nat) (s : Lexer.Stream) : Except SyntaxError Constraint := do
  let b : Bounds := ⟨limit, s.ending⟩
  let (t, ⟨rest, _⟩) ← typeAt b 1 false s.tokens
  match rest, s.ending with
  | [], .ok _ => return t
  | rest, _ => throw (unexpected b (.token .eof) rest)

end Parser

/-- The deepest level at which a type may begin. -/
def maxDepth : Nat := 256

/-- The constraint that the text writes. -/
def parse (source : Source) : Except SyntaxError Constraint :=
  Parser.parseStream (some maxDepth) (Lexer.ofSource source).stream

/-- The constraint that the text writes, however deep its types are nested. -/
def parseUnbounded (source : Source) : Except SyntaxError Constraint :=
  Parser.parseStream none (Lexer.ofSource source).stream

end ModuleBindings.Constraint

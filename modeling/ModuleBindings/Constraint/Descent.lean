import ModuleBindings.Constraint.Parser

/-!
# Parsing with a counter

A descent parses as `Parser` does, but is not told at which level a type stands. It counts the types
that are open: the counter is raised before a type is read and lowered behind it, whether the type
could be read or not. Wherever a type begins, it notes the level and what is read there.
-/

namespace ModuleBindings.Constraint

/-- The beginning of a type: its level, and what is read there. -/
structure Beginning where
  level : Nat
  item : Except SyntaxError Token

structure Descent where
  /-- How many types are open. -/
  depth : Nat := 0
  /-- Where types began so far, in their order. -/
  beginnings : List Beginning := []

/-- A step of a descent. One that fails leaves the counter and the notes as they are then. -/
abbrev Descending := EStateM SyntaxError Descent

namespace Descent

open Constraint.Parser

/-- Opens a type for the time of a step, which may fail. -/
def within {α : Type} (step : Descending α) : Descending α := fun d =>
  match step { d with depth := d.depth + 1 } with
  | .ok a d => .ok a { d with depth := d.depth - 1 }
  | .error e d => .error e { d with depth := d.depth - 1 }

/-- Looks at what stands where a type begins, and refuses it if that is too deep. -/
def enter (b : Bounds) (ts : List Token) : Descending Token := do
  modify fun d => { d with beginnings := d.beginnings ++ [⟨d.depth, b.next ts⟩] }
  let first ← ofExcept (b.next ts)
  if b.tooDeep (← get).depth then throw (.unexpected first .shallowerNesting)
  else pure first

mutual

/-- A type; `flagged` if an `optional` stands directly around it. -/
def type (b : Bounds) (flagged : Bool) (ts : List Token) :
    Descending (Constraint × ProperRest ts) :=
  match ts with
  | [] => within do
    let first ← enter b []
    throw (.unexpected first .keyword)
  | t :: rest => within do
    let _ ← enter b (t :: rest)
    match Keyword.ofToken? t with
    | none => throw (.unexpected t .keyword)
    | some (.scalar kind) =>
      pure (node t.value kind none flagged [] (some t.location), ⟨rest, by simp⟩)
    | some .optional => do
      let ⟨r₁, h₁⟩ ← ofExcept (expect b .parenL rest)
      let (u, ⟨r₂, h₂⟩) ← type b true r₁
      let ⟨r₃, h₃⟩ ← ofExcept (expect b .parenR r₂)
      pure (u, ⟨r₃, by simp; omega⟩)
    | some (.wrapper kind) => do
      let ⟨r₁, h₁⟩ ← ofExcept (expect b .parenL rest)
      let (u, ⟨r₂, h₂⟩) ← type b false r₁
      let ⟨r₃, h₃⟩ ← ofExcept (expect b .parenR r₂)
      pure (node kind.keyword kind (some u) flagged [] (some t.location), ⟨r₃, by simp; omega⟩)
    | some .object => do
      let ⟨r₁, h₁⟩ ← ofExcept (expect b .parenL rest)
      let ⟨r₂, h₂⟩ ← ofExcept (expect b .braceL r₁)
      let (fs, ⟨r₃, h₃⟩) ← fields b r₂
      let ⟨r₄, h₄⟩ ← ofExcept (expect b .parenR r₃)
      pure (node Kind.object.keyword .object none flagged fs (some t.location),
        ⟨r₄, by simp; omega⟩)
termination_by ts.length

/-- The fields of an object, up to and including the closing brace. -/
def fields (b : Bounds) (ts : List Token) :
    Descending (List (Field Constraint) × ProperRest ts) :=
  match ts with
  | [] => throw (unexpected b .fieldOrClose [])
  | t :: rest =>
    match t.kind with
    | .braceR => pure ([], ⟨rest, by simp⟩)
    | .name => do
      let ⟨r₁, h₁⟩ ← ofExcept (expect b .equals rest)
      let (u, ⟨r₂, h₂⟩) ← type b false r₁
      let (fs, ⟨r₃, h₃⟩) ← fields b r₂
      pure (⟨t.value, some t.location, u⟩ :: fs, ⟨r₃, by simp; omega⟩)
    | _ => throw (.unexpected t .fieldOrClose)
termination_by ts.length

end

/-- One type, and nothing after it. -/
def wholeStream (limit : Option Nat) (s : Lexer.Stream) : Descending Constraint := do
  let b : Bounds := ⟨limit, s.ending⟩
  let (t, ⟨rest, _⟩) ← type b false s.tokens
  match rest, s.ending with
  | [], .ok _ => pure t
  | rest, _ => throw (unexpected b (.token .eof) rest)

/-- What is answered for a text, and what was counted and noted on the way. -/
def ofSource (limit : Option Nat) (src : Source) : Except SyntaxError Constraint × Descent :=
  match wholeStream limit (Lexer.ofSource src).stream {} with
  | .ok t d => (.ok t, d)
  | .error e d => (.error e, d)

end Descent

end ModuleBindings.Constraint

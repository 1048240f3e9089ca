import ModuleBindings.Json.Lexeme

/-!
# Decoding JSON documents

A decoder reads one value from the front of some tokens and gives back the tokens it leaves. It
stops at the first flaw of the text or of the document, whichever comes first, and reports it
with the path to the value in which it stands. What follows the value is never looked at.
-/

namespace ModuleBindings.Json

/-- A step from a value to a value inside it. -/
inductive Segment where
  | key (name : String)
  | index (n : Nat)
  /-- A member whose key could not be read. -/
  | unknown
  deriving DecidableEq, Repr

abbrev Path := List Segment

namespace Path

def textAfter (separator : String) : Path → String
  | [] => ""
  | .key name :: rest => separator ++ name ++ textAfter "." rest
  | .index n :: rest => "[" ++ toString n ++ "]" ++ textAfter "." rest
  | .unknown :: rest => separator ++ "?" ++ textAfter "." rest

def text (path : Path) : String :=
  if path.isEmpty then "." else textAfter "" path

end Path

structure Error where
  path : Path
  flaw : Flaw

def Error.message (e : Error) : String :=
  "at JSON path " ++ Path.text e.path ++ " → " ++ e.flaw.fault.message ++ " at line "
    ++ toString e.flaw.mark.line ++ " column " ++ toString e.flaw.mark.column

/-- Where a value stands: the end of its text and the path to it. -/
structure Site where
  last : Mark
  path : Path

namespace Site

def inside (s : Site) (segment : Segment) : Site :=
  { s with path := s.path ++ [segment] }

def fail {α : Type} (s : Site) (fault : Fault) (mark : Mark) : Except Error α :=
  .error ⟨s.path, fault, mark⟩

/-- A fault that shows at the first byte of the next token. -/
def failAhead {α : Type} (s : Site) (fault : Fault) : List Token → Except Error α
  | [] => s.fail fault s.last
  | t :: _ => s.fail fault t.ahead

/-- A flaw of the lexeme itself. -/
def failWith {α : Type} (s : Site) (flaw : Flaw) : Except Error α :=
  .error ⟨s.path, flaw⟩

/-- A value of another type than `expected`, or none. -/
def failType {α : Type} (s : Site) (expected : String) : List Token → Except Error α
  | [] => s.fail .endInValue s.last
  | t :: _ =>
    let found (f : Found) (mark : Mark) := s.fail (.invalidType f expected) mark
    match t.lexeme with
    | .null => found .null t.stop
    | .boolean b => found (.boolean b) t.stop
    | .number (.ok n) => found (.number n) t.stop
    | .text (.ok value) => found (.text value) t.stop
    | .openList => found .sequence t.start
    | .openObject => found .map t.start
    | .number (.error flaw) | .text (.error flaw) => s.failWith flaw
    | .broken flaws | .brokenText flaws => s.failWith flaws.read
    | _ => s.fail .expectedValue t.ahead

end Site

abbrev Decoder (α : Type) := Site → (ts : List Token) → Except Error (α × ProperRest ts)

namespace Decoder

def string : Decoder String
  | _, ⟨.text (.ok value), _, _⟩ :: rest => .ok (value, ⟨rest, by simp⟩)
  | s, ts => s.failType "a string" ts

def boolean : Decoder Bool
  | _, ⟨.boolean b, _, _⟩ :: rest => .ok (b, ⟨rest, by simp⟩)
  | s, ts => s.failType "a boolean" ts

def optional {α : Type} (d : Decoder α) : Decoder (Option α)
  | _, ⟨.null, _, _⟩ :: rest => .ok (none, ⟨rest, by simp⟩)
  | s, ts => do
    let (a, r) ← d s ts
    pure (some a, r)

def map {α β : Type} (f : α → β) (d : Decoder α) : Decoder β := fun s ts => do
  let (a, r) ← d s ts
  pure (f a, r)

/-- A key in the place where one must stand. -/
def key (s : Site) : (ts : List Token) → Except Error (String × ProperRest ts)
  | ⟨.text (.ok name), _, _⟩ :: rest => .ok (name, ⟨rest, by simp⟩)
  | ⟨.text (.error flaw), _, _⟩ :: _ => s.failWith flaw
  | ⟨.brokenText flaws, _, _⟩ :: _ => s.failWith flaws.read
  | [] => s.fail .endInValue s.last
  | ⟨.closeObject, start, stop⟩ :: rest =>
    s.failAhead .trailingComma (⟨.closeObject, start, stop⟩ :: rest)
  | ts => s.failAhead .keyNotText ts

/-- The next key of the object at `s`, or nothing if it closes here; `first` if no member
stands before. -/
def nextKey (s : Site) (first : Bool) (ts : List Token) :
    Except Error (Option String × ProperRest ts) :=
  let s := s.inside .unknown
  match ts with
  | [] => s.fail .endInObject s.last
  | t :: rest =>
    match t.lexeme with
    | .closeObject => .ok (none, ⟨rest, by simp⟩)
    | .comma => do
      if first then s.fail .keyNotText t.ahead
      else
        let (name, ⟨r, h⟩) ← key s rest
        pure (some name, ⟨r, by simp; omega⟩)
    | _ => do
      if first then
        let (name, r) ← key s (t :: rest)
        pure (some name, r)
      else s.fail .expectedObjectCommaOrEnd t.ahead

def colon (s : Site) (ts : List Token) : Except Error (ProperRest ts) :=
  match ts with
  | [] => s.fail .endInObject s.last
  | t :: rest =>
    match t.lexeme with
    | .colon => .ok ⟨rest, by simp⟩
    | _ => s.fail .expectedColon t.ahead

/-- Whether the list at `s` closes here or has another item. -/
def nextItem (s : Site) (first : Bool) (ts : List Token) :
    Except Error (ProperRest ts ⊕ Rest ts) :=
  match ts with
  | [] => s.fail .endInList s.last
  | t :: rest =>
    match t.lexeme with
    | .closeList => .ok (.inl ⟨rest, by simp⟩)
    | .comma =>
      if first then .ok (.inr (Rest.all (t :: rest)))
      else
        match rest with
        | [] => s.fail .endInValue s.last
        | u :: more =>
          match u.lexeme with
          | .closeList => s.fail .trailingComma u.ahead
          | _ => .ok (.inr ⟨u :: more, by simp⟩)
    | _ =>
      if first then .ok (.inr (Rest.all (t :: rest)))
      else s.fail .expectedListCommaOrEnd t.ahead

/-- The end of a list that may have no more items. -/
def endOfList (s : Site) (ts : List Token) : Except Error (ProperRest ts) :=
  match ts with
  | [] => s.fail .endInList s.last
  | t :: rest =>
    match t.lexeme, rest with
    | .closeList, rest => .ok ⟨rest, by simp⟩
    | .comma, ⟨.closeList, start, stop⟩ :: more =>
      s.failAhead .trailingComma (⟨.closeList, start, stop⟩ :: more)
    | .comma, rest => s.failAhead .trailingCharacters rest
    | _, _ => s.fail .trailingCharacters t.ahead

mutual

/-- Skips a value whatever it is. -/
def ignored (s : Site) (ts : List Token) : Except Error (ProperRest ts) :=
  match ts with
  | [] => s.fail .endInValue s.last
  | t :: rest =>
    match t.lexeme with
    | .null | .boolean _ | .number _ | .text _ => .ok ⟨rest, by simp⟩
    | .openList =>
      match rest with
      | [] => s.fail .endInList s.last
      | u :: more =>
        match u.lexeme with
        | .closeList => .ok ⟨more, by simp only [List.length_cons]; omega⟩
        | _ => do
          let ⟨r, h⟩ ← ignoredItems s (u :: more)
          pure ⟨r, by simp at h ⊢; omega⟩
    | .openObject =>
      match rest with
      | [] => s.fail .endInObject s.last
      | u :: more =>
        match u.lexeme with
        | .closeObject => .ok ⟨more, by simp only [List.length_cons]; omega⟩
        | _ => do
          let ⟨r, h⟩ ← ignoredMembers s (u :: more)
          pure ⟨r, by simp at h ⊢; omega⟩
    | .broken flaws | .brokenText flaws => s.failWith flaws.skipped
    | _ => s.fail .expectedValue t.ahead
termination_by 2 * ts.length

/-- The items of a list that has at least one more, and its end. -/
def ignoredItems (s : Site) (ts : List Token) : Except Error (ProperRest ts) := do
  let r ← ignored s ts
  match r with
  | ⟨[], _⟩ => s.fail .endInList s.last
  | ⟨t :: rest, h₁⟩ =>
    have h₁ : rest.length + 1 < ts.length := h₁
    match t.lexeme with
    | .comma => do
      let ⟨r₂, h₂⟩ ← ignoredItems s rest
      pure ⟨r₂, by omega⟩
    | .closeList => pure ⟨rest, by omega⟩
    | _ => s.fail .expectedListCommaOrEnd t.ahead
termination_by 2 * ts.length + 1

/-- The members of an object that has at least one more, and its end. -/
def ignoredMembers (s : Site) (ts : List Token) : Except Error (ProperRest ts) :=
  match ts with
  | [] => s.fail .endInObject s.last
  | t :: rest =>
    match t.lexeme with
    | .brokenText flaws => s.failWith flaws.skipped
    | .text _ => do
      let ⟨r₁, h₁⟩ ← colon s rest
      let r₂ ← ignored s r₁
      match r₂ with
      | ⟨[], _⟩ => s.fail .endInObject s.last
      | ⟨u :: more, h₂⟩ =>
        match u.lexeme with
        | .comma => do
          have h₂ : more.length + 1 < r₁.length := h₂
          let ⟨r₃, h₃⟩ ← ignoredMembers s more
          pure ⟨r₃, by simp; omega⟩
        | .closeObject => pure ⟨more, by simp at h₂ ⊢; omega⟩
        | _ => s.fail .expectedObjectCommaOrEnd u.ahead
    | _ => s.fail .keyNotText t.ahead
termination_by 2 * ts.length + 1

end

mutual

/-- Reads a value of any type and says whether it is null; `levels` lists and objects may be
nested. -/
def isNull (levels : Nat) (s : Site) (ts : List Token) : Except Error (Bool × ProperRest ts) :=
  match ts with
  | [] => s.fail .endInValue s.last
  | t :: rest =>
    match t.lexeme with
    | .null => .ok (true, ⟨rest, by simp⟩)
    | .boolean _ | .number (.ok _) | .text (.ok _) => .ok (false, ⟨rest, by simp⟩)
    | .openList => do
      if levels = 0 then s.fail .nestedTooDeep t.ahead
      else
        let ⟨r, h⟩ ← items (levels - 1) s 0 rest
        pure (false, ⟨r, by simp; omega⟩)
    | .openObject => do
      if levels = 0 then s.fail .nestedTooDeep t.ahead
      else
        let ⟨r, h⟩ ← members (levels - 1) s true rest
        pure (false, ⟨r, by simp; omega⟩)
    | .number (.error flaw) | .text (.error flaw) => s.failWith flaw
    | .broken flaws | .brokenText flaws => s.failWith flaws.read
    | _ => s.fail .expectedValue t.ahead
termination_by 2 * ts.length

/-- The items from number `n` on of a list, and its end. -/
def items (levels : Nat) (s : Site) (n : Nat) (ts : List Token) : Except Error (ProperRest ts) := do
  match ← nextItem s (n = 0) ts with
  | .inl r => pure r
  | .inr ⟨r₁, h₁⟩ =>
    let (_, ⟨r₂, h₂⟩) ← isNull levels (s.inside (.index n)) r₁
    let ⟨r₃, h₃⟩ ← items levels s (n + 1) r₂
    pure ⟨r₃, by omega⟩
termination_by 2 * ts.length + 1

/-- The members of an object, and its end; `first` if none stands before. -/
def members (levels : Nat) (s : Site) (first : Bool) (ts : List Token) :
    Except Error (ProperRest ts) := do
  match ← nextKey s first ts with
  | (none, r) => pure r
  | (some name, ⟨r₁, h₁⟩) =>
    let ⟨r₂, h₂⟩ ← colon s r₁
    let (_, ⟨r₃, h₃⟩) ← isNull levels (s.inside (.key name)) r₂
    let ⟨r₄, h₄⟩ ← members levels s false r₃
    pure ⟨r₄, by omega⟩
termination_by 2 * ts.length + 1

end

/-- A map as the list of its members. A repeated key keeps its place and takes the later
value. -/
def mapRest {α : Type} (d : Decoder α) (s : Site) (first : Bool) (done : List (String × α))
    (ts : List Token) : Except Error (List (String × α) × ProperRest ts) := do
  match ← nextKey s first ts with
  | (none, r) => pure (done, r)
  | (some name, ⟨r₁, h₁⟩) =>
    let ⟨r₂, h₂⟩ ← colon s r₁
    let (a, ⟨r₃, h₃⟩) ← d (s.inside (.key name)) r₂
    let (all, ⟨r₄, h₄⟩) ← mapRest d s false (put name a done) r₃
    pure (all, ⟨r₄, by omega⟩)
termination_by ts.length
where
  put (name : String) (a : α) : List (String × α) → List (String × α)
    | [] => [(name, a)]
    | (n, b) :: rest => if n = name then (n, a) :: rest else (n, b) :: put name a rest

def mapOf {α : Type} (d : Decoder α) : Decoder (List (String × α))
  | s, ⟨.openObject, _, _⟩ :: rest => do
    let (all, ⟨r, h⟩) ← mapRest d s true [] rest
    pure (all, ⟨r, by simp; omega⟩)
  | s, ts => s.failType "a map" ts

/-- A field of a structure, decoded into a change of the structure. -/
structure Field (σ : Type) where
  name : String
  decode : Decoder (σ → σ)

/-- The place where a repeated field shows: after the closing brace if that comes next, else
before the next token. -/
def repeatMark (s : Site) : List Token → Mark
  | [] => s.last
  | t :: _ =>
    match t.lexeme with
    | .closeObject => t.stop
    | _ => t.start

/-- The members of an object that has the fields of a structure, each at most once, and others
that are ignored; `seen` are the fields that stand before. -/
def structMembers {σ : Type} (fields : List (Field σ)) (s : Site) (first : Bool)
    (seen : List String) (state : σ) (ts : List Token) : Except Error (σ × ProperRest ts) := do
  match ← nextKey s first ts with
  | (none, r) => pure (state, r)
  | (some name, ⟨r₁, h₁⟩) =>
    match fields.find? (·.name = name) with
    | none => do
      let ⟨r₂, h₂⟩ ← colon s r₁
      let ⟨r₃, h₃⟩ ← ignored (s.inside (.key name)) r₂
      let (all, ⟨r₄, h₄⟩) ← structMembers fields s false seen state r₃
      pure (all, ⟨r₄, by omega⟩)
    | some f => do
      if seen.contains name then s.fail (.duplicateField name) (repeatMark s r₁)
      else
        let ⟨r₂, h₂⟩ ← colon s r₁
        let (change, ⟨r₃, h₃⟩) ← f.decode (s.inside (.key name)) r₂
        let (all, ⟨r₄, h₄⟩) ← structMembers fields s false (name :: seen) (change state) r₃
        pure (all, ⟨r₄, by omega⟩)
termination_by ts.length

/-- The items of a list that has some of the fields of a structure in their order. -/
def structItems {σ : Type} (s : Site) (n : Nat) (state : σ) (ts : List Token) :
    List (Field σ) → Except Error (σ × ProperRest ts)
  | [] => do
    let r ← endOfList s ts
    pure (state, r)
  | f :: fields => do
    match ← nextItem s (n = 0) ts with
    | .inl r => pure (state, r)
    | .inr ⟨r₁, h₁⟩ =>
      let (change, ⟨r₂, h₂⟩) ← f.decode (s.inside (.index n)) r₁
      let (all, ⟨r₃, h₃⟩) ← structItems s (n + 1) (change state) r₂ fields
      pure (all, ⟨r₃, by omega⟩)

/-- A structure, written as an object or as a list. Fields that are not written stay as they
are in `initial`. -/
def structOf {σ : Type} (expected : String) (fields : List (Field σ)) (initial : σ) : Decoder σ
  | s, ⟨.openObject, _, _⟩ :: rest => do
    let (all, ⟨r, h⟩) ← structMembers fields s true [] initial rest
    pure (all, ⟨r, by simp; omega⟩)
  | s, ⟨.openList, _, _⟩ :: rest => do
    let (all, ⟨r, h⟩) ← structItems s 0 initial rest fields
    pure (all, ⟨r, by simp; omega⟩)
  | s, ts => s.failType expected ts

/-- Decodes the value at the beginning of a text. -/
def run {α : Type} (d : Decoder α) (text : String) : Except Error α :=
  let (ts, last) := tokenize Mark.start text.toList
  match d ⟨last, []⟩ ts with
  | .ok (a, _) => .ok a
  | .error e => .error e

end Decoder

end ModuleBindings.Json

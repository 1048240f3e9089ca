import ModuleBindings.Hcl.Expression
import ModuleBindings.Text.Slice

/-!
# Bodies of a configuration

A body is a sequence of attributes and blocks, each of which ends its line. The braces of a block
hold a body that begins on a line of its own, or at most one attribute on the same line. No two
attributes of a body have the same name.

The value of an attribute comes with its range in the text, which is found from what is left of it
behind each end; `size` is how many bytes the text has.
-/

namespace ModuleBindings.Hcl

/-- The value of an attribute, which is not evaluated. -/
structure Value where
  /-- Where it stands, if that is known. -/
  range : Option Text.ByteRange
  /-- As it is written out again. -/
  encoded : String
  /-- What it says if it is a quoted text without templates. -/
  plain : Option String
  deriving Repr

inductive Structure where
  | attribute (name : String) (value : Value)
  | block (name : String) (labels : List String) (body : List Structure)
  deriving Repr

abbrev Body := List Structure

/-- What reads the body that a text writes, if it is one. -/
abbrev Parser := String → Option Body

/-- The value at the front of what is left of a text; it is written out as it was read. -/
def value? (size : Nat) (cs : List Char) : Option (Value × ProperRest cs) := do
  let b := spaces cs
  let (plain, r) ← expr false b.val
  let range := ⟨size - Text.byteLength b.val, size - Text.byteLength r.val⟩
  let read := b.val.take (b.val.length - r.val.length)
  pure (⟨some range, String.ofList read, plain⟩, .after b r)

/-- A label is a name or a quoted text without templates. -/
def label? (cs : List Char) : Option (String × ProperRest cs) :=
  match cs with
  | '"' :: rest => (plainText? rest).map fun (text, r) => (text, .cons '"' (.ofProper r))
  | cs => identifier? cs

/-- The labels of a block and its opening brace. -/
def labels? (cs : List Char) : Option (List String × ProperRest cs) :=
  let ⟨b, hb⟩ := spaces cs
  match symbol? '\x7b' b with
  | some r => some ([], .after ⟨b, hb⟩ r)
  | none => do
    let (label, ⟨l, hl⟩) ← label? b
    let (more, r) ← labels? l
    pure (label :: more, .after ⟨b, hb⟩ (.after (.ofProper ⟨l, hl⟩) r))
termination_by cs.length
decreasing_by omega

/-- Whether a body ends here. -/
def endsBody (cs : List Char) : Bool :=
  cs.isEmpty || cs.head? = some '\x7d'

/-- An attribute on one line with the closing brace of its block. -/
def inlineAttribute? (size : Nat) (cs : List Char) : Option (Structure × ProperRest cs) := do
  let (name, i) ← identifier? cs
  let e := spaces i.val
  let q ← symbol? '=' e.val
  let (value, v) ← value? size q.val
  let l := spaces v.val
  let c ← symbol? '\x7d' l.val
  pure (.attribute name value,
    .after (.ofProper i) (.after e (.after (.ofProper q) (.after (.ofProper v) (.after l c)))))

mutual

/-- The structures up to a closing brace or the end of the text; `names` are the attributes that
stand before. -/
def structures (size : Nat) (names : List String) (cs : List Char) : Option (Body × Rest cs) := do
  let ⟨b, hb⟩ := blanks cs
  if endsBody b then pure ([], ⟨b, hb⟩)
  else
    let (name, ⟨i, hi⟩) ← identifier? b
    let ⟨s, hs⟩ := spaces i
    match symbol? '=' s with
    | some ⟨q, hq⟩ =>
      if names.contains name then none
      else do
        let (value, ⟨v, hv⟩) ← value? size q
        let ⟨l, hl⟩ ← endOfLine? v
        let (more, ⟨r, h⟩) ← structures size (name :: names) l
        pure (.attribute name value :: more, ⟨r, by omega⟩)
    | none => do
      let (labels, ⟨o, ho⟩) ← labels? s
      let (body, ⟨c, hc⟩) ← blockBody size o
      let ⟨l, hl⟩ ← endOfLine? c
      let (more, ⟨r, h⟩) ← structures size names l
      pure (.block name labels body :: more, ⟨r, by omega⟩)
termination_by 2 * cs.length
decreasing_by all_goals omega

/-- The body of a block after its opening brace, and its closing brace. -/
def blockBody (size : Nat) (cs : List Char) : Option (Body × ProperRest cs) :=
  match endOfLine? cs with
  | some ⟨l, hl⟩ => do
    let (body, ⟨r, h⟩) ← structures size [] l
    let c ← symbol? '\x7d' r
    pure (body, .after ⟨l, hl⟩ (.after ⟨r, h⟩ c))
  | none => do
    let ⟨s, hs⟩ := spaces cs
    match symbol? '\x7d' s with
    | some r => pure ([], .after ⟨s, hs⟩ r)
    | none => do
      let (only, r) ← inlineAttribute? size s
      pure ([only], .after ⟨s, hs⟩ r)
termination_by 2 * cs.length + 1
decreasing_by all_goals omega

end

/-- The body that a text writes, if it is one. -/
def parse? : Parser := fun text => do
  let (body, ⟨r, _⟩) ← structures text.utf8ByteSize [] text.toList
  if r.isEmpty then some body else none

end ModuleBindings.Hcl

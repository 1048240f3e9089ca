import ModuleBindings.Hcl.Literal

/-!
# Expressions of a configuration

Expressions are not evaluated: reading one tells how far it goes and, if it is a quoted text
without templates, what the text says. Line breaks end an expression except inside brackets.

```text
expr      := operand (operator expr | ? expr : expr)?
operand   := (- | !) operand | term traversal*
term      := number | text | heredoc | name | name ( args ) | ( expr ) | [ … ] | { … }
traversal := . name | . digits | . * | [ expr ] | [ * ]
```
-/

namespace ModuleBindings.Hcl

/-- An operator between two operands. Two slashes begin a comment. -/
def operator? : (cs : List Char) → Option (ProperRest cs)
  | '=' :: '=' :: cs => some (.second '=' '=' cs)
  | '!' :: '=' :: cs => some (.second '!' '=' cs)
  | '<' :: '=' :: cs => some (.second '<' '=' cs)
  | '>' :: '=' :: cs => some (.second '>' '=' cs)
  | '&' :: '&' :: cs => some (.second '&' '&' cs)
  | '|' :: '|' :: cs => some (.second '|' '|' cs)
  | '/' :: '/' :: _ => none
  | c :: cs => if ['<', '>', '+', '-', '*', '/', '%'].contains c then some (.tail c cs) else none
  | [] => none

/-- Further parts of a qualified name, and whether there are any. -/
def qualifiers (cs : List Char) : Option (Bool × Rest cs) :=
  match exactly? [':', ':'] cs with
  | some ⟨q, hq⟩ => do
    let (_, ⟨r, h⟩) ← identifier? q
    let (_, s) ← qualifiers r
    pure (true, .trans ⟨q, hq⟩ (.trans (.ofProper ⟨r, h⟩) s))
  | none => some (false, Rest.all cs)
termination_by cs.length
decreasing_by omega

/-- The word `for` before a blank, which is left. -/
def forKeyword? (cs : List Char) : Option (Rest cs) := do
  let ⟨f, hf⟩ ← exactly? ['f', 'o', 'r'] cs
  let c ← f.head?
  if [' ', '\t', '\n', '\r', '/', '#'].contains c then some ⟨f, hf⟩ else none

/-- The marker at the end of a heredoc, with the blanks before it. -/
def marker? (marker cs : List Char) : Option (Rest cs) :=
  let r := Rest.dropWhile (fun c => c = ' ' || c = '\t') cs
  (keyword? marker r.val).map r.trans

/-- The end of a heredoc: a line break and the marker. -/
def heredocEnd? (marker cs : List Char) : Option (ProperRest cs) :=
  match lineBreak? cs with
  | some r => (marker? marker r.val).map (Rest.proper r)
  | none => none

/-- The characters of a heredoc up to its end or a template sequence. -/
def heredocText (marker cs : List Char) : Rest cs :=
  match cs with
  | [] => Rest.all []
  | '$' :: '\x7b' :: rest => Rest.all ('$' :: '\x7b' :: rest)
  | '%' :: '\x7b' :: rest => Rest.all ('%' :: '\x7b' :: rest)
  | '$' :: '$' :: '\x7b' :: rest =>
    have := (heredocText marker rest).property
    ⟨(heredocText marker rest).val, by simp only [List.length_cons]; omega⟩
  | '%' :: '%' :: '\x7b' :: rest =>
    have := (heredocText marker rest).property
    ⟨(heredocText marker rest).val, by simp only [List.length_cons]; omega⟩
  | c :: rest =>
    if (heredocEnd? marker (c :: rest)).isSome then Rest.all (c :: rest)
    else (Rest.tail c rest).trans (heredocText marker rest)

/-- Where a template stands. -/
inductive Setting where
  | quoted
  | heredoc (marker : List Char)

/-- The literal part in front of a template, if there is one. -/
def Setting.chunk? (s : Setting) (cs : List Char) : Option (ProperRest cs) :=
  match s with
  | quoted => quotedChunk? cs
  | heredoc marker =>
    let r := (heredocText marker cs).val
    if h : r.length < cs.length then some ⟨r, h⟩ else none

/-- The mark that lets the end of a heredoc be indented. -/
def indentMark (cs : List Char) : Rest cs :=
  ((symbol? '-' cs).map .ofProper).getD (Rest.all cs)

/-- The beginning of a template sequence after its brace, with the mark that trims the text
before it. -/
def openSequence (cs : List Char) : Rest cs :=
  match cs with
  | '~' :: rest => (Rest.tail '~' rest).trans (blanks rest)
  | cs => blanks cs

/-- The end of a template sequence, with the mark that trims the text after it. -/
def closeSequence? (cs : List Char) : Option (ProperRest cs) :=
  let ⟨b, h⟩ := blanks cs
  match b, h with
  | '~' :: '\x7d' :: rest, h => some ⟨rest, Nat.le_of_succ_le h⟩
  | '\x7d' :: rest, h => some ⟨rest, h⟩
  | _, _ => none

/-- A directive that is no more than a word. -/
def wordDirective? (word : List Char) : (cs : List Char) → Option (ProperRest cs)
  | '%' :: '\x7b' :: rest => do
    let ⟨r, h⟩ ← keyword? word (openSequence rest).val
    let ⟨s, h'⟩ ← closeSequence? r
    pure ⟨s, by have := (openSequence rest).property; simp; omega⟩
  | _ => none

/-- The names that a `for` binds and the word `in`. -/
def forNames? (cs : List Char) : Option (ProperRest cs) := do
  let ⟨b, hb⟩ := blanks cs
  let (_, ⟨r, h⟩) ← identifier? b
  let ⟨c, hc⟩ := blanks r
  let ⟨d, hd⟩ ← (match c with
    | ',' :: rest => do
      let ⟨e, he⟩ := blanks rest
      let (_, ⟨s, hs⟩) ← identifier? e
      let ⟨t, ht⟩ := blanks s
      some ⟨t, by simp only [List.length_cons]; omega⟩
    | c => some (Rest.all c) : Option (Rest c))
  let ⟨e, he⟩ ← exactly? ['i', 'n'] d
  pure ⟨e, by omega⟩

mutual

/-- An expression, and what it says if it is a plain text; `m` if it may span lines. -/
def expr (m : Bool) (cs : List Char) : Option (Option String × ProperRest cs) := do
  let (text, ⟨r, h⟩) ← operand m cs
  let ⟨g, hg⟩ := gap m r
  match operator? g, symbol? '?' g with
  | some ⟨o, ho⟩, _ => do
    let ⟨b, hb⟩ := gap m o
    let (_, ⟨e, he⟩) ← expr m b
    pure (none, ⟨e, by omega⟩)
  | none, some ⟨c, hc⟩ => do
    let ⟨b, hb⟩ := gap m c
    let (_, ⟨e, he⟩) ← expr m b
    let ⟨k, hk⟩ := gap m e
    let ⟨d, hd⟩ ← symbol? ':' k
    let ⟨b', hb'⟩ := gap m d
    let (_, ⟨e', he'⟩) ← expr m b'
    pure (none, ⟨e', by omega⟩)
  | none, none => some (text, ⟨r, h⟩)
termination_by 8 * cs.length + 3
decreasing_by all_goals omega

def operand (m : Bool) (cs : List Char) : Option (Option String × ProperRest cs) :=
  match cs with
  | [] => none
  | c :: rest =>
    if c = '-' || c = '!' then do
      let ⟨g, hg⟩ := gap m rest
      let (_, ⟨r, h⟩) ← operand m g
      pure (none, .cons c (.ofProper (.after ⟨g, hg⟩ ⟨r, h⟩)))
    else do
      let (text, ⟨r, h⟩) ← term (c :: rest)
      let ⟨s, hs⟩ ← traversals m r
      pure (if s.length = r.length then text else none, Rest.proper ⟨r, h⟩ ⟨s, hs⟩)
termination_by 8 * cs.length + 2
decreasing_by all_goals (simp only [List.length_cons] at *; omega)

/-- The steps from a value to a value inside it. An ellipsis is none. -/
def traversals (m : Bool) (cs : List Char) : Option (Rest cs) :=
  let ⟨g, hg⟩ := gap m cs
  match symbol? '.' g, symbol? '[' g with
  | some ⟨d, hd⟩, _ =>
    match symbol? '.' d, symbol? '*' d with
    | some _, _ => some (Rest.all cs)
    | none, some ⟨a, ha⟩ => do
      let ⟨r, h⟩ ← traversals m a
      pure ⟨r, by omega⟩
    | none, none => do
      let ⟨n, _⟩ := Rest.dropWhile Char.isDigit d
      if hn : n.length < d.length then do
        let ⟨r, h⟩ ← traversals m n
        pure ⟨r, by omega⟩
      else do
        let (_, ⟨i, hi⟩) ← identifier? d
        let ⟨r, h⟩ ← traversals m i
        pure ⟨r, by omega⟩
  | none, some ⟨o, ho⟩ => do
    let ⟨b, hb⟩ := blanks o
    let ⟨e, he⟩ ← (match symbol? '*' b with
      | some e => some e
      | none => do
        let (_, ⟨e, he⟩) ← expr true b
        pure ⟨e, he⟩ : Option (ProperRest b))
    let ⟨k, hk⟩ := blanks e
    let ⟨a, ha⟩ ← symbol? ']' k
    let ⟨r, h⟩ ← traversals m a
    pure ⟨r, by omega⟩
  | none, none => some (Rest.all cs)
termination_by 8 * cs.length + 4
decreasing_by all_goals omega

def term (cs : List Char) : Option (Option String × ProperRest cs) :=
  match cs with
  | '"' :: rest =>
    match plainText? rest with
    | some (text, r) => some (some text, .cons '"' (.ofProper r))
    | none => do
      let ⟨t, ht⟩ ← template .quoted rest
      let r ← symbol? '"' t
      pure (none, .cons '"' (.ofProper (.after ⟨t, ht⟩ r)))
  | '(' :: rest => do
    let ⟨b, hb⟩ := blanks rest
    let (_, ⟨e, he⟩) ← expr true b
    let ⟨k, hk⟩ := blanks e
    let ⟨r, h⟩ ← symbol? ')' k
    pure (none, .cons '(' ⟨r, by omega⟩)
  | '[' :: rest => do
    let ⟨b, hb⟩ := blanks rest
    let r ← (match forKeyword? b with
      | some ⟨f, hf⟩ => do
        let r ← forList f
        pure (.after ⟨f, hf⟩ r)
      | none => items b : Option (ProperRest b))
    pure (none, .cons '[' (.ofProper (.after ⟨b, hb⟩ r)))
  | '\x7b' :: rest => do
    let ⟨b, hb⟩ := blanks rest
    let r ← (match forKeyword? b with
      | some ⟨f, hf⟩ => do
        let r ← forObject f
        pure (.after ⟨f, hf⟩ r)
      | none => objectItems b : Option (ProperRest b))
    pure (none, .cons '\x7b' (.ofProper (.after ⟨b, hb⟩ r)))
  | '<' :: '<' :: rest => do
    let ⟨d, hd⟩ := indentMark rest
    let (name, ⟨i, hi⟩) ← identifier? d
    let ⟨l, hl⟩ ← lineBreak? i
    let marker := name.toList
    match marker? marker l with
    | some ⟨r, h⟩ => pure (none, .cons '<' (.ofProper (.cons '<' ⟨r, by omega⟩)))
    | none => do
      let ⟨t, ht⟩ ← template (.heredoc marker) l
      let ⟨r, h⟩ ← heredocEnd? marker t
      pure (none, .cons '<' (.ofProper (.cons '<' ⟨r, by omega⟩)))
  | cs =>
    match number? cs with
    | some r => some (none, r)
    | none => do
      let (_, ⟨i, hi⟩) ← identifier? cs
      let (qualified, ⟨q, hq⟩) ← qualifiers i
      let ⟨g, hg⟩ := spaces q
      match symbol? '(' g with
      | some ⟨o, ho⟩ => do
        let ⟨r, h⟩ ← args o
        pure (none, ⟨r, by omega⟩)
      | none => if qualified then none else some (none, ⟨i, hi⟩)
termination_by 8 * cs.length + 1
decreasing_by all_goals (try simp only [List.length_cons]); omega

/-- The arguments of a call and the closing parenthesis. The last may be spread over the
parameters by an ellipsis. -/
def args (cs : List Char) : Option (ProperRest cs) :=
  let ⟨b, hb⟩ := blanks cs
  match symbol? ')' b with
  | some r => some (.after ⟨b, hb⟩ r)
  | none => do
    let (_, ⟨e, he⟩) ← expr true b
    let ⟨k, hk⟩ := blanks e
    match symbol? ')' k, symbol? ',' k with
    | some ⟨r, h⟩, _ => pure ⟨r, by omega⟩
    | none, some ⟨more, hm⟩ => do
      let ⟨r, h⟩ ← args more
      pure ⟨r, by omega⟩
    | none, none => do
      let ⟨s, hs⟩ ← exactly? ['.', '.', '.'] k
      let ⟨c, hc⟩ := blanks s
      let ⟨r, h⟩ ← symbol? ')' c
      pure ⟨r, by omega⟩
termination_by 8 * cs.length + 4
decreasing_by all_goals omega

/-- The items of a list and the closing bracket. -/
def items (cs : List Char) : Option (ProperRest cs) :=
  let ⟨b, hb⟩ := blanks cs
  match symbol? ']' b with
  | some r => some (.after ⟨b, hb⟩ r)
  | none => do
    let (_, ⟨e, he⟩) ← expr true b
    let ⟨k, hk⟩ := blanks e
    match symbol? ']' k with
    | some ⟨r, h⟩ => pure ⟨r, by omega⟩
    | none => do
      let ⟨more, hm⟩ ← symbol? ',' k
      let ⟨r, h⟩ ← items more
      pure ⟨r, by omega⟩
termination_by 8 * cs.length + 4
decreasing_by all_goals omega

/-- The members of an object and the closing brace. A comma or a line break ends a member. -/
def objectItems (cs : List Char) : Option (ProperRest cs) :=
  let ⟨b, hb⟩ := blanks cs
  match symbol? '\x7d' b with
  | some r => some (.after ⟨b, hb⟩ r)
  | none => do
    let (_, ⟨key, hkey⟩) ← expr false b
    let ⟨k, hk⟩ := blanks key
    let ⟨v, hv⟩ ← (symbol? '=' k).or (symbol? ':' k)
    let ⟨w, hw⟩ := blanks v
    let (_, ⟨e, he⟩) ← expr false w
    let ⟨l, hl⟩ := spaces e
    match symbol? '\x7d' l with
    | some ⟨r, h⟩ => pure ⟨r, by omega⟩
    | none => do
      let ⟨more, hm⟩ ← ((symbol? ',' l).map .ofProper).or (endOfLine? l)
      let ⟨r, h⟩ ← objectItems more
      pure ⟨r, by omega⟩
termination_by 8 * cs.length + 4
decreasing_by all_goals omega

/-- What follows the names of a `for`: the collection and a colon. -/
def forIntro (cs : List Char) : Option (ProperRest cs) := do
  let ⟨n, hn⟩ ← forNames? cs
  let ⟨b, hb⟩ := blanks n
  let (_, ⟨e, he⟩) ← expr true b
  let ⟨k, hk⟩ := blanks e
  let ⟨r, h⟩ ← symbol? ':' k
  pure ⟨r, by omega⟩
termination_by 8 * cs.length + 4
decreasing_by all_goals omega

/-- The condition of a `for`, if there is one. -/
def forCondition (cs : List Char) : Option (Rest cs) :=
  match exactly? ['i', 'f'] cs with
  | some ⟨i, hi⟩ => do
    let ⟨b, hb⟩ := blanks i
    let (_, ⟨e, he⟩) ← expr true b
    let ⟨k, hk⟩ := blanks e
    pure ⟨k, by omega⟩
  | none => some (Rest.all cs)
termination_by 8 * cs.length + 4
decreasing_by all_goals omega

/-- A list made by a `for`, after that word. -/
def forList (cs : List Char) : Option (ProperRest cs) := do
  let ⟨i, hi⟩ ← forIntro cs
  let ⟨b, hb⟩ := blanks i
  let (_, ⟨e, he⟩) ← expr true b
  let ⟨k, hk⟩ := blanks e
  let ⟨c, hc⟩ ← forCondition k
  let ⟨r, h⟩ ← symbol? ']' c
  pure ⟨r, by omega⟩
termination_by 8 * cs.length + 5
decreasing_by all_goals omega

/-- An object made by a `for`, after that word. -/
def forObject (cs : List Char) : Option (ProperRest cs) := do
  let ⟨i, hi⟩ ← forIntro cs
  let ⟨b, hb⟩ := blanks i
  let (_, ⟨key, hkey⟩) ← expr true b
  let ⟨k, hk⟩ := blanks key
  let ⟨a, ha⟩ ← exactly? ['=', '>'] k
  let ⟨w, hw⟩ := blanks a
  let (_, ⟨e, he⟩) ← expr true w
  let ⟨l, hl⟩ := blanks e
  let ⟨g, hg⟩ := (exactly? ['.', '.', '.'] l).getD (Rest.all l)
  let ⟨d, hd⟩ := blanks g
  let ⟨c, hc⟩ ← forCondition d
  let ⟨r, h⟩ ← symbol? '\x7d' c
  pure ⟨r, by omega⟩
termination_by 8 * cs.length + 5
decreasing_by all_goals omega

/-- The parts of a template up to what is none. -/
def template (s : Setting) (cs : List Char) : Option (Rest cs) :=
  match s.chunk? cs with
  | some ⟨c, hc⟩ => do
    let r ← template s c
    pure (.trans (.ofProper ⟨c, hc⟩) r)
  | none =>
    match exactly? ['$', '\x7b'] cs, exactly? ['%', '\x7b'] cs with
    | some ⟨i, hi⟩, _ => do
      let ⟨o, ho⟩ := openSequence i
      let (_, ⟨e, he⟩) ← expr true o
      let ⟨k, hk⟩ ← closeSequence? e
      let ⟨r, h⟩ ← template s k
      pure ⟨r, by omega⟩
    | none, some ⟨i, hi⟩ => do
      let ⟨o, ho⟩ := openSequence i
      match keyword? ['i', 'f'] o, keyword? ['f', 'o', 'r'] o with
      | some ⟨k, hk⟩, _ => do
        let ⟨d, hd⟩ ← ifDirective s k
        let ⟨r, h⟩ ← template s d
        pure ⟨r, by omega⟩
      | none, some ⟨k, hk⟩ => do
        let ⟨d, hd⟩ ← forDirective s k
        let ⟨r, h⟩ ← template s d
        pure ⟨r, by omega⟩
      | none, none => pure (Rest.all cs)
    | none, none => some (Rest.all cs)
termination_by 8 * cs.length + 5
decreasing_by all_goals omega

/-- A conditional part of a template, after the word `if`. -/
def ifDirective (s : Setting) (cs : List Char) : Option (ProperRest cs) := do
  let ⟨b, hb⟩ := blanks cs
  let (_, ⟨e, he⟩) ← expr true b
  let ⟨k, hk⟩ ← closeSequence? e
  let ⟨t, ht⟩ ← template s k
  let ⟨u, hu⟩ ← (match wordDirective? ['e', 'l', 's', 'e'] t with
    | some ⟨w, hw⟩ => do
      let r ← template s w
      pure (.trans (.ofProper ⟨w, hw⟩) r)
    | none => some (Rest.all t) : Option (Rest t))
  let ⟨r, h⟩ ← wordDirective? ['e', 'n', 'd', 'i', 'f'] u
  pure ⟨r, by omega⟩
termination_by 8 * cs.length + 4
decreasing_by all_goals omega

/-- A repeated part of a template, after the word `for`. -/
def forDirective (s : Setting) (cs : List Char) : Option (ProperRest cs) := do
  let ⟨n, hn⟩ ← forNames? cs
  let ⟨b, hb⟩ := blanks n
  let (_, ⟨e, he⟩) ← expr true b
  let ⟨k, hk⟩ ← closeSequence? e
  let ⟨t, ht⟩ ← template s k
  let ⟨r, h⟩ ← wordDirective? ['e', 'n', 'd', 'f', 'o', 'r'] t
  pure ⟨r, by omega⟩
termination_by 8 * cs.length + 4
decreasing_by all_goals omega

end

end ModuleBindings.Hcl

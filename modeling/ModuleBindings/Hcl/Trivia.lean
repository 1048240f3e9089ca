import ModuleBindings.Rest

/-!
# Blanks and comments of a configuration

Blanks within a line are spaces, tabs and comments between `/*` and `*/`. Where lines do not
matter, line breaks and comments to the end of a line are blank too.
-/

namespace ModuleBindings.Hcl

/-- The rest after `*/`, if it comes. -/
def closeComment : (cs : List Char) → Option (ProperRest cs)
  | [] => none
  | '*' :: '/' :: cs => some (.second '*' '/' cs)
  | c :: cs => (closeComment cs).map fun r => .cons c (.ofProper r)

/-- A comment between `/*` and `*/`. -/
def inlineComment? : (cs : List Char) → Option (ProperRest cs)
  | '/' :: '*' :: cs =>
    (closeComment cs).map fun r => .cons '/' (.trans (.tail '*' cs) (.ofProper r))
  | _ => none

/-- A line break, which is a line feed with or without a carriage return before it. -/
def lineBreak? : (cs : List Char) → Option (ProperRest cs)
  | '\n' :: cs => some (.tail '\n' cs)
  | '\r' :: '\n' :: cs => some (.second '\r' '\n' cs)
  | _ => none

def isLineEnd (c : Char) : Bool :=
  c = '\n' || c = '\r'

/-- The rest of the line, which must not have a carriage return that begins no line break. -/
def restOfLine? (cs : List Char) : Option (Rest cs) :=
  let r := Rest.dropWhile (!isLineEnd ·) cs
  match r.val with
  | '\r' :: '\n' :: _ => some r
  | '\r' :: _ => none
  | _ => some r

/-- A comment from `#` or `//` to the end of the line. -/
def lineComment? : (cs : List Char) → Option (ProperRest cs)
  | '#' :: cs => (restOfLine? cs).map (.cons '#')
  | '/' :: '/' :: cs => (restOfLine? cs).map fun r => .cons '/' (.trans (.tail '/' cs) r)
  | _ => none

/-- Skips the blanks of one line. -/
def spaces (cs : List Char) : Rest cs :=
  match cs with
  | [] => Rest.all []
  | c :: rest =>
    if c = ' ' || c = '\t' then (Rest.tail c rest).trans (spaces rest)
    else
      match inlineComment? (c :: rest) with
      | some ⟨r, h⟩ => Rest.trans (Rest.ofProper ⟨r, h⟩) (spaces r)
      | none => Rest.all (c :: rest)
termination_by cs.length
decreasing_by
  · exact Nat.lt_succ_self _
  · exact h

/-- Skips blanks, line breaks and comments of all kinds. -/
def blanks (cs : List Char) : Rest cs :=
  match cs with
  | [] => Rest.all []
  | c :: rest =>
    if c = ' ' || c = '\t' || isLineEnd c then (Rest.tail c rest).trans (blanks rest)
    else
      match (inlineComment? (c :: rest)).or (lineComment? (c :: rest)) with
      | some ⟨r, h⟩ => Rest.trans (Rest.ofProper ⟨r, h⟩) (blanks r)
      | none => Rest.all (c :: rest)
termination_by cs.length
decreasing_by
  · exact Nat.lt_succ_self _
  · exact h

/-- The blanks between the parts of an expression, on several lines or on one. -/
def gap (multiline : Bool) (cs : List Char) : Rest cs :=
  if multiline then blanks cs else spaces cs

/-- What may stand between the end of a structure and the next line: blanks and a comment, then
a line break or the end of the text. -/
def endOfLine? (cs : List Char) : Option (Rest cs) :=
  let r := spaces cs
  let r : Rest cs :=
    match lineComment? r.val with
    | some s => r.trans (Rest.ofProper s)
    | none => r
  match lineBreak? r.val with
  | some s => some (r.trans (Rest.ofProper s))
  | none => if r.val.isEmpty then some r else none

end ModuleBindings.Hcl

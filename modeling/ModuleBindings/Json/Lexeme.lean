import ModuleBindings.Json.Numeral

/-!
# Lexemes of a JSON text

A text is cut into lexemes with the places before and after them. A flaw inside a lexeme is kept
with it, since it counts only if the lexeme is read: what a text says may be skipped under
laxer rules, which neither pair surrogates nor weigh numbers.
-/

namespace ModuleBindings.Json

inductive Lexeme where
  | openList
  | closeList
  | openObject
  | closeObject
  | comma
  | colon
  | null
  | boolean (b : Bool)
  | number (value : Except Flaw Number)
  | text (value : Except Flaw String)
  /-- A text that does not end as it should. -/
  | brokenText (flaws : Flaws)
  /-- A number or word that does not end as it should. -/
  | broken (flaws : Flaws)
  /-- A character that begins no lexeme. -/
  | stray

structure Token where
  lexeme : Lexeme
  start : Mark
  stop : Mark

/-- The place after the first byte of a token. -/
def Token.ahead (t : Token) : Mark :=
  ⟨t.start.line, t.start.column + 1⟩

def isSpace (c : Char) : Bool :=
  c = ' ' || c = '\n' || c = '\t' || c = '\r'

namespace Lexeme

def hexValue? (c : Char) : Option Nat :=
  if c.isDigit then some (c.toNat - '0'.toNat)
  else if 'a' ≤ c && c ≤ 'f' then some (c.toNat - 'a'.toNat + 10)
  else if 'A' ≤ c && c ≤ 'F' then some (c.toNat - 'A'.toNat + 10)
  else none

/-- Four hexadecimal digits. What stands in their place is measured in bytes. -/
def scanHex (m : Mark) (cs : List Char) : Except Flaw (Nat × Mark × Rest cs) :=
  let fault : Flaw :=
    if (cs.foldl (fun n c => n + c.utf8Size) 0) < 4 then ⟨.endInText, m.advanceAll cs⟩
    else ⟨.invalidEscape, m.advanceBytes 4 cs⟩
  match cs with
  | a :: b :: c :: d :: rest =>
    match hexValue? a, hexValue? b, hexValue? c, hexValue? d with
    | some a, some b, some c, some d =>
      .ok (((a * 16 + b) * 16 + c) * 16 + d, ⟨m.line, m.column + 4⟩, ⟨rest, by simp; omega⟩)
    | _, _, _, _ => .error fault
  | _ => .error fault

def isLeadingSurrogate (n : Nat) : Bool := 0xD800 ≤ n && n ≤ 0xDBFF

def isTrailingSurrogate (n : Nat) : Bool := 0xDC00 ≤ n && n ≤ 0xDFFF

/-- The second half of a surrogate pair whose first half is `high`. -/
def scanLowSurrogate (high : Nat) (m : Mark) (cs : List Char) :
    Except Flaw (Char × Mark × Rest cs) :=
  match cs with
  | [] => .error ⟨.endInText, m⟩
  | ['\\'] => .error ⟨.endInText, m.advance '\\'⟩
  | '\\' :: 'u' :: rest => do
    let (low, m', ⟨r, h⟩) ← scanHex ⟨m.line, m.column + 2⟩ rest
    if isTrailingSurrogate low then
      pure (Char.ofNat (0x10000 + (high - 0xD800) * 0x400 + (low - 0xDC00)), m',
        ⟨r, by simp; omega⟩)
    else .error ⟨.loneSurrogate, m'⟩
  | '\\' :: rest => .error ⟨.unfinishedSurrogatePair, (m.advance '\\').ahead rest⟩
  | cs => .error ⟨.unfinishedSurrogatePair, m.ahead cs⟩

/-- The character that a letter stands for after a backslash. -/
def simpleEscape? (c : Char) : Option Char :=
  if c = '"' || c = '\\' || c = '/' then some c
  else if c = 'b' then some '\x08'
  else if c = 'f' then some '\x0c'
  else if c = 'n' then some '\n'
  else if c = 'r' then some '\r'
  else if c = 't' then some '\t'
  else none

/-- What a backslash says, if the text is read. -/
def scanEscape (read : Bool) (m : Mark) (cs : List Char) :
    Except Flaw (Option Char × Mark × Rest cs) :=
  match cs with
  | [] => .error ⟨.endInText, m⟩
  | 'u' :: rest => do
    let (n, m₁, r₁) ← scanHex (m.advance 'u') rest
    if !read then pure (none, m₁, (Rest.tail 'u' rest).trans r₁)
    else if isTrailingSurrogate n then .error ⟨.loneSurrogate, m₁⟩
    else if isLeadingSurrogate n then
      let (c, m₂, r₂) ← scanLowSurrogate n m₁ r₁.val
      pure (some c, m₂, (Rest.tail 'u' rest).trans (r₁.trans r₂))
    else pure (some (Char.ofNat n), m₁, (Rest.tail 'u' rest).trans r₁)
  | c :: rest =>
    match simpleEscape? c with
    | some d => .ok (some d, m.advance c, Rest.tail c rest)
    | none => .error ⟨.invalidEscape, m.ahead (c :: rest)⟩

/-- The rest of a text after its opening mark; `done` is what it says so far, last character
first. -/
def scanText (read : Bool) (m : Mark) (done : List Char) (cs : List Char) :
    Except Flaw (String × Mark × Rest cs) :=
  match cs with
  | [] => .error ⟨.endInText, m⟩
  | c :: rest =>
    if c = '"' then .ok (String.ofList done.reverse, m.advance c, Rest.tail c rest)
    else if c = '\\' then
      match scanEscape read (m.advance c) rest with
      | .error f => .error f
      | .ok (d, m', ⟨r, h⟩) =>
        match scanText read m' (d.toList ++ done) r with
        | .error f => .error f
        | .ok (s, m'', ⟨r', h'⟩) => .ok (s, m'', ⟨r', by simp; omega⟩)
    else if c.toNat < 0x20 then
      .error ⟨.controlCharacter, if read then m.advance c else m⟩
    else
      match scanText read (m.advance c) (c :: done) rest with
      | .error f => .error f
      | .ok (s, m', ⟨r', h'⟩) => .ok (s, m', ⟨r', by simp; omega⟩)
termination_by cs.length

/-- A text after its opening mark, and what is left after it if it ends as it should. -/
def ofText (m : Mark) (cs : List Char) : Lexeme × Mark × Option (Rest cs) :=
  let read := scanText true m [] cs
  match scanText false m [] cs, read with
  | .ok (_, m', r), .ok (s, _, _) => (.text (.ok s), m', some r)
  | .ok (_, m', r), .error f => (.text (.error f), m', some r)
  | .error skipped, .error f => (.brokenText ⟨f, skipped⟩, m, none)
  | .error skipped, .ok _ => (.brokenText (.both skipped), m, none)

/-- The rest of a word after its first character. -/
def scanWord (m : Mark) : (word : List Char) → (cs : List Char) → Except Flaw (Mark × Rest cs)
  | [], cs => .ok (m, Rest.all cs)
  | _ :: _, [] => .error ⟨.endInValue, m⟩
  | w :: ws, c :: cs =>
    if c = w then
      match scanWord (m.advance c) ws cs with
      | .ok (m', r) => .ok (m', (Rest.tail c cs).trans r)
      | .error f => .error f
    else .error ⟨.expectedWord, m.ahead (c :: cs)⟩

def ofWord (lexeme : Lexeme) (m : Mark) (word cs : List Char) :
    Lexeme × Mark × Option (Rest cs) :=
  match scanWord m word cs with
  | .ok (m', r) => (lexeme, m', some r)
  | .error f => (.broken (.both f), m, none)

def ofNumeral (m : Mark) (cs : List Char) :
    Except Flaws (Numeral × Rest cs) → Lexeme × Mark × Option (Rest cs)
  | .ok (n, r) => (.number n.value, n.stop, some r)
  | .error flaws => (.broken flaws, m, none)

/-- The lexeme that begins with `c`, the place after it and what is left; nothing is left of use
after a lexeme that is broken. -/
def scan (m : Mark) (c : Char) (cs : List Char) : Lexeme × Mark × Option (Rest (c :: cs)) :=
  let next := m.advance c
  let single (lexeme : Lexeme) := (lexeme, next, some (Rest.tail c cs))
  let after (r : Lexeme × Mark × Option (Rest cs)) : Lexeme × Mark × Option (Rest (c :: cs)) :=
    (r.1, r.2.1, r.2.2.map (Rest.tail c cs).trans)
  if c = '[' then single .openList
  else if c = ']' then single .closeList
  else if c = '\x7b' then single .openObject
  else if c = '\x7d' then single .closeObject
  else if c = ',' then single .comma
  else if c = ':' then single .colon
  else if c = '"' then after (ofText next cs)
  else if c = 'n' then after (ofWord .null next ['u', 'l', 'l'] cs)
  else if c = 't' then after (ofWord (.boolean true) next ['r', 'u', 'e'] cs)
  else if c = 'f' then after (ofWord (.boolean false) next ['a', 'l', 's', 'e'] cs)
  else if c = '-' then after (ofNumeral next cs (Numeral.scan true next cs))
  else if c.isDigit then ofNumeral m (c :: cs) (Numeral.scan false m (c :: cs))
  else (.stray, next, none)

end Lexeme

/-- The tokens of a text up to the first that is broken or stray, and the place where they
end. A numeral begins with a digit, so that every token takes up some of the text. -/
def tokenize (m : Mark) (cs : List Char) : List Token × Mark :=
  match cs with
  | [] => ([], m)
  | c :: rest =>
    if isSpace c then tokenize (m.advance c) rest
    else
      match Lexeme.scan m c rest with
      | (lexeme, stop, some r) =>
        if _h : r.val.length < (c :: rest).length then
          let (ts, last) := tokenize stop r.val
          (⟨lexeme, m, stop⟩ :: ts, last)
        else ([⟨lexeme, m, stop⟩], stop)
      | (lexeme, stop, none) => ([⟨lexeme, m, stop⟩], stop)
termination_by cs.length
decreasing_by
  · exact Nat.lt_succ_self _
  · exact _h

end ModuleBindings.Json

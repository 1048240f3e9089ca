import ModuleBindings.Hcl.Trivia
import ModuleBindings.Text.Identifier

/-!
# Identifiers, numbers and texts of a configuration

A quoted text is read in fragments: characters that stand for themselves, `$${` and `%%{` for
`${` and `%{`, and escapes. It ends before whatever is no fragment. An escape that says nothing
ends it too but is used up, unless it stands first.
-/

namespace ModuleBindings.Hcl

def isIdentifierStart (c : Char) : Bool :=
  c = '_' || Text.isIdentifierStart c

def isIdentifierContinue (c : Char) : Bool :=
  c = '-' || Text.isIdentifierContinue c

def identifier? : (cs : List Char) → Option (String × ProperRest cs)
  | [] => none
  | c :: cs =>
    if isIdentifierStart c then
      some (String.ofList (c :: cs.takeWhile isIdentifierContinue),
        .cons c (.dropWhile isIdentifierContinue cs))
    else none

/-- A word that no identifier character follows. -/
def keyword? (word cs : List Char) : Option (Rest cs) :=
  if word.isPrefixOf cs then
    match cs.drop word.length with
    | [] => some (.none cs)
    | c :: _ =>
      if isIdentifierContinue c then none
      else some (.drop word.length cs)
  else none

/-- Exactly this character. -/
def symbol? (c : Char) : (cs : List Char) → Option (ProperRest cs)
  | [] => none
  | d :: cs => if d = c then some (.tail d cs) else none

/-- Exactly these characters. -/
def exactly? (word cs : List Char) : Option (Rest cs) :=
  if word.isPrefixOf cs then some (.drop word.length cs) else none

def digitsOf (cs : List Char) : List Char :=
  cs.takeWhile Char.isDigit

def natOf (ds : List Char) : Nat :=
  ds.foldl (fun n c => n * 10 + (c.toNat - '0'.toNat)) 0

/-- The least number that rounds to more than the greatest float. -/
def floatLimit : Nat :=
  Nat.pow 2 1024 - Nat.pow 2 970

/-- Whether `n · 10 ^ power` is too large for a float. -/
def overflows (n : Nat) (power : Int) : Bool :=
  if n = 0 then false
  else if 400 < power then true
  else if power < 0 then floatLimit ≤ n / Nat.pow 10 power.natAbs
  else floatLimit ≤ n * Nat.pow 10 power.natAbs

/-- An exponent, with its sign, or nothing where none stands. -/
def exponent? (cs : List Char) : Option (Int × Rest cs) :=
  match cs with
  | 'e' :: rest | 'E' :: rest =>
    let (negative, r) : Bool × Rest rest :=
      match rest with
      | '+' :: more => (false, Rest.tail '+' more)
      | '-' :: more => (true, Rest.tail '-' more)
      | more => (false, Rest.all more)
    let ds := digitsOf r.val
    if ds.isEmpty then none
    else
      let s := (Rest.tail _ rest).trans (r.trans (Rest.dropWhile Char.isDigit r.val))
      some (if negative then -Int.ofNat (natOf ds) else Int.ofNat (natOf ds), s)
  | _ => none

/-- A point with digits after it, or nothing where none stands. -/
def fraction? : (cs : List Char) → Option (List Char × Rest cs)
  | '.' :: rest =>
    let ds := digitsOf rest
    if ds.isEmpty then none
    else some (ds, (Rest.tail '.' rest).trans (Rest.dropWhile Char.isDigit rest))
  | _ => none

/-- The fraction and exponent of a number with these digits before the point; at least one of
the two must stand there, and the number must not be too large for a float. -/
def float? (whole cs : List Char) : Option (Rest cs) :=
  let (fs, r) := (fraction? cs).getD ([], Rest.all cs)
  let e := exponent? r.val
  let (power, s) := e.getD (0, Rest.all r.val)
  if fs.isEmpty && e.isNone then none
  else if overflows (natOf (whole ++ fs)) (power - Int.ofNat fs.length) then none
  else some (r.trans s)

/-- A number: a float, or digits whose value fits into 64 bits. -/
def number? : (cs : List Char) → Option (ProperRest cs)
  | [] => none
  | c :: cs =>
    if c.isDigit then
      let ds := c :: digitsOf cs
      let r := Rest.dropWhile Char.isDigit cs
      match float? ds r.val with
      | some s => some (.cons c (r.trans s))
      | none => if natOf ds < Nat.pow 2 64 then some (.cons c r) else none
    else none

def hexOf (cs : List Char) : Nat :=
  cs.foldl (fun n c =>
    n * 16 + (if c.isDigit then c.toNat - '0'.toNat else c.toLower.toNat - 'a'.toNat + 10)) 0

def isHexDigit (c : Char) : Bool :=
  c.isDigit || ('a' ≤ c && c ≤ 'f') || ('A' ≤ c && c ≤ 'F')

/-- A character by `n` hexadecimal digits, or nothing, with none of them used up. -/
def codePoint (n : Nat) (cs : List Char) : Option Char × Rest cs :=
  let ds := cs.take n
  if ds.length = n && ds.all isHexDigit && (hexOf ds).isValidChar then
    (some (Char.ofNat (hexOf ds)), .drop n cs)
  else (none, Rest.all cs)

/-- The character that a letter stands for after a backslash. -/
def simpleEscape? (c : Char) : Option Char :=
  if c = 'n' then some '\n'
  else if c = 'r' then some '\r'
  else if c = 't' then some '\t'
  else if c = 'b' then some '\x08'
  else if c = 'f' then some '\x0c'
  else if c = '"' || c = '\\' || c = '/' then some c
  else none

/-- What follows a backslash: the character it says, if it says one, and the rest. -/
def escape : (cs : List Char) → Option Char × Rest cs
  | [] => (none, Rest.all [])
  | c :: cs =>
    if c = 'u' || c = 'U' then
      let (d, r) := codePoint (if c = 'u' then 4 else 8) cs
      (d, (Rest.tail c cs).trans r)
    else (simpleEscape? c, Rest.tail c cs)

/-- The end of a quoted text after the fragments `done`, last character first, if there are
any. -/
def closeFragments (begun : Bool) (done : List Char) {cs : List Char} (r : Rest cs) :
    Option (List Char × Rest cs) :=
  if begun then some (done.reverse, r) else none

/-- The fragments of a quoted text up to the first character that begins none. There must be
one; `begun` if some stand before, which say `done`, last character first. -/
def fragments (begun : Bool) (done : List Char) (cs : List Char) :
    Option (List Char × Rest cs) :=
  match cs with
  | [] => closeFragments begun done (Rest.all [])
  | '"' :: rest => closeFragments begun done (Rest.all ('"' :: rest))
  | '$' :: '\x7b' :: rest => closeFragments begun done (Rest.all ('$' :: '\x7b' :: rest))
  | '%' :: '\x7b' :: rest => closeFragments begun done (Rest.all ('%' :: '\x7b' :: rest))
  | '$' :: '$' :: '\x7b' :: rest =>
    (fragments true ('\x7b' :: '$' :: done) rest).map fun (s, r) =>
      (s, (Rest.tail '$' _).trans ((Rest.tail '$' _).trans ((Rest.tail '\x7b' _).trans r)))
  | '%' :: '%' :: '\x7b' :: rest =>
    (fragments true ('\x7b' :: '%' :: done) rest).map fun (s, r) =>
      (s, (Rest.tail '%' _).trans ((Rest.tail '%' _).trans ((Rest.tail '\x7b' _).trans r)))
  | '\\' :: rest =>
    match escape rest with
    | (some c, ⟨r, h⟩) =>
      (fragments true (c :: done) r).map fun (s, t) =>
        (s, (Rest.tail '\\' rest).trans (.trans ⟨r, h⟩ t))
    | (none, r) => closeFragments begun done ((Rest.tail '\\' rest).trans r)
  | c :: rest =>
    (fragments true (c :: done) rest).map fun (s, r) => (s, (Rest.tail c rest).trans r)
termination_by cs.length

/-- A quoted text without templates, after its opening mark. -/
def plainText? (cs : List Char) : Option (String × ProperRest cs) :=
  let (text, r) := (fragments false [] cs).getD ([], Rest.all cs)
  match r with
  | ⟨'"' :: rest, h⟩ => some (String.ofList text, ⟨rest, h⟩)
  | _ => none

/-- The fragments in front of a quoted text or template, of which there must be one. -/
def quotedChunk? (cs : List Char) : Option (ProperRest cs) :=
  match fragments false [] cs with
  | some (_, ⟨r, _⟩) => if h : r.length < cs.length then some ⟨r, h⟩ else none
  | none => none

end ModuleBindings.Hcl

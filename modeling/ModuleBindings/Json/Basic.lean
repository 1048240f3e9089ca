/-!
# JSON documents

The documents that records are written as consist of texts, lists and objects. They have a
compact form and one with a line for every member, indented by two blanks a level.
-/

namespace ModuleBindings

inductive Json where
  | text (s : String)
  | list (items : List Json)
  /-- Members in the order in which they are written. -/
  | object (members : List (String × Json))
  deriving Repr

namespace Json

def hexDigit (n : Nat) : Char :=
  Nat.digitChar (n % 16)

/-- A character inside a quoted text. Controls have short forms or four hexadecimal digits. -/
def escapeChar (c : Char) : List Char :=
  if c = '"' then ['\\', '"']
  else if c = '\\' then ['\\', '\\']
  else if c = '\n' then ['\\', 'n']
  else if c = '\r' then ['\\', 'r']
  else if c = '\t' then ['\\', 't']
  else if c = '\x08' then ['\\', 'b']
  else if c = '\x0c' then ['\\', 'f']
  else if c.toNat < 0x20 then ['\\', 'u', '0', '0', hexDigit (c.toNat / 16), hexDigit c.toNat]
  else [c]

def quote (s : String) : List Char :=
  '"' :: s.toList.flatMap escapeChar ++ ['"']

mutual

def compactChars : Json → List Char
  | text s => quote s
  | list items => '[' :: compactItems items
  | object members => '\x7b' :: compactMembers members

def compactItems : List Json → List Char
  | [] => [']']
  | [j] => compactChars j ++ [']']
  | j :: rest => compactChars j ++ ',' :: compactItems rest

def compactMembers : List (String × Json) → List Char
  | [] => ['\x7d']
  | [(key, j)] => quote key ++ ':' :: compactChars j ++ ['\x7d']
  | (key, j) :: rest => quote key ++ ':' :: compactChars j ++ ',' :: compactMembers rest

end

/-- The beginning of a line at a level of indentation. -/
def newLine (level : Nat) : List Char :=
  '\n' :: List.replicate (2 * level) ' '

mutual

def prettyChars (level : Nat) : Json → List Char
  | text s => quote s
  | list items => '[' :: prettyItems level true items
  | object members => '\x7b' :: prettyMembers level true members

/-- The rest of a list that opened at `level`; `first` if no item has been written yet. -/
def prettyItems (level : Nat) (first : Bool) : List Json → List Char
  | [] => if first then [']'] else newLine level ++ [']']
  | j :: rest =>
    (if first then [] else [',']) ++ newLine (level + 1) ++ prettyChars (level + 1) j
      ++ prettyItems level false rest

/-- The rest of an object that opened at `level`; `first` if no member has been written yet. -/
def prettyMembers (level : Nat) (first : Bool) : List (String × Json) → List Char
  | [] => if first then ['\x7d'] else newLine level ++ ['\x7d']
  | (key, j) :: rest =>
    (if first then [] else [',']) ++ newLine (level + 1) ++ quote key ++ ':' :: ' '
      :: prettyChars (level + 1) j ++ prettyMembers level false rest

end

def compact (j : Json) : String :=
  String.ofList (compactChars j)

def pretty (j : Json) : String :=
  String.ofList (prettyChars 0 j)

end Json

end ModuleBindings

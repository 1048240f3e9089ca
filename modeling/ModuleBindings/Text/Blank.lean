import ModuleBindings.Text.CodeRanges

/-!
# White space

The characters of the Unicode property White_Space, and the two ways of trimming them.
-/

namespace ModuleBindings.Text

/-- White space outside ASCII. -/
def blankRanges : CodeRanges :=
  [(0x85, 0x85), (0xA0, 0xA0), (0x1680, 0x1680), (0x2000, 0x200A), (0x2028, 0x2029),
   (0x202F, 0x202F), (0x205F, 0x205F), (0x3000, 0x3000)]

/-- The Unicode property White_Space. -/
def isBlank (c : Char) : Bool :=
  if c.toNat < 0x80 then c = ' ' || (0x09 ≤ c.toNat && c.toNat ≤ 0x0D)
  else blankRanges.contains c

def trimStartChars (cs : List Char) : List Char :=
  cs.dropWhile isBlank

def trimEndChars (cs : List Char) : List Char :=
  (cs.reverse.dropWhile isBlank).reverse

def trimChars (cs : List Char) : List Char :=
  trimEndChars (trimStartChars cs)

/-- The text without the blanks at its end. -/
def trimEnd (s : String) : String :=
  String.ofList (trimEndChars s.toList)

/-- The text without the blanks at either end. -/
def trim (s : String) : String :=
  String.ofList (trimChars s.toList)

end ModuleBindings.Text

/-!
# Sets of characters given by code point ranges

A Unicode property is stored as an increasing list of closed, disjoint ranges. Membership is
a scan that stops at the first range beyond the character.
-/

namespace ModuleBindings.Text

/-- Closed code point ranges, increasing and disjoint. -/
abbrev CodeRanges := List (Nat × Nat)

namespace CodeRanges

def covers : CodeRanges → Nat → Bool
  | [], _ => false
  | (first, last) :: rest, n => if n < first then false else n ≤ last || covers rest n

def contains (ranges : CodeRanges) (c : Char) : Bool :=
  ranges.covers c.toNat

end CodeRanges

end ModuleBindings.Text

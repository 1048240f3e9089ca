/-!
# Slices of a text

A stretch of a text is given by the offsets in bytes of its ends. Both must lie between two
characters; there is no slice that cuts one.
-/

namespace ModuleBindings.Text

/-- A stretch of a text in bytes, `stop` exclusive. -/
structure ByteRange where
  start : Nat
  stop : Nat
  deriving DecidableEq, Repr

/-- How many bytes some characters take up. -/
def byteLength (cs : List Char) : Nat :=
  cs.foldr (fun c length => c.utf8Size + length) 0

/-- The characters in the first `n` bytes and those behind them, if one ends there. -/
def splitAtByte? : Nat → List Char → Option (List Char × List Char)
  | 0, cs => some ([], cs)
  | _ + 1, [] => none
  | n + 1, c :: cs =>
    if n + 1 < c.utf8Size then none
    else (splitAtByte? (n + 1 - c.utf8Size) cs).map fun (front, back) => (c :: front, back)

/-- The text in a range, if there is one. -/
def slice? (text : String) (range : ByteRange) : Option String := do
  let (_, back) ← splitAtByte? range.start text.toList
  if range.stop < range.start then none
  else
    let (slice, _) ← splitAtByte? (range.stop - range.start) back
    some (String.ofList slice)

end ModuleBindings.Text

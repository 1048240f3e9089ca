/-!
# Shortest decimal text of a binary float

Among the decimals with the fewest digits that lie in the interval of reals rounding to a
float, the one nearest to it. The interval includes its ends exactly if the significand is
even. All comparisons are made on natural numbers.
-/

namespace ModuleBindings

/-- The value `digits · 10 ^ scale`. -/
structure Decimal where
  digits : Nat
  scale : Int
  deriving DecidableEq, Repr

namespace Decimal

/-- The positive value `significand · 2 ^ exponent`; `narrow` if the float below it is only half
as far away as the float above it. -/
structure Binary where
  significand : Nat
  exponent : Int
  narrow : Bool
  deriving DecidableEq, Repr

namespace Binary

/-- A finite positive float from its bits. -/
def ofBits (bits : Nat) : Binary :=
  let fraction := bits % Nat.pow 2 52
  let biased : Nat := bits / Nat.pow 2 52 % Nat.pow 2 11
  if biased = 0 then ⟨fraction, -1074, false⟩
  else ⟨fraction + Nat.pow 2 52, Int.ofNat biased - 1075, fraction = 0 && 1 < biased⟩

/-- A quotient of natural numbers equal to `n · 2 ^ exponent / 10 ^ scale`. -/
def ratio (n : Nat) (exponent scale : Int) : Nat × Nat :=
  (n * Nat.pow 2 exponent.toNat * Nat.pow 10 (-scale).toNat,
    Nat.pow 2 (-exponent).toNat * Nat.pow 10 scale.toNat)

/-- Whether the decimal `d · 10 ^ scale` rounds to the float. -/
def admits (b : Binary) (d : Nat) (scale : Int) : Bool :=
  let (mid, unit) := ratio (4 * b.significand) (b.exponent - 2) scale
  let (quarter, _) := ratio 1 (b.exponent - 2) scale
  let low := mid - (if b.narrow then quarter else 2 * quarter)
  let high := mid + 2 * quarter
  if b.significand % 2 = 0 then low ≤ d * unit && d * unit ≤ high
  else low < d * unit && d * unit < high

/-- The neighbour of the float on the grid of multiples of `10 ^ scale` that rounds to it, the
nearer if both do. -/
def onGrid (b : Binary) (scale : Int) : Option Decimal :=
  let (mid, unit) := ratio (4 * b.significand) (b.exponent - 2) scale
  let below := mid / unit
  let above := below + 1
  let nearer := if 2 * (mid - below * unit) ≤ unit then below else above
  let farther := if nearer = below then above else below
  if b.admits nearer scale && nearer != 0 then some ⟨nearer, scale⟩
  else if b.admits farther scale && farther != 0 then some ⟨farther, scale⟩
  else none

/-- The coarsest grid with a hit among those from `scale` down, `steps` of them. -/
def search (b : Binary) (scale : Int) : Nat → Decimal
  | 0 => ⟨0, 0⟩
  | steps + 1 => (b.onGrid scale).getD (search b (scale - 1) steps)

/-- A power of ten above every float begins the search; grids too fine for any float end it. -/
def shortest (b : Binary) : Decimal :=
  search b 309 650

end Binary

/-- The digits of the value without trailing zeros, and the power of ten of the first. -/
def normal (d : Decimal) : List Char × Int :=
  let cs := Nat.toDigits 10 d.digits
  let kept := (cs.reverse.dropWhile (· = '0')).reverse
  (kept, d.scale + cs.length - 1)

/-- Where a float is written without an exponent: the least power of ten of its first digit, and
the power of ten from which an exponent is written. -/
structure FloatFormat where
  positionalFrom : Int
  exponentialFrom : Int
  /-- The least number of digits of an exponent. -/
  exponentDigits : Nat
  deriving DecidableEq, Repr

def zeros (n : Nat) : List Char :=
  List.replicate n '0'

/-- Digits whose first stands at the given power of ten, without an exponent. -/
def positional (digits : List Char) (power : Int) : List Char :=
  if power < 0 then ['0', '.'] ++ zeros (-power - 1).toNat ++ digits
  else
    let whole := power.toNat + 1
    if digits.length ≤ whole then digits ++ zeros (whole - digits.length) ++ ['.', '0']
    else digits.take whole ++ '.' :: digits.drop whole

/-- Digits whose first stands at the given power of ten, with an exponent that has a sign. -/
def exponential (exponentDigits : Nat) (digits : List Char) (power : Int) : List Char :=
  let mantissa :=
    match digits with
    | [] => []
    | [d] => [d]
    | d :: ds => d :: '.' :: ds
  let e := Nat.toDigits 10 power.natAbs
  mantissa ++ ['e', if power < 0 then '-' else '+'] ++ zeros (exponentDigits - e.length) ++ e

/-- The text of a finite float. -/
def floatText (f : FloatFormat) (x : Float) : String :=
  let bits := x.toBits.toNat
  let magnitude := bits % Nat.pow 2 63
  let body :=
    if magnitude = 0 then ['0', '.', '0']
    else
      let (digits, power) := (Binary.ofBits magnitude).shortest.normal
      if f.positionalFrom ≤ power && power < f.exponentialFrom then positional digits power
      else exponential f.exponentDigits digits power
  String.ofList (if bits = magnitude then body else '-' :: body)

end Decimal

end ModuleBindings

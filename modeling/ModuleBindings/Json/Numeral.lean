import ModuleBindings.Json.Fault
import ModuleBindings.Rest

/-!
# Numbers in a JSON text

A numeral is read by its grammar first. Its value is an integer if it is written as one and fits
into 64 bits, else a float, for which only as many leading digits count as fit into 64 bits.
-/

namespace ModuleBindings.Json

/-- The digits at the beginning, the place after them and what is left. -/
def digits (m : Mark) (cs : List Char) : List Char × Mark × Rest cs :=
  let ds := cs.takeWhile Char.isDigit
  (ds, m.advanceAll ds, Rest.dropWhile Char.isDigit cs)

structure Numeral where
  negative : Bool
  whole : List Char
  fraction : List Char
  /-- The sign of the exponent and its digits. -/
  exponent : Option (Bool × List Char)
  /-- The place after the sign of the exponent. -/
  exponentMark : Mark
  /-- The place after the numeral. -/
  stop : Mark

/-- The flaw of a text whose value is read, and that of one whose value is of no interest. -/
structure Flaws where
  read : Flaw
  skipped : Flaw

def Flaws.both (f : Flaw) : Flaws := ⟨f, f⟩

/-- A digit is missing before `cs`. -/
def missingDigit (m : Mark) : List Char → Flaws
  | [] => ⟨⟨.endInValue, m⟩, ⟨.invalidNumber, m⟩⟩
  | c :: cs => .both ⟨.invalidNumber, m.ahead (c :: cs)⟩

namespace Numeral

/-- The digits before the point: a zero alone or digits that begin with none. -/
def scanWhole (m : Mark) (cs : List Char) : Except Flaws (List Char × Mark × Rest cs) :=
  match digits m cs with
  | ([], _, _) => .error (missingDigit m cs)
  | ('0' :: _ :: _, _, _) => .error (.both ⟨.invalidNumber, ⟨m.line, m.column + 2⟩⟩)
  | found => .ok found

/-- A point and the digits after it, if there is a point. -/
def scanFraction (m : Mark) : (cs : List Char) → Except Flaws (List Char × Mark × Rest cs)
  | '.' :: cs =>
    match digits (m.advance '.') cs with
    | ([], m', r) => .error (missingDigit m' r.val)
    | (ds, m', r) => .ok (ds, m', (Rest.tail '.' cs).trans r)
  | cs => .ok ([], m, Rest.all cs)

/-- Whether an exponent is negative, and the place after its sign. -/
def scanSign (m : Mark) : (cs : List Char) → Bool × Mark × Rest cs
  | '+' :: cs => (false, m.advance '+', Rest.tail '+' cs)
  | '-' :: cs => (true, m.advance '-', Rest.tail '-' cs)
  | cs => (false, m, Rest.all cs)

/-- An exponent, if there is one; the two places are those before and after its digits. -/
def scanExponent (m : Mark) (cs : List Char) :
    Except Flaws (Option (Bool × List Char) × Mark × Mark × Rest cs) :=
  match cs with
  | c :: cs =>
    if c = 'e' || c = 'E' then
      let (negative, m₁, r₁) := scanSign (m.advance c) cs
      match digits m₁ r₁.val with
      | ([], m₂, r₂) => .error (missingDigit m₂ r₂.val)
      | (ds, m₂, r₂) =>
        .ok (some (negative, ds), m₁, m₂, (Rest.tail c cs).trans (r₁.trans r₂))
    else .ok (none, m, m, Rest.all (c :: cs))
  | [] => .ok (none, m, m, Rest.all [])

/-- A numeral less its sign. -/
def scan (negative : Bool) (m : Mark) (cs : List Char) : Except Flaws (Numeral × Rest cs) := do
  let (whole, m₁, r₁) ← scanWhole m cs
  let (fraction, m₂, r₂) ← scanFraction m₁ r₁.val
  let (exponent, m₃, m₄, r₃) ← scanExponent m₂ r₂.val
  pure (⟨negative, whole, fraction, exponent, m₃, m₄⟩, r₁.trans (r₂.trans r₃))

def digitValue (c : Char) : Nat :=
  c.toNat - '0'.toNat

/-- Digits taken into a significand as long as it fits into 64 bits, and the digits left. -/
def significandOf (n : Nat) : List Char → Nat × List Char
  | [] => (n, [])
  | c :: cs =>
    let n' := n * 10 + digitValue c
    if Nat.pow 2 64 ≤ n' then (n, c :: cs) else significandOf n' cs

/-- The value of an exponent's digits, or how many of them are too many for 32 bits. -/
def exponentOf (read value : Nat) : List Char → Except Nat Nat
  | [] => .ok value
  | c :: cs =>
    let value' := value * 10 + digitValue c
    if Nat.pow 2 31 ≤ value' then .error (read + 1) else exponentOf (read + 1) value' cs

def powerOfTen (n : Nat) : Float :=
  Float.ofScientific 1 false n

/-- Division by a power of ten in steps no larger than floats allow. -/
def scaleDown (x : Float) (n : Nat) : Float :=
  if n ≤ 308 then x / powerOfTen n
  else if x == 0 then x
  else scaleDown (x / powerOfTen 308) (n - 308)
termination_by n

/-- The float `significand · 10 ^ power`, if it is finite. -/
def floatOf (significand : Nat) (power : Int) : Option Float :=
  let x := significand.toUInt64.toFloat
  if power < 0 then some (scaleDown x power.natAbs)
  else if power ≤ 308 then
    let y := x * powerOfTen power.toNat
    if y.isInf then none else some y
  else if significand = 0 then some x
  else none

def signed (negative : Bool) (x : Float) : Float :=
  if negative then -x else x

def value (n : Numeral) : Except Flaw Number :=
  let (whole, dropped) := significandOf 0 n.whole
  let (significand, dropped') := significandOf whole n.fraction
  let power : Int := Int.ofNat dropped.length - Int.ofNat (n.fraction.length - dropped'.length)
  let float (power : Int) : Except Flaw Number :=
    match floatOf significand power with
    | some x => .ok (.float (signed n.negative x))
    | none => .error ⟨.numberOutOfRange, n.stop⟩
  match n.exponent with
  | some (negative, ds) =>
    match exponentOf 0 0 ds with
    | .ok e => float (if negative then power - e else power + e)
    | .error read =>
      if significand != 0 && !negative then
        .error ⟨.numberOutOfRange, n.exponentMark.advanceAll (ds.take read)⟩
      else .ok (.float (signed n.negative 0))
  | none =>
    if !n.fraction.isEmpty || !dropped.isEmpty then float power
    else if !n.negative then .ok (.integer significand)
    else if significand = 0 || Nat.pow 2 63 < significand then float 0
    else .ok (.integer (-significand))

end Numeral

end ModuleBindings.Json

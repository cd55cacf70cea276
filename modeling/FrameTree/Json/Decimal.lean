import FrameTree.Json.Binary64
import FrameTree.Text.Digits

/-!
# Decimal text of numbers

**Whole numbers** are written with all their digits (`decimal`).

**Doubles** are written with the fewest digits that read back as the same double, and of those the
digits nearest to its value (`shortest`). For each number of digits only the two neighbours of the
value on that decimal grid are tried: if any point of the grid reads back, one of them does.

**Layout** (`Binary64.text`). Magnitudes from `1e-5` up to below `1e16` are positional and keep a
fraction, others have an exponent with a sign.
-/

namespace FrameTree.Json

/-! ## Whole numbers -/

/-- The character of a decimal digit. -/
def digitChar (d : Nat) : Char := Char.ofNat ('0'.toNat + d)

/-- The decimal digits of a natural, most significant first. -/
def decimal (n : Nat) : List Char :=
  if n < 10 then [digitChar n] else decimal (n / 10) ++ [digitChar (n % 10)]
termination_by n

/-- The text of a whole number. -/
def decimalInt (i : Int) : List Char :=
  if i < 0 then '-' :: decimal i.natAbs else decimal i.natAbs

/-! ## Fewest digits -/

/-- A power of ten. -/
def powerOfTen (k : Nat) : Nat := Nat.pow 10 k

/-- The value `digits * 10 ^ exponent`. -/
structure Decimal where
  digits : Nat
  exponent : Int
deriving DecidableEq, Repr

/-- The decimals that read back as a given double: those between two bounds, all three over one
denominator, the bounds themselves included for an even mantissa. -/
structure RoundingInterval where
  low : Nat
  value : Nat
  high : Nat
  denominator : Nat
  closed : Bool

/-- Half a step below the value and half a step above it. The step below a power of two is half as
wide, except at the least exponent. -/
def Binary64.interval (x : Binary64) : RoundingInterval :=
  let narrow := x.mantissa == powerOfTwo 52 && x.exponent > Binary64.minExponent
  let (n, d) := Binary64.toRatio { x with mantissa := 1 }
  { low := (if narrow then 4 * x.mantissa - 1 else 4 * x.mantissa - 2) * n
    value := 4 * x.mantissa * n
    high := (4 * x.mantissa + 2) * n
    denominator := 4 * d
    closed := x.mantissa % 2 == 0 }

/-- Does the decimal lie in the interval? -/
def RoundingInterval.contains (i : RoundingInterval) (c : Decimal) : Bool :=
  let n := c.digits * powerOfTen c.exponent.toNat * i.denominator
  let d := powerOfTen (-c.exponent).toNat
  if i.closed then i.low * d ≤ n && n ≤ i.high * d else i.low * d < n && n < i.high * d

/-- The value is not nearer to the next decimal above than to this one; halfway between them, this
one is even. -/
def RoundingInterval.isNearLower (i : RoundingInterval) (c : Decimal) : Bool :=
  let unit := powerOfTen c.exponent.toNat * i.denominator
  let v := i.value * powerOfTen (-c.exponent).toNat
  let above := v - c.digits * unit
  2 * above < unit || (2 * above == unit && c.digits % 2 == 0)

/-- The neighbours of the value among the multiples of `10 ^ e`. -/
def RoundingInterval.neighbour? (i : RoundingInterval) (e : Int) : Option Decimal :=
  let q := (i.value * powerOfTen (-e).toNat) / (powerOfTen e.toNat * i.denominator)
  let lower : Decimal := ⟨q, e⟩
  let upper : Decimal := ⟨q + 1, e⟩
  match i.contains lower && q != 0, i.contains upper with
  | true, true => some (if i.isNearLower lower then lower else upper)
  | true, false => some lower
  | false, true => some upper
  | false, false => none

/-- The number of decimal places by which a value below one lies under one: the least `j` with
`num * 10 ^ j ≥ den`. -/
def leadingZeros (num den : Nat) : (fuel : Nat) → Nat
  | 0 => 0
  | fuel + 1 => if num ≥ den then 0 else 1 + leadingZeros (num * 10) den fuel

/-- The first grid, from coarse to fine, with a decimal that reads back. -/
def RoundingInterval.firstHit (i : RoundingInterval) (e : Int) : (tries : Nat) → Decimal
  | 0 => ⟨0, 0⟩
  | tries + 1 => (i.neighbour? e).getD (i.firstHit (e - 1) tries)

/-- The decimal with the fewest digits that reads back as the double, the nearest of those. The
coarsest grid tried has steps above the value, and 17 digits always suffice. -/
def Binary64.shortest (x : Binary64) : Decimal :=
  let i := x.interval
  let whole := i.value / i.denominator
  let top : Int :=
    if whole > 0 then (decimal whole).length
    else 1 - (leadingZeros i.value i.denominator 400 : Int)
  i.firstHit top 20

/-! ## Layout -/

/-- Positional text up to this power of ten. -/
def maxPositional : Int := 15

/-- Positional text from this power of ten. -/
def minPositional : Int := -5

/-- An exponent, always with its sign. -/
def exponentText (e : Int) : List Char := (if e < 0 then '-' else '+') :: decimal e.natAbs

/-- The digits laid out with a point, or with an exponent when that is far from zero. -/
def Decimal.text (c : Decimal) : List Char :=
  let ds := decimal c.digits
  let point : Int := c.exponent + ds.length
  if minPositional ≤ point - 1 && point - 1 ≤ maxPositional then
    if c.exponent ≥ 0 then ds ++ List.replicate c.exponent.toNat '0' ++ ['.', '0']
    else if point > 0 then ds.take point.toNat ++ '.' :: ds.drop point.toNat
    else ['0', '.'] ++ List.replicate (-point).toNat '0' ++ ds
  else
    ds.take 1 ++ (if ds.length > 1 then '.' :: ds.drop 1 else []) ++ 'e' :: exponentText (point - 1)

/-- The text of a double. -/
def Binary64.text (x : Binary64) : List Char :=
  let magnitude := if x.isZero then ['0', '.', '0'] else x.shortest.text
  if x.negative then '-' :: magnitude else magnitude

end FrameTree.Json

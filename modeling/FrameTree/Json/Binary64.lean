/-!
# Doubles in exact arithmetic

A finite double is a sign, a whole mantissa and a power of two. Every operation forms the exact
quotient of two naturals and rounds it once, to the nearest double, a tie going to the even
mantissa. There is no infinity: an operation whose result is too large answers `none`.

**Canonical form.** `ofRatio` gives a mantissa of exactly 53 bits, or the least exponent, or zero,
so two doubles made by it are equal as values exactly when they are equal as structures (apart from
the two zeros).
-/

namespace FrameTree.Json

/-- The double `mantissa * 2 ^ exponent`, with its sign. -/
structure Binary64 where
  negative : Bool
  mantissa : Nat
  exponent : Int
deriving DecidableEq, Repr, Inhabited

/-- A power of two. -/
def powerOfTwo (k : Nat) : Nat := Nat.pow 2 k

/-- The whole number nearest to `num / den`, the even one of two. -/
def roundQuotient (num den : Nat) : Nat :=
  let q := num / den
  let r := num % den
  if 2 * r > den then q + 1
  else if 2 * r == den then q + q % 2
  else q

namespace Binary64

/-- The least exponent of a double. -/
def minExponent : Int := -1074

/-- The greatest exponent of a double with a mantissa of 53 bits. -/
def maxExponent : Int := 971

def zero (negative : Bool) : Binary64 := ⟨negative, 0, 0⟩

def isZero (x : Binary64) : Bool := x.mantissa == 0

/-- The quotient `num / (den * 2 ^ e)`, as a numerator and a denominator. -/
def scaled (num den : Nat) (e : Int) : Nat × Nat :=
  if e ≥ 0 then (num, den * powerOfTwo e.toNat) else (num * powerOfTwo (-e).toNat, den)

/-- The double nearest to `num / den`. The exponent is the one at which the quotient has 53 bits, or
the least one. -/
def ofRatio (negative : Bool) (num den : Nat) : Option Binary64 :=
  if num == 0 then some (zero negative)
  else
    let guess : Int := max minExponent ((num.log2 : Int) - den.log2 - 53)
    let (n, d) := scaled num den guess
    let e := if n / d < powerOfTwo 53 then guess else guess + 1
    let (n, d) := scaled num den e
    let m := roundQuotient n d
    let (m, e) := if m == powerOfTwo 53 then (powerOfTwo 52, e + 1) else (m, e)
    if m == 0 then some (zero negative)
    else if e > maxExponent then none
    else some ⟨negative, m, e⟩

/-- The magnitude as a quotient of naturals. -/
def toRatio (x : Binary64) : Nat × Nat :=
  if x.exponent ≥ 0 then (x.mantissa * powerOfTwo x.exponent.toNat, 1)
  else (x.mantissa, powerOfTwo (-x.exponent).toNat)

/-- The double nearest to a whole number. -/
def ofNat (n : Nat) : Option Binary64 := ofRatio false n 1

/-- The rounded product of the magnitudes, with the sign of `x`. -/
def mul (x y : Binary64) : Option Binary64 :=
  let (a, b) := x.toRatio
  let (c, d) := y.toRatio
  ofRatio x.negative (a * c) (b * d)

/-- The rounded quotient of the magnitudes, with the sign of `x`. -/
def div (x y : Binary64) : Option Binary64 :=
  let (a, b) := x.toRatio
  let (c, d) := y.toRatio
  ofRatio x.negative (a * d) (b * c)

def withSign (negative : Bool) (x : Binary64) : Binary64 := { x with negative }

/-- The rounded distance of two doubles. -/
def distance (x y : Binary64) : Option Binary64 :=
  let (a, b) := x.toRatio
  let (c, d) := y.toRatio
  let signed (negative : Bool) (n : Nat) : Int := if negative then -(n : Int) else n
  ofRatio false (signed x.negative (a * d) - signed y.negative (c * b)).natAbs (b * d)

/-- Two doubles differ by less than the gap between one and the next double. -/
def isNear (x y : Binary64) : Bool :=
  match x.distance y with
  | some z =>
    let (n, d) := z.toRatio
    n * powerOfTwo 52 < d
  | none => false

/-- The whole part is the value itself. -/
def isWhole (x : Binary64) : Bool :=
  let (n, d) := x.toRatio
  n % d == 0

end Binary64

end FrameTree.Json

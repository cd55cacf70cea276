import FrameTree.Json.Node

/-!
# The value of a numeral

The digits of a numeral are taken into a significand of 64 bits from the left while they fit. Of the
whole part the digits left over count as powers of ten, of the fraction they are dropped. A numeral
without point and exponent whose digits all fit is a whole number, as far as 64 bits with a sign
hold its negative; zero with a minus sign is the double `-0.0`.

Every other numeral is the double nearest to its significand, multiplied or divided by the double
nearest to the power of ten. Each of these steps rounds.
-/

namespace FrameTree.Json

open Text (digitValue decimalValue)

/-- Takes digits into a significand of 64 bits while they fit; also counts those left over. -/
def takeDigits (significand : Nat) : List Char → Nat × Nat
  | [] => (significand, 0)
  | c :: cs =>
    let next := 10 * significand + digitValue c
    if next < powerOfTwo 64 then takeDigits next cs else (significand, cs.length + 1)

namespace Binary64

/-- The greatest power of ten that is a double. -/
def maxPower : Nat := 308

/-- A power of ten as a double. -/
def ofPowerOfTen (k : Nat) : Binary64 := (ofNat (powerOfTen k)).getD (zero false)

/-- The double times a power of ten, or nothing when that is too large. A very small power is
applied in several steps. -/
def timesPowerOfTen (x : Binary64) (e : Int) : Option Binary64 :=
  if e ≥ 0 then
    if e ≤ maxPower then x.mul (ofPowerOfTen e.toNat)
    else if x.isZero then some x
    else none
  else if -e ≤ maxPower then x.div (ofPowerOfTen (-e).toNat)
  else if x.isZero then some x
  else (x.div (ofPowerOfTen maxPower)).bind fun y => y.timesPowerOfTen (e + maxPower)
termination_by (-e).toNat
decreasing_by simp only [maxPower] at *; omega

/-- The double of a significand and a power of ten. -/
def ofScaled (negative : Bool) (significand : Nat) (e : Int) : Except TextFault Number :=
  match (ofNat significand).bind fun x => x.timesPowerOfTen e with
  | some x => .ok (.float (x.withSign negative))
  | none => .error .numberOutOfRange

end Binary64

/-- The largest exponent that is looked at. -/
def maxExponentDigits : Nat := 2147483647

/-- The number that a numeral writes. -/
def Numeral.value (n : Numeral) : Except TextFault Number :=
  let (whole, left) := takeDigits 0 n.whole
  match n.fraction, n.exponent with
  | none, none =>
    if left > 0 then Binary64.ofScaled n.negative whole left
    else if !n.negative then .ok (.int whole)
    else if 0 < whole && whole ≤ powerOfTwo 63 then .ok (.int (-(whole : Int)))
    else Binary64.ofScaled true whole 0
  | fraction, exponent =>
    let digits := fraction.getD []
    let (significand, dropped) := takeDigits whole digits
    let scale : Int := (left : Int) - ((digits.length - dropped : Nat) : Int)
    match exponent with
    | none => Binary64.ofScaled n.negative significand scale
    | some (down, ds) =>
      let e := decimalValue ds
      if e > maxExponentDigits then
        if significand == 0 || down then .ok (.float (Binary64.zero n.negative))
        else .error .numberOutOfRange
      else Binary64.ofScaled n.negative significand (if down then scale - e else scale + e)

end FrameTree.Json

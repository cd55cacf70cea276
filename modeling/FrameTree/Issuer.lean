import FrameTree.Json.Decimal

/-!
# Issuing ids

An issuer names the entities of a frame in the order in which they come. It is a sequence of ids,
counted from zero over its whole life, together with the mark that stands where an entity has no
parent. All that is remembered between two calls is how many ids have been issued.

**Kinds.** Sequential ids are a stem, a hyphen and a number from one. Random ids are version 4
UUIDs: the bits that are not fixed by the format are a start that is chosen once, plus a multiple of
an odd number, so that no two of the first `2 ^ 122` are equal.
-/

namespace FrameTree

/-- A sequence of ids. -/
structure Issuer (ι : Type) where
  /-- The id issued after `n` others. -/
  id : Nat → ι
  /-- Stands where there is no parent. -/
  absent : ι

namespace Issuer

/-- The ids `stem-1`, `stem-2` and so on. -/
def sequential (stem : String) : Issuer String where
  id n := stem ++ "-" ++ String.ofList (Json.decimal (n + 1))
  absent := ""

end Issuer

namespace Uuid

/-- The free bits of a version 4 UUID. -/
def freeBits : Nat := 122

/-- An odd number spreads consecutive UUIDs over all bits. -/
def stride : Nat := 0x1d8e4e27c47d124f5851f42d4c957f

/-- The lower-case hexadecimal digits of the low `4 * width` bits. -/
def hexDigits (width n : Nat) : List Char :=
  (List.range width).reverse.map fun i => Nat.digitChar (n / Json.powerOfTwo (4 * i) % 16)

/-- The version 4 UUID with the given free bits, in its hyphenated form. -/
def ofBits (n : Nat) : String :=
  let n := n % Json.powerOfTwo freeBits
  let bits (start count : Nat) : Nat := n / Json.powerOfTwo start % Json.powerOfTwo count
  let node := bits 0 48
  let clock := 0x8000 + bits 48 14
  let high := 0x4000 + bits 62 12
  let mid := bits 74 16
  let low := bits 90 32
  String.ofList <|
    hexDigits 8 low ++ '-' :: hexDigits 4 mid ++ '-' :: hexDigits 4 high
      ++ '-' :: hexDigits 4 clock ++ '-' :: hexDigits 12 node

/-- The UUIDs from a start. -/
def issuer (start : Nat) : Issuer String where
  id n := ofBits (start + n * stride)
  absent := ""

def isLowerHex (c : Char) : Bool := c.isDigit || ('a' ≤ c && c ≤ 'f')

/-- The text is a UUID of any version in its hyphenated lower-case form. -/
def isHyphenated (s : String) : Bool :=
  let cs := s.toList
  cs.length == 36 && cs.zipIdx.all fun (c, i) =>
    if [8, 13, 18, 23].contains i then c == '-' else isLowerHex c

/-- The text is a version 4 UUID in its hyphenated lower-case form. -/
def isCanonical (s : String) : Bool :=
  let cs := s.toList
  isHyphenated s && cs[14]? == some '4'
    && (cs[19]?.map ['8', '9', 'a', 'b'].contains).getD false

end Uuid

end FrameTree

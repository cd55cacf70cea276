import FrameTree.Json.Decimal

/-!
# JSON values

**Numbers.** A number is a whole number or a double: whole numbers are those written without a point
and an exponent that fit 64 bits, everything else is rounded to a double.

**Objects** are lists of members, so that a value can be printed with its members in a chosen order.
An object is *canonical* when its names are strictly increasing; `Json.object'` makes one, and of
members with the same name the last wins. Names are ordered by code points, which is the order of
their UTF-8 bytes.

Main definitions: `Json`, `Json.canonical`, `Json.get?`, `Json.pointer?` and `Json.same`, the
equality of values in which `1` and `1.0` are the same number.
-/

namespace FrameTree

namespace Json

/-- A JSON number. -/
inductive Number where
  | int (value : Int)
  | float (value : Binary64)
deriving DecidableEq, Repr, Inhabited

/-- The text of a number. -/
def Number.text : Number → List Char
  | .int i => decimalInt i
  | .float x => x.text

/-- The value as a quotient of a whole number and a natural. -/
def Number.toRatio : Number → Int × Nat
  | .int i => (i, 1)
  | .float x =>
    let (n, d) := x.toRatio
    (if x.negative then -(n : Int) else n, d)

/-- Comparison of the values. -/
def Number.compare (a b : Number) : Ordering :=
  let (n, d) := a.toRatio
  let (m, c) := b.toRatio
  Ord.compare (n * c) (m * d)

/-- The double nearest to the value. -/
def Number.toBinary64 : Number → Binary64
  | .int i => ((Binary64.ofRatio (i < 0) i.natAbs 1).getD (.zero false))
  | .float x => x

/-- A whole number, however it is written. -/
def Number.isWhole : Number → Bool
  | .int _ => true
  | .float x => x.isWhole

end Json

/-- A JSON value. -/
inductive Json where
  | null
  | bool (value : Bool)
  | number (value : Json.Number)
  | string (value : String)
  | array (items : List Json)
  | object (members : List (String × Json))
deriving Repr, Inhabited

namespace Json

/-! ## Whole numbers -/

/-- A whole number of 32 bits with sign. -/
def ofInt32 (i : Int32) : Json := .number (.int i.toInt)

/-- A natural. -/
def ofNat (n : Nat) : Json := .number (.int n)

/-! ## Canonical objects -/

/-- Puts a member at its place among members with increasing names, or in place of the one with its
name. -/
def insertMember (name : String) (value : Json) : List (String × Json) → List (String × Json)
  | [] => [(name, value)]
  | (n, v) :: ms =>
    if name < n then (name, value) :: (n, v) :: ms
    else if name = n then (name, value) :: ms
    else (n, v) :: insertMember name value ms

/-- The members by increasing name, the last of each name. -/
def sortMembers (ms : List (String × Json)) : List (String × Json) :=
  ms.foldl (fun sorted m => insertMember m.1 m.2 sorted) []

/-- A canonical object. -/
def object' (ms : List (String × Json)) : Json := .object (sortMembers ms)

mutual

/-- The same value with every object canonical. -/
def canonical : Json → Json
  | .array xs => .array (canonicalItems xs)
  | .object ms => object' (canonicalMembers ms)
  | j => j

def canonicalItems : List Json → List Json
  | [] => []
  | x :: xs => canonical x :: canonicalItems xs

def canonicalMembers : List (String × Json) → List (String × Json)
  | [] => []
  | (n, v) :: ms => (n, canonical v) :: canonicalMembers ms

end

/-! ## Looking inside -/

/-- The member of an object. -/
def get? (name : String) : Json → Option Json
  | .object ms => ms.lookup name
  | _ => none

/-- The value reached by a chain of member names and list indices. -/
def pointer? : List String → Json → Option Json
  | [], j => some j
  | step :: rest, .object ms => (ms.lookup step).bind (pointer? rest)
  | step :: rest, .array xs =>
    let ds := step.toList
    if ds.isEmpty || !ds.all Char.isDigit || (ds.length > 1 && ds.head? == some '0') then none
    else (xs[Text.decimalValue ds]?).bind (pointer? rest)
  | _, _ => none

/-! ## Equality of values -/

mutual

/-- Equality of canonical values, numbers by value. -/
def same : Json → Json → Bool
  | .null, .null => true
  | .bool a, .bool b => a == b
  | .number a, .number b => a.compare b == .eq
  | .string a, .string b => a == b
  | .array xs, .array ys => sameItems xs ys
  | .object ms, .object ns => sameMembers ms ns
  | _, _ => false

def sameItems : List Json → List Json → Bool
  | [], [] => true
  | x :: xs, y :: ys => same x y && sameItems xs ys
  | _, _ => false

def sameMembers : List (String × Json) → List (String × Json) → Bool
  | [], [] => true
  | (n, x) :: ms, (m, y) :: ns => n == m && same x y && sameMembers ms ns
  | _, _ => false

end

end Json

end FrameTree

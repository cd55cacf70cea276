import FrameTree.Json.Error

/-!
# Parsed JSON text, up to its first fault

A `Node` records what a JSON text says before any reader has decided what it wants. Where the text
is broken the node ends with the place of the break, so a reader that goes through the node in the
order of the text meets a fault of the text and a fault of the shape in the order in which they
stand there.

**Two ways to read.** Readers that want a value decode it; a member that nobody asked for is only
passed over. Passing over is more lenient with the contents of strings and numbers, and names some
faults differently, so a node keeps what both need: `Literal` keeps the decoded string and the fault
met when passing over, and a broken number or word keeps whether the text ended in it.

Main definition: `Node.passFault?`, the fault met when passing over a node.
-/

namespace FrameTree.Json

/-- A string as it stands in the text. -/
structure Literal where
  /-- The decoded string, or the first fault of decoding it. -/
  text : Except TextFault String
  /-- The fault met when passing over the string. -/
  passFault? : Option TextFault
deriving Inhabited

/-- A well-formed number as it stands in the text: its digits before and after the point and in the
exponent. -/
structure Numeral where
  negative : Bool
  whole : List Char
  fraction : Option (List Char)
  /-- The exponent is negative, and its digits. -/
  exponent : Option (Bool × List Char)
deriving DecidableEq, Repr, Inhabited

/-- How a list or an object ends in the text. -/
inductive Stop where
  | closed
  /-- The text ends where a comma or the closing bracket should stand. -/
  | endOfText
  | endAfterComma
  | closedAfterComma
  /-- An object whose comma is followed by something other than a name. -/
  | strayKey
  /-- Neither a comma nor the closing bracket. -/
  | junk
deriving DecidableEq, Repr, Inhabited

/-- A JSON text up to its first fault. -/
inductive Node where
  | null
  | bool (value : Bool)
  | number (value : Numeral)
  | string (value : Literal)
  | array (items : List Node) (stop : Stop)
  | object (members : List (Literal × Node)) (stop : Stop)
  /-- An object that opens with something other than a name. -/
  | keyless
  /-- A word that starts like `true`, `false` or `null`; does the text end in it? -/
  | brokenWord (atEnd : Bool)
  /-- A number that is not well formed; does the text end in it? -/
  | brokenNumber (atEnd : Bool)
  /-- The place of a value that no reader gets to. -/
  | blocked (fault : TextFault)
deriving Inhabited

/-! ## The end of a container -/

/-- The fault of a list whose items were wanted. -/
def Stop.listFault? : Stop → Option TextFault
  | .closed => none
  | .endOfText => some .endInList
  | .endAfterComma => some .endInValue
  | .closedAfterComma => some .trailingComma
  | .strayKey | .junk => some .expectedCommaOrBracket

/-- The fault of an object whose members were wanted. -/
def Stop.objectFault? : Stop → Option TextFault
  | .closed => none
  | .endOfText => some .endInObject
  | .endAfterComma => some .endInValue
  | .closedAfterComma => some .trailingComma
  | .strayKey => some .keyNotString
  | .junk => some .expectedCommaOrBrace

/-- The fault of a list from which no further item was wanted. -/
def Stop.fullListFault? : Stop → Option TextFault
  | .closed => none
  | .endOfText => some .endInList
  | .closedAfterComma => some .trailingComma
  | .endAfterComma | .strayKey | .junk => some .trailingCharacters

/-- The fault of a list that is passed over. -/
def Stop.passListFault? : Stop → Option TextFault
  | .closedAfterComma => some .expectedValue
  | stop => stop.listFault?

/-- The fault of an object that is passed over. -/
def Stop.passObjectFault? : Stop → Option TextFault
  | .endAfterComma => some .endInObject
  | .closedAfterComma => some .keyNotString
  | stop => stop.objectFault?

/-! ## Passing over -/

namespace Node

mutual

/-- The fault met when passing over a node. -/
def passFault? : Node → Option TextFault
  | .null | .bool _ | .number _ => none
  | .string l => l.passFault?
  | .array items stop => (passItemsFault? items).or stop.passListFault?
  | .object members stop => (passMembersFault? members).or stop.passObjectFault?
  | .keyless => some .keyNotString
  | .brokenWord atEnd => some (if atEnd then .endInValue else .brokenWord)
  | .brokenNumber _ => some .invalidNumber
  | .blocked fault => some fault

/-- The first fault met when passing over items. -/
def passItemsFault? : List Node → Option TextFault
  | [] => none
  | x :: xs => (passFault? x).or (passItemsFault? xs)

/-- The first fault met when passing over members. -/
def passMembersFault? : List (Literal × Node) → Option TextFault
  | [] => none
  | (l, x) :: ms => l.passFault?.or ((passFault? x).or (passMembersFault? ms))

end

end Node

end FrameTree.Json

import FrameTree.Json.Value

/-!
# References inside a schema

A reference starts with a number sign and leads to a place of its own document: to the document
itself, or along a pointer, whose steps are names of members and indices of items.

**Escapes.** In a pointer a byte can be written as `%` with two hexadecimal digits. The bytes of the
whole pointer are decoded first, then the steps are cut at their slashes, and then `~1` and `~0`
stand for a slash and a tilde in them.
-/

namespace FrameTree.Schema

/-- Why a reference leads nowhere. -/
inductive ReferenceFault where
  | nothingThere (pointer : String)
  | notText (pointer : String)
  | notIndex (pointer step : String)
  | noAnchor (name : String)
  | invalidAnchor (name : String)
deriving DecidableEq, Repr, Inhabited

def ReferenceFault.message : ReferenceFault → String
  | .nothingThere pointer => s!"Pointer '{pointer}' does not exist"
  | .notText pointer =>
    s!"Invalid percent encoding in pointer '{pointer}': "
      ++ "the decoded bytes do not represent valid UTF-8"
  | .notIndex pointer step => s!"Failed to parse array index '{step}' in pointer '{pointer}'"
  | .noAnchor name => s!"Anchor '{name}' does not exist"
  | .invalidAnchor name => s!"Anchor '{name}' is invalid"

/-! ## Escapes -/

/-- A step of a pointer without its escapes. -/
def unescapeStep : List Char → List Char
  | '~' :: '0' :: cs => '~' :: unescapeStep cs
  | '~' :: '1' :: cs => '/' :: unescapeStep cs
  | c :: cs => c :: unescapeStep cs
  | [] => []

/-- The bytes of a text whose escapes are decoded. A `%` without two digits stands for itself. -/
def unquotedBytes : List Char → List UInt8
  | '%' :: c :: d :: cs =>
    match Text.hexValue? c, Text.hexValue? d with
    | some high, some low => (16 * high + low).toUInt8 :: unquotedBytes cs
    | _, _ => 37 :: unquotedBytes (c :: d :: cs)
  | c :: cs => c.toString.toUTF8.toList ++ unquotedBytes cs
  | [] => []

/-- The text whose bytes are decoded, if they are the bytes of a text. -/
def unquoted? (s : String) : Option String :=
  String.fromUTF8? ⟨(unquotedBytes s.toList).toArray⟩

/-! ## Following -/

/-- An index: decimal digits, perhaps after a plus sign. -/
def indexOf? (step : String) : Option Nat :=
  let digits := match step.toList with
    | '+' :: ds => ds
    | ds => ds
  if digits.isEmpty || !digits.all Char.isDigit then none
  else some (Text.decimalValue digits)

/-- The value at the end of the steps of a pointer. -/
def walk (pointer : String) : List String → Json → Except ReferenceFault Json
  | [], j => .ok j
  | step :: steps, .object ms =>
    match ms.lookup (String.ofList (unescapeStep step.toList)) with
    | some j => walk pointer steps j
    | none => .error (.nothingThere pointer)
  | step :: steps, .array xs =>
    match indexOf? step with
    | none => .error (.notIndex pointer step)
    | some i =>
      match xs[i]? with
      | some j => walk pointer steps j
      | none => .error (.nothingThere pointer)
  | _ :: _, _ => .error (.nothingThere pointer)

/-- The schema that a reference leads to, in the document that it belongs to. -/
def resolve (root : Json) (reference : String) : Except ReferenceFault Json :=
  let fragment := String.ofList (reference.toList.dropWhile (· == '#'))
  if fragment.isEmpty then .ok root
  else if fragment.startsWith "/" then
    match unquoted? fragment with
    | none => .error (.notText fragment)
    | some pointer => walk fragment ((pointer.splitOn "/").drop 1) root
  else if fragment.contains '/' then .error (.invalidAnchor fragment)
  else .error (.noAnchor fragment)

end FrameTree.Schema

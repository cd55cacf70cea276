import FrameTree.Json.Value
import FrameTree.Text.Quoted

/-!
# What can be wrong with a JSON text

**Faults of the text** (`TextFault`): the characters do not form a JSON value.

**Faults of the shape** (`ReadError`): the value is well formed up to that point, but not what the
reader expects there: another kind of value, a number out of range, a name that is missing, repeated
or unknown. A fault of the text is one of the reasons why a reading fails.
-/

namespace FrameTree.Json

/-- A fault of a JSON text. -/
inductive TextFault where
  | endInValue
  | endInObject
  | endInList
  | endInString
  | expectedValue
  | brokenWord
  | expectedColon
  | expectedCommaOrBrace
  | expectedCommaOrBracket
  | trailingComma
  | keyNotString
  | invalidNumber
  | numberOutOfRange
  | invalidEscape
  | controlCharacter
  | loneSurrogate
  | unfinishedSurrogate
  | trailingCharacters
  | tooDeep
deriving DecidableEq, Repr, Inhabited

def TextFault.message : TextFault → String
  | .endInValue => "EOF while parsing a value"
  | .endInObject => "EOF while parsing an object"
  | .endInList => "EOF while parsing a list"
  | .endInString => "EOF while parsing a string"
  | .expectedValue => "expected value"
  | .brokenWord => "expected ident"
  | .expectedColon => "expected `:`"
  | .expectedCommaOrBrace => "expected `,` or `\x7d`"
  | .expectedCommaOrBracket => "expected `,` or `]`"
  | .trailingComma => "trailing comma"
  | .keyNotString => "key must be a string"
  | .invalidNumber => "invalid number"
  | .numberOutOfRange => "number out of range"
  | .invalidEscape => "invalid escape"
  | .controlCharacter => "control character (\\u0000-\\u001F) found while parsing a string"
  | .loneSurrogate => "lone leading surrogate in hex escape"
  | .unfinishedSurrogate => "unexpected end of hex escape"
  | .trailingCharacters => "trailing characters"
  | .tooDeep => "recursion limit exceeded"

/-- What a reader found in place of what it expected. -/
inductive Found where
  | null
  | bool (value : Bool)
  | number (value : Number)
  | string (value : String)
  | sequence
  | map
deriving DecidableEq, Repr, Inhabited

def Found.text : Found → String
  | .null => "null"
  | .bool b => s!"boolean `{b}`"
  | .number (.int i) => s!"integer `{String.ofList (decimalInt i)}`"
  | .number (.float x) => s!"floating point `{String.ofList x.text}`"
  | .string s => s!"string {Text.quoted s}"
  | .sequence => "sequence"
  | .map => "map"

/-- Why a reading failed. -/
inductive ReadError where
  | malformed (fault : TextFault)
  /-- A value of another kind. -/
  | wrongKind (found : Found) (expected : String)
  /-- A whole number out of range. -/
  | outOfRange (value : Int) (expected : String)
  /-- An enumerated name given as an object without exactly one member. -/
  | notSingleKey
  | unknownName (name : String) (known : List String)
  /-- A record given as a list of the wrong length. -/
  | wrongLength (length : Nat) (expected : String)
  | missing (field : String)
  | duplicate (field : String)
deriving DecidableEq, Repr, Inhabited

def ReadError.message : ReadError → String
  | .malformed fault => fault.message
  | .wrongKind found expected => s!"invalid type: {found.text}, expected {expected}"
  | .outOfRange value expected =>
    s!"invalid value: {(Found.number (.int value)).text}, expected {expected}"
  | .notSingleKey => "invalid value: map, expected map with a single key"
  | .unknownName name known =>
    s!"unknown variant `{name}`, expected one of "
      ++ ", ".intercalate (known.map fun k => s!"`{k}`")
  | .wrongLength length expected => s!"invalid length {length}, expected {expected}"
  | .missing field => s!"missing field `{field}`"
  | .duplicate field => s!"duplicate field `{field}`"

end FrameTree.Json

import FrameTree.Json.Scanner

/-!
# Reading JSON

A value is read in one of two ways.

**In place** (`Node.read…`): the text is taken in its own order, and the first thing wrong with it
is the answer, whether it is a fault of the text or of the shape. Lists and objects may nest
`nestingRoom` deep; each reader is told how much room is left.

**From a value** (`Json.read…`): the whole text is parsed first (`Json.parse`), and then the value
is read, its objects by increasing names.

**Records** (`Field`) are read alike in both ways. A record is an object whose unknown members are
passed over, or a list with the fields in their order, the last of which may be left out. A field
that is left out keeps its value in the blank record, unless it is required.

**Enumerations** (`Coded`) are written as one of their codes, or as an object with the code as its
only name and `null` as the value.
-/

namespace FrameTree.Json

abbrev Reading := Except ReadError

/-- The number of lists and objects that may be open at once. -/
def nestingRoom : Nat := 127

/-- Fails on a fault of the text. -/
def orFault : Option TextFault → Reading Unit
  | none => .ok ()
  | some fault => .error (.malformed fault)

/-- Something decoded from the text. -/
def decoded {α : Type} : Except TextFault α → Reading α
  | .ok a => .ok a
  | .error fault => .error (.malformed fault)

/-! ## Records -/

/-- A field of a record `ρ` that is read from `σ`. -/
structure Field (σ ρ : Type) where
  name : String
  required : Bool
  /-- The record with the field read. -/
  read : σ → ρ → Reading ρ

namespace Field

variable {σ ρ α : Type}

/-- A field that may be left out. -/
def optional (name : String) (read : σ → Reading α) (set : α → ρ → ρ) : Field σ ρ :=
  ⟨name, false, fun s r => (read s).map (set · r)⟩

/-- A field that has to be there. -/
def mandatory (name : String) (read : σ → Reading α) (set : α → ρ → ρ) : Field σ ρ :=
  ⟨name, true, fun s r => (read s).map (set · r)⟩

/-- The field of a name. -/
def find? (fields : List (Field σ ρ)) (name : String) : Option (Field σ ρ) :=
  fields.find? (·.name == name)

/-- No required field is missing among those that were given. -/
def checkGiven (fields : List (Field σ ρ)) (given : List String) : Reading Unit :=
  match fields.find? fun f => f.required && !given.contains f.name with
  | some f => .error (.missing f.name)
  | none => .ok ()

/-- What a record given as a list should be. -/
def expectation (record : String) (fields : List (Field σ ρ)) : String :=
  s!"struct {record} with {fields.length} element" ++ (if fields.length == 1 then "" else "s")

/-- Reads the fields from a list in their order. Gives the record and the items left over. -/
def readItems (record : String) (all : List (Field σ ρ)) :
    List (Field σ ρ) → List σ → ρ → Reading (ρ × List σ)
  | [], items, r => .ok (r, items)
  | f :: fs, [], r =>
    match (f :: fs).findIdx? (·.required) with
    | some i => .error (.wrongLength (all.length - (fs.length + 1) + i) (expectation record all))
    | none => .ok (r, [])
  | f :: fs, s :: items, r => do readItems record all fs items (← f.read s r)

end Field

/-! ## Enumerations -/

/-- A type whose values are written as codes. -/
class Coded (α : Type) where
  all : List α
  code : α → String

/-- The value of a code. -/
def ofCode {α : Type} [Coded α] (code : String) : Reading α :=
  match (Coded.all : List α).find? (Coded.code · == code) with
  | some a => .ok a
  | none => .error (.unknownName code ((Coded.all : List α).map Coded.code))

/-! ## Ranges -/

/-- The whole numbers of 32 bits with sign. -/
def toInt32 (n : Number) : Reading Int32 :=
  match n with
  | .int i =>
    if -2147483648 ≤ i && i ≤ 2147483647 then .ok (Int32.ofInt i)
    else .error (.outOfRange i "i32")
  | .float _ => .error (.wrongKind (.number n) "i32")

/-- The naturals of 64 bits. -/
def toIndex (n : Number) : Reading Nat :=
  match n with
  | .int i =>
    if 0 ≤ i && i ≤ 18446744073709551615 then .ok i.toNat
    else .error (.outOfRange i "usize")
  | .float _ => .error (.wrongKind (.number n) "usize")

/-! ## In place -/

namespace Node

variable {α ρ : Type}

/-- What stands here, for a message. -/
def found : Node → Reading Found
  | .null => .ok .null
  | .bool b => .ok (.bool b)
  | .number n => (decoded n.value).map .number
  | .string l => (decoded l.text).map .string
  | .array _ _ => .ok .sequence
  | .object _ _ | .keyless => .ok .map
  | .brokenWord atEnd => .error (.malformed (if atEnd then .endInValue else .brokenWord))
  | .brokenNumber atEnd => .error (.malformed (if atEnd then .endInValue else .invalidNumber))
  | .blocked fault => .error (.malformed fault)

/-- Something else was expected here. -/
def refuse (expected : String) (n : Node) : Reading α := do
  throw (.wrongKind (← n.found) expected)

def readString : Node → Reading String
  | .string l => decoded l.text
  | n => n.refuse "a string"

/-- A string, or `null` for none. -/
def readString? : Node → Reading (Option String)
  | .null => .ok none
  | n => n.readString.map some

def readBool : Node → Reading Bool
  | .bool b => .ok b
  | n => n.refuse "a boolean"

def readInt32 : Node → Reading Int32
  | .number n => decoded n.value >>= toInt32
  | n => n.refuse "i32"

def readIndex : Node → Reading Nat
  | .number n => decoded n.value >>= toIndex
  | n => n.refuse "usize"

def readNull : Node → Reading Unit
  | .null => .ok ()
  | n => n.refuse "unit"

/-- Opening a list or an object takes room. -/
def takeRoom (room : Nat) : Reading Unit :=
  if room = 0 then .error (.malformed .tooDeep) else .ok ()

/-- A list of items, each of them with less room. -/
def readList (room : Nat) (item : Node → Reading α) : Node → Reading (List α)
  | .array items stop => do
    takeRoom room
    let xs ← items.mapM item
    orFault stop.listFault?
    return xs
  | n => n.refuse "a sequence"

/-- Reads the members of a record; also gives the names of the fields that were there. -/
def readMembers (fields : List (Field Node ρ)) :
    List (Literal × Node) → List String → ρ → Reading (ρ × List String)
  | [], given, r => .ok (r, given)
  | (l, n) :: ms, given, r => do
    let name ← decoded l.text
    match Field.find? fields name with
    | none =>
      orFault n.passFault?
      readMembers fields ms given r
    | some f =>
      if given.contains name then throw (.duplicate name)
      readMembers fields ms (name :: given) (← f.read n r)

/-- A record. The fields are read with less room. -/
def readRecord (record : String) (room : Nat) (blank : ρ) (fields : List (Field Node ρ)) :
    Node → Reading ρ
  | .object members stop => do
    takeRoom room
    let (r, given) ← readMembers fields members [] blank
    orFault stop.objectFault?
    Field.checkGiven fields given
    return r
  | .keyless => do
    takeRoom room
    throw (.malformed .keyNotString)
  | .array items stop => do
    takeRoom room
    match ← listRecord items stop with
    | (r, []) =>
      orFault stop.fullListFault?
      return r
    | (_, _ :: _) => throw (.malformed .trailingCharacters)
  | n => n.refuse s!"struct {record}"
where
  /-- The fields of a record given as a list. A field that is left out needs the list to be closed.
  -/
  listRecord (items : List Node) (stop : Stop) : Reading (ρ × List Node) := do
    if items.length < fields.length then
      let (r, rest) ← Field.readItems record fields (fields.take items.length) items blank
      orFault stop.listFault?
      let (r, _) ← Field.readItems record fields (fields.drop items.length) [] r
      return (r, rest)
    else
      Field.readItems record fields fields items blank

/-- One of the codes of an enumeration. -/
def readCode [Coded α] (room : Nat) : Node → Reading α
  | .string l => do ofCode (← decoded l.text)
  | .object [] stop => do
    takeRoom room
    throw (.malformed (if stop = .endOfText then .endInObject else .expectedValue))
  | .object ((l, n) :: ms) stop => do
    takeRoom room
    let a ← ofCode (← decoded l.text)
    n.readNull
    match ms, stop with
    | [], .closed => return a
    | [], .endOfText => throw (.malformed .endInObject)
    | _, _ => throw (.malformed .expectedValue)
  | .keyless => do
    takeRoom room
    throw (.malformed .keyNotString)
  | .blocked fault => throw (.malformed fault)
  | _ => throw (.malformed .expectedValue)

/-- What a reader makes of a whole text. -/
def readText (read : Node → Reading α) (text : String) : Reading α := do
  let (n, rest) := scan text
  let a ← read n
  match rest with
  | some rest =>
    if (skipBlanks rest).isEmpty then return a else throw (.malformed .trailingCharacters)
  | none => throw (.malformed .trailingCharacters)

/-! ## Any value -/

mutual

/-- Any value, its objects canonical. -/
def readAny (room : Nat) : Node → Reading Json
  | .null => .ok .null
  | .bool b => .ok (.bool b)
  | .number n => (decoded n.value).map .number
  | .string l => (decoded l.text).map .string
  | .array items stop => do
    takeRoom room
    let xs ← readAnyItems (room - 1) items
    orFault stop.listFault?
    return .array xs
  | .object members stop => do
    takeRoom room
    let ms ← readAnyMembers (room - 1) members
    orFault stop.objectFault?
    return object' ms
  | .keyless => do
    takeRoom room
    throw (.malformed .keyNotString)
  | .brokenWord atEnd => .error (.malformed (if atEnd then .endInValue else .brokenWord))
  | .brokenNumber atEnd => .error (.malformed (if atEnd then .endInValue else .invalidNumber))
  | .blocked fault => .error (.malformed fault)

def readAnyItems (room : Nat) : List Node → Reading (List Json)
  | [] => .ok []
  | n :: ns => do
    let x ← readAny room n
    let xs ← readAnyItems room ns
    return x :: xs

def readAnyMembers (room : Nat) : List (Literal × Node) → Reading (List (String × Json))
  | [] => .ok []
  | (l, n) :: ms => do
    let name ← decoded l.text
    let x ← readAny room n
    let xs ← readAnyMembers room ms
    return (name, x) :: xs

end

end Node

/-- The value that a text writes. -/
def parse (text : String) : Reading Json := Node.readText (Node.readAny nestingRoom) text

/-! ## From a value -/

variable {α ρ : Type}

/-- What a value is, for a message. -/
def found : Json → Found
  | .null => .null
  | .bool b => .bool b
  | .number n => .number n
  | .string s => .string s
  | .array _ => .sequence
  | .object _ => .map

/-- Something else was expected. -/
def refuse (expected : String) (j : Json) : Reading α := .error (.wrongKind j.found expected)

def readString : Json → Reading String
  | .string s => .ok s
  | j => j.refuse "a string"

def readBool : Json → Reading Bool
  | .bool b => .ok b
  | j => j.refuse "a boolean"

def readInt32 : Json → Reading Int32
  | .number n => toInt32 n
  | j => j.refuse "i32"

def readIndex : Json → Reading Nat
  | .number n => toIndex n
  | j => j.refuse "usize"

def readNull : Json → Reading Unit
  | .null => .ok ()
  | j => j.refuse "unit"

def readList (item : Json → Reading α) : Json → Reading (List α)
  | .array items => items.mapM item
  | j => j.refuse "a sequence"

/-- Reads the members of a record; also gives the names of the fields that were there. -/
def readMembers (fields : List (Field Json ρ)) :
    List (String × Json) → List String → ρ → Reading (ρ × List String)
  | [], given, r => .ok (r, given)
  | (name, j) :: ms, given, r =>
    match Field.find? fields name with
    | none => readMembers fields ms given r
    | some f => do readMembers fields ms (name :: given) (← f.read j r)

def readRecord (record : String) (blank : ρ) (fields : List (Field Json ρ)) : Json → Reading ρ
  | .object members => do
    let (r, given) ← readMembers fields members [] blank
    Field.checkGiven fields given
    return r
  | .array items => do
    match ← Field.readItems record fields fields items blank with
    | (r, []) => return r
    | (_, _ :: _) => throw (.wrongLength items.length "fewer elements in array")
  | j => j.refuse s!"struct {record}"

/-- One of the codes of an enumeration. -/
def readCode [Coded α] : Json → Reading α
  | .string s => ofCode s
  | .object [(code, j)] => do
    let a ← ofCode code
    j.readNull
    return a
  | .object _ => throw .notSingleKey
  | j => j.refuse "string or map"

end FrameTree.Json

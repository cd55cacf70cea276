import FrameTree.Json.Printer
import FrameTree.Pattern.Parser
import FrameTree.Schema.Reference

/-!
# Schemas that are not schemas

A schema is a boolean or an object whose known keywords have the right kind of value. Nested schemas
are looked at before the plain keywords beside them, and the definitions first of all; the first
thing wrong is reported, in the words that the schema of schemas would use (`defect?`).

A pattern has to be readable, and a reference has to lead to a schema in the same document. That
is looked at for the schemas that are used only, in the order in which they are met (`unmet?`).
-/

namespace FrameTree.Schema

/-- A value inside a message. -/
def shown (j : Json) : String := j.compact

/-- The message for a value that is not of a type. -/
def notOfType (j : Json) (type : String) : String :=
  s!"{shown j} is not of type {shown (.string type)}"

/-- The message for a value that is valid under none of several schemas. -/
def noneOf (j : Json) (keyword : String) : String :=
  s!"{shown j} is not valid under any of the schemas listed in the '{keyword}' keyword"

/-- The message for a value that stands where a schema should. -/
def notSchema (j : Json) : String := s!"{shown j} is not of types \"boolean\", \"object\""

/-- Booleans and objects can be schemas. -/
def isSchema : Json → Bool
  | .bool _ | .object _ => true
  | _ => false

/-! ## Kinds of keywords -/

/-- The type names. -/
def typeNames : List String := ["array", "boolean", "integer", "null", "number", "object", "string"]

/-- The keywords whose value is a schema. -/
def schemaKeywords : List String := ["additionalProperties", "items", "not"]

/-- The keywords whose value is a list of schemas. -/
def listKeywords : List String := ["allOf", "anyOf", "oneOf"]

/-- The keywords whose value is an object of schemas. -/
def mapKeywords : List String := ["$defs", "properties"]

/-- The keywords that bound a size. -/
def sizeKeywords : List String :=
  ["maxItems", "maxLength", "maxProperties", "minItems", "minLength", "minProperties"]

/-- The keywords that bound a number. -/
def boundKeywords : List String := ["exclusiveMaximum", "exclusiveMinimum", "maximum", "minimum"]

/-- The order in which keywords are looked at: definitions, nested schemas, plain keywords. -/
def rank (keyword : String) : Nat :=
  if keyword == "$defs" then 0
  else if keyword == "$ref" then 1
  else if (schemaKeywords ++ listKeywords ++ mapKeywords).contains keyword then 2
  else 3

/-! ## Plain keywords -/

def isTypeName : Json → Bool
  | .string s => typeNames.contains s
  | _ => false

/-- No two items are the same. -/
def allDistinct : List Json → Bool
  | [] => true
  | x :: xs => !(xs.any x.same) && allDistinct xs

/-- The defect of a list of distinct strings. -/
def stringListDefect? : Json → Option String
  | .array items =>
    match items.find? fun j => !(j matches .string _) with
    | some j => some (notOfType j "string")
    | none =>
      if allDistinct items then none else some s!"{shown (.array items)} has non-unique elements"
  | j => some (notOfType j "array")

/-- The defect of a size. -/
def sizeDefect? : Json → Option String
  | .number n =>
    if n.compare (.int 0) == .lt then some s!"{shown (.number n)} is less than the minimum of 0"
    else if n.isWhole then none
    else some (notOfType (.number n) "integer")
  | j => some (notOfType j "integer")

/-- The defect of the value of a plain keyword. -/
def plainDefect? (keyword : String) (j : Json) : Option String :=
  if keyword == "type" then
    match j with
    | .string _ => if isTypeName j then none else some (noneOf j "anyOf")
    | .array items =>
      if items.all isTypeName && !items.isEmpty && allDistinct items then none
      else some (noneOf j "anyOf")
    | _ => some (noneOf j "anyOf")
  else if keyword == "required" then stringListDefect? j
  else if sizeKeywords.contains keyword then sizeDefect? j
  else if boundKeywords.contains keyword then
    match j with
    | .number _ => none
    | _ => some (notOfType j "number")
  else if keyword == "enum" then
    match j with
    | .array _ => none
    | _ => some (notOfType j "array")
  else if keyword == "pattern" || keyword == "$ref" then
    match j with
    | .string _ => none
    | _ => some (notOfType j "string")
  else if keyword == "uniqueItems" then
    match j with
    | .bool _ => none
    | _ => some (notOfType j "boolean")
  else none

/-! ## Whole schemas -/

/-- The defect of the least rank, the first of several. -/
def leastRank : List (Nat × String) → Option (Nat × String)
  | [] => none
  | d :: ds =>
    match leastRank ds with
    | some e => if e.1 < d.1 then some e else some d
    | none => some d

mutual

/-- The first defect of a schema. -/
def defect? : Json → Option String
  | .bool _ => none
  | .object ms => (leastRank (keywordDefects ms)).map Prod.snd
  | j => some (notSchema j)

/-- The defects of keywords, at most one of each, with their ranks. -/
def keywordDefects : List (String × Json) → List (Nat × String)
  | [] => []
  | (keyword, j) :: ms =>
    let found :=
      if schemaKeywords.contains keyword then defect? j
      else if listKeywords.contains keyword then listDefect? j
      else if mapKeywords.contains keyword then mapDefect? j
      else plainDefect? keyword j
    match found with
    | some message => (rank keyword, message) :: keywordDefects ms
    | none => keywordDefects ms

/-- The defect of a list of schemas. -/
def listDefect? : Json → Option String
  | .array [] => some s!"{shown (.array [])} has less than 1 item"
  | .array items => firstDefect? items
  | j => some (notOfType j "array")

/-- The defect of an object of schemas. -/
def mapDefect? : Json → Option String
  | .object ms => firstMemberDefect? ms
  | j => some (notOfType j "object")

def firstDefect? : List Json → Option String
  | [] => none
  | j :: js => (defect? j).or (firstDefect? js)

def firstMemberDefect? : List (String × Json) → Option String
  | [] => none
  | (_, j) :: ms => (defect? j).or (firstMemberDefect? ms)

end

/-! ## Demands -/

/-- What a schema needs besides its keywords being in order. -/
inductive Demand where
  /-- The reference leads to a schema. -/
  | reference (text : String)
  /-- The pattern can be read. -/
  | pattern (text : String)
deriving DecidableEq, Repr, Inhabited

/-- The demand of a plain keyword. -/
def plainDemand? (keyword : String) : Json → Option Demand
  | .string text =>
    if keyword == "$ref" then some (.reference text)
    else if keyword == "pattern" then some (.pattern text)
    else none
  | _ => none

mutual

/-- The demands of a schema and of the schemas inside it, definitions left out. -/
def demands : Json → List Demand
  | .object ms => memberDemands ms
  | _ => []

def memberDemands : List (String × Json) → List Demand
  | [] => []
  | (keyword, j) :: ms =>
    (if schemaKeywords.contains keyword then demands j
      else if listKeywords.contains keyword then
        match j with
        | .array items => itemDemands items
        | _ => []
      else if keyword == "properties" then
        match j with
        | .object inner => innerDemands inner
        | _ => []
      else (plainDemand? keyword j).toList) ++ memberDemands ms

def itemDemands : List Json → List Demand
  | [] => []
  | j :: js => demands j ++ itemDemands js

def innerDemands : List (String × Json) → List Demand
  | [] => []
  | (_, j) :: ms => demands j ++ innerDemands ms

end

/-- The message of the first demand that is not met, following the references that lead somewhere.
Each one is followed once, so as many steps are needed as the used schemas have demands. -/
def unmet? (root : Json) : (steps : Nat) → (pending : List Demand) → (followed : List String) →
    Option String
  | 0, _, _ => none
  | _ + 1, [], _ => none
  | steps + 1, .pattern text :: pending, followed =>
    if (Pattern.parse? text).isSome then unmet? root steps pending followed
    else some s!"{shown (.string text)} is not a \"regex\""
  | steps + 1, .reference text :: pending, followed =>
    if followed.contains text then unmet? root steps pending followed
    else
      match resolve root text with
      | .error fault => some fault.message
      | .ok target =>
        if isSchema target then unmet? root steps (demands target ++ pending) (text :: followed)
        else some (notSchema target)

end FrameTree.Schema

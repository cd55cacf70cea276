import FrameTree.Pattern.Search
import FrameTree.Schema.Defect
import FrameTree.SchemaStore

/-!
# Checking values against a schema

The checker that the program runs with. It knows a part of the keywords of JSON Schema: `type`,
`enum`, `const`, those that bound a size or a number, `pattern`, `uniqueItems`, `required`,
`properties`, `additionalProperties`, `items`, `allOf`, `anyOf`, `oneOf`, `not`, and `$ref` within
the same document. What holds of every checker is stated of every checker, not of this one.

**Keywords.** The keywords of a schema are applied in the order of their names, and every violation
is listed. A keyword does not apply to a value of another type, and all other keywords are skipped.
When additional properties are restricted, the properties are checked in the same place as the
additional ones.

**Termination.** A schema can refer to itself, so the check has an allowance of steps: more than
that can only be used up by going round in a circle of references.
-/

namespace FrameTree

namespace Schema

/-! ## Plain keywords -/

/-- The value has the type. -/
def hasType (type : String) : Json → Bool
  | .null => type == "null"
  | .bool _ => type == "boolean"
  | .number n => type == "number" || (type == "integer" && n.isWhole)
  | .string _ => type == "string"
  | .array _ => type == "array"
  | .object _ => type == "object"

/-- The largest size. -/
def maxSize : Nat := 18446744073709551615

/-- A size written as a number; one that is too large is taken for the largest. -/
def sizeOf? : Json → Option Nat
  | .number n =>
    let (k, d) := n.toRatio
    if 0 ≤ k then some (min (k.toNat / d) maxSize) else none
  | _ => none

/-- A number of things, in words. -/
def counted (n : Nat) (one many : String) : String :=
  String.ofList (Json.decimal n) ++ " " ++ if n == 1 then one else many

/-- The message of the keyword `type`. -/
def typeMessage? (types j : Json) : Option String :=
  match types with
  | .string t => if hasType t j then none else some (notOfType j t)
  | .array [.string t] => if hasType t j then none else some (notOfType j t)
  | .array ts =>
    let names := typeNames.filter fun t => ts.any fun x => x.same (.string t)
    if names.any (hasType · j) then none
    else
      let listed := ", ".intercalate (names.map fun t => shown (.string t))
      some s!"{shown j} is not of types {listed}"
  | _ => none

/-- The message of a keyword that bounds a size from below. -/
def atLeast? (limit : Json) (size : Nat) (j : Json) (verb one many : String) : Option String :=
  match sizeOf? limit with
  | some n => if n ≤ size then none else some s!"{shown j} {verb} {counted n one many}"
  | none => none

/-- The message of a keyword that bounds a size from above. -/
def atMost? (limit : Json) (size : Nat) (j : Json) (verb one many : String) : Option String :=
  match sizeOf? limit with
  | some n => if size ≤ n then none else some s!"{shown j} {verb} {counted n one many}"
  | none => none

/-- The message of a keyword that bounds a number, given the order that breaks the bound and the
words for it. -/
def bounded? (limit : Json) (n : Json.Number) (broken : Ordering → Bool) (words : String) :
    Option String :=
  match limit with
  | .number m =>
    if broken (n.compare m) then some s!"{shown (.number n)} is {words} of {shown limit}" else none
  | _ => none

/-- A value is a constant. Numbers are compared as doubles, and need not be quite the same; those
inside of other values are compared exactly. -/
def isConstant : (constant j : Json) → Bool
  | .number a, .number b => a.toBinary64.isNear b.toBinary64
  | constant, j => j.same constant

/-- The message of a pattern that does not occur in a text. -/
def patternMessage? (pattern text : String) : Option String := do
  match (← Pattern.parse? pattern).search text with
  | .occurs => none
  | .absent => some s!"{shown (.string text)} does not match \"{pattern}\""
  | .unknown => some "Error executing regex: Max limit for backtracking count exceeded"

/-- The message of a keyword that holds no schema, if the value violates it. -/
def plainMessage? (keyword : String) (value j : Json) : Option String :=
  match keyword, j with
  | "type", j => typeMessage? value j
  | "enum", j =>
    match value with
    | .array options =>
      if options.any j.same then none else some s!"{shown j} is not one of {shown value}"
    | _ => none
  | "const", j => if isConstant value j then none else some s!"{shown value} was expected"
  | "minLength", .string s => atLeast? value s.length j "is shorter than" "character" "characters"
  | "maxLength", .string s => atMost? value s.length j "is longer than" "character" "characters"
  | "pattern", .string s =>
    match value with
    | .string pattern => patternMessage? pattern s
    | _ => none
  | "minItems", .array xs => atLeast? value xs.length j "has less than" "item" "items"
  | "maxItems", .array xs => atMost? value xs.length j "has more than" "item" "items"
  | "uniqueItems", .array xs =>
    if value.same (.bool true) && !allDistinct xs then
      some s!"{shown j} has non-unique elements"
    else none
  | "minProperties", .object ms =>
    atLeast? value ms.length j "has less than" "property" "properties"
  | "maxProperties", .object ms =>
    atMost? value ms.length j "has more than" "property" "properties"
  | "minimum", .number n => bounded? value n (· == .lt) "less than the minimum"
  | "maximum", .number n => bounded? value n (· == .gt) "greater than the maximum"
  | "exclusiveMinimum", .number n =>
    bounded? value n (· != .gt) "less than or equal to the minimum"
  | "exclusiveMaximum", .number n =>
    bounded? value n (· != .lt) "greater than or equal to the maximum"
  | _, _ => none

/-- The message for properties that are not allowed. -/
def unexpected (names : List String) : String :=
  let listed := ", ".intercalate (names.map fun n => s!"'{n}'")
  let verb := if names.length == 1 then "was" else "were"
  s!"Additional properties are not allowed ({listed} {verb} unexpected)"

/-- The message for a value that is valid under several schemas. -/
def severalOf (j : Json) (keyword : String) : String :=
  s!"{shown j} is valid under more than one of the schemas listed in the '{keyword}' keyword"

/-- The names of the required properties that an object lacks. -/
def lacking (value : Json) (members : List (String × Json)) : List Json :=
  match value with
  | .array names => names.filter fun n =>
    match n with
    | .string s => (members.lookup s).isNone
    | _ => false
  | _ => []

/-! ## All keywords -/

/-- The violations of one schema by one value, both with their paths. -/
def violations (root : Json) : (steps : Nat) → (schema j : Json) → (path : List String) →
    List Violation
  | 0, _, _, _ => []
  | _ + 1, .bool false, j, path => [⟨path, s!"False schema does not allow {shown j}"⟩]
  | steps + 1, .object keywords, j, path =>
    let inside (schema part : Json) (step : String) : List Violation :=
      violations root steps schema part (path ++ [step])
    let holds (schema : Json) : Bool := (violations root steps schema j path).isEmpty
    keywords.flatMap fun (keyword, value) =>
      match keyword, value, j with
      | "$ref", .string reference, j =>
        match resolve root reference with
        | .ok target => violations root steps target j path
        | .error _ => []
      | "allOf", .array schemas, j => schemas.flatMap fun s => violations root steps s j path
      | "anyOf", .array schemas, j => if schemas.any holds then [] else [⟨path, noneOf j "anyOf"⟩]
      | "oneOf", .array schemas, j =>
        match (schemas.filter holds).length with
        | 0 => [⟨path, noneOf j "oneOf"⟩]
        | 1 => []
        | _ => [⟨path, severalOf j "oneOf"⟩]
      | "not", schema, j =>
        if holds schema then [⟨path, s!"{shown schema} is not allowed for {shown j}"⟩] else []
      | "items", schema, .array items =>
        items.zipIdx.flatMap fun (item, i) => inside schema item (String.ofList (Json.decimal i))
      | "required", names, .object members =>
        (lacking names members).map fun n => ⟨path, s!"{shown n} is a required property"⟩
      | "properties", .object schemas, .object members =>
        match keywords.lookup "additionalProperties" with
        | some (.bool false) | some (.object _) => []
        | _ =>
          schemas.flatMap fun (name, schema) =>
            match members.lookup name with
            | some part => inside schema part name
            | none => []
      | "additionalProperties", .bool false, .object members =>
        match keywords.lookup "properties" with
        | some (.object schemas) =>
          let known := members.flatMap fun (name, part) =>
            match schemas.lookup name with
            | some schema => inside schema part name
            | none => []
          let extra := members.filter fun (name, _) => (schemas.lookup name).isNone
          known ++ if extra.isEmpty then [] else [⟨path, unexpected (extra.map Prod.fst)⟩]
        | _ =>
          match members with
          | [] => []
          | (_, part) :: _ => [⟨path, s!"False schema does not allow {shown part}"⟩]
      | "additionalProperties", .object extra, .object members =>
        members.flatMap fun (name, part) =>
          match keywords.lookup "properties" with
          | some (.object schemas) => inside ((schemas.lookup name).getD (.object extra)) part name
          | _ => inside (.object extra) part name
      | keyword, value, j =>
        match plainMessage? keyword value j with
        | some message => [⟨path, message⟩]
        | none => []
  | _ + 1, _, _, _ => []

mutual

/-- The number of values inside a value, itself included. -/
def weight : Json → Nat
  | .array xs => 1 + itemsWeight xs
  | .object ms => 1 + membersWeight ms
  | _ => 1

def itemsWeight : List Json → Nat
  | [] => 0
  | x :: xs => weight x + itemsWeight xs

def membersWeight : List (String × Json) → Nat
  | [] => 0
  | (_, x) :: ms => weight x + membersWeight ms

end

/-- The violations of a schema by a document, or what is wrong with the schema. -/
def check : Checker := fun schema document =>
  match defect? schema with
  | some message => .error message
  | none =>
    match unmet? schema ((weight schema + 1) * (weight schema + 1)) (demands schema) [] with
    | some message => .error message
    | none =>
      .ok (violations schema ((weight schema + 1) * (weight document + 1)) schema document [])

end Schema

/-- Judges documents with this check. -/
def SchemaStore.validator (schemas : SchemaStore) (files : FileView) : Validator :=
  schemas.validatorWith Schema.check files

end FrameTree

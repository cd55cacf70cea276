import FrameTree.Json.Error

/-!
# Errors

What can go wrong between a document and a frame. Every error has one wording, and none depends on
an id that was issued.
-/

namespace FrameTree

/-- The owner of a data entry, named by a message. -/
inductive Owner where
  | block (key : String)
  | trigger (name : String)
deriving DecidableEq, Repr, Inhabited

def Owner.text : Owner → String
  | .block key => s!"{key} block"
  | .trigger name => s!"{name} trigger"

inductive Error where
  | missingSchema
  | schemaUnavailable (reference : String)
  | invalidSchema (reference message : String)
  /-- A block in a slot that its parent does not declare. -/
  | invalidSlot (key slot : String)
  /-- A data entry whose value is no variable. -/
  | unresolvedVariable (owner : Owner) (key value : String)
  /-- A trigger that ends its chain and has triggers below it. -/
  | invalidChain (name : String)
  | duplicateKeys (keys : List String)
  /-- A first block that is not of the kind reserved for roots. -/
  | invalidRoot (keyType expected : String)
  | depthExceeded (limit : Nat)
  | unreadable (reason : Json.ReadError)
  | inaccessible (path message : String)
deriving DecidableEq, Repr, Inhabited

def Error.message : Error → String
  | .missingSchema => "Please provide $schema for the json file"
  | .schemaUnavailable reference => s!"Schema '{reference}' could not be resolved"
  | .invalidSchema reference message =>
    s!"Schema '{reference}' is not a valid JSON Schema: {message}"
  | .invalidSlot key slot =>
    s!"The {key} block is used in slot '{slot}', which its parent does not declare"
  | .unresolvedVariable owner key value =>
    s!"No matching variable found for {owner.text} in data entry with key '{key}': "
      ++ s!"'{value}' is not a declared variable"
  | .invalidChain name =>
    s!"The {name} trigger can not have sub-triggers because it is defined with \"END\" then"
  | .duplicateKeys keys => "Duplicate block keys found: " ++ ",".intercalate keys
  | .invalidRoot keyType expected =>
    s!"First block's keyType must be '{expected}', found '{keyType}'"
  | .depthExceeded limit => s!"Frame nesting exceeds the maximum depth of {limit}"
  | .unreadable reason => s!"Failed to parse frame JSON: {reason.message}"
  | .inaccessible path message => s!"Could not access '{path}': {message}"

/-- Reading as part of a larger task. -/
def Json.Reading.orError {α : Type} : Except Json.ReadError α → Except Error α
  | .ok a => .ok a
  | .error reason => .error (.unreadable reason)

end FrameTree

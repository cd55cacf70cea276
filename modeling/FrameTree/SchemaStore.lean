import FrameTree.FileStore
import FrameTree.Flatten
import FrameTree.Schema.Violation

/-!
# Finding schemas

A schema is looked up among those that were loaded beforehand. Any other reference has to name a
file, as a path or as a `file://` address; nothing is fetched from elsewhere.
-/

namespace FrameTree

/-- The schemas loaded beforehand, by their references. -/
abbrev SchemaStore := List (String × Json)

namespace SchemaStore

/-- The path that a reference names. -/
def pathOf (reference : String) : String :=
  let mark := "file://".toList
  let cs := reference.toList
  if cs.take mark.length == mark then String.ofList (cs.drop mark.length) else reference

/-- The schema of a reference. -/
def find (schemas : SchemaStore) (files : FileView) (reference : String) : Except Error Json :=
  match schemas.lookup reference with
  | some schema => .ok schema
  | none =>
    let path := pathOf reference
    if files.isFile path then do
      match Json.parse (← files.load path) with
      | .ok schema => return schema
      | .error reason => throw (.invalidSchema reference reason.message)
    else .error (.schemaUnavailable reference)

/-- Judges documents by the schemas of a store and of files. -/
def validatorWith (check : Schema.Checker) (schemas : SchemaStore) (files : FileView) :
    Validator := fun document reference => do
  let schema ← schemas.find files reference
  match check schema document with
  | .error message => throw (.invalidSchema reference message)
  | .ok [] => return .valid
  | .ok violations => return .invalid (violations.map (·.text))

end SchemaStore

end FrameTree

import FrameTree.Json.Value

/-!
# Violations of a schema

Checking a value against a schema is left to a library for it. Such a library refuses what is not a
schema, with a message, and lists the violations of a schema by a value (`Schema.Checker`). It is a
parameter of all that depends on it.

**Violations** carry the path from the document to the value in question.
-/

namespace FrameTree.Schema

/-- Something wrong with the value at a path. -/
structure Violation where
  path : List String
  message : String
deriving DecidableEq, Repr, Inhabited

/-- A step of a path as a pointer writes it. -/
def escapeStep (step : String) : String :=
  String.ofList <| step.toList.flatMap fun c =>
    if c == '~' then ['~', '0'] else if c == '/' then ['~', '1'] else [c]

def pointerText (path : List String) : String := String.join (path.map fun s => "/" ++ escapeStep s)

/-- The path, a slash for the document itself, and the message. -/
def Violation.text (v : Violation) : String :=
  (if v.path.isEmpty then "/" else pointerText v.path) ++ ": " ++ v.message

/-- The violations of a schema by a value, or what is wrong with the schema. -/
abbrev Checker := (schema value : Json) → Except String (List Violation)

end FrameTree.Schema

import FrameTree.Json.Reader

/-!
# Enumerated kinds

The kind of a frame, the type of a variable and the mode of a trigger are written as upper-case
codes. The first constructor of each is the default.
-/

namespace FrameTree

/-- How a frame is presented. -/
inductive FrameKind where
  | frame
  | bottomSheet
  | dialog
deriving DecidableEq, Repr, Inhabited

/-- The declared type of a variable, whose value is always carried as text. -/
inductive VariableKind where
  | string
  | int
  | long
  | double
  | float
  | boolean
deriving DecidableEq, Repr, Inhabited

/-- When the triggers below a trigger run: next, never, after success or after failure. -/
inductive ThenMode where
  | next
  | finish
  | success
  | failure
deriving DecidableEq, Repr, Inhabited

namespace FrameKind

def code : FrameKind → String
  | .frame => "FRAME"
  | .bottomSheet => "BOTTOM_SHEET"
  | .dialog => "DIALOG"

instance : Json.Coded FrameKind := ⟨[.frame, .bottomSheet, .dialog], code⟩

end FrameKind

namespace VariableKind

def code : VariableKind → String
  | .string => "STRING"
  | .int => "INT"
  | .long => "LONG"
  | .double => "DOUBLE"
  | .float => "FLOAT"
  | .boolean => "BOOLEAN"

instance : Json.Coded VariableKind := ⟨[.string, .int, .long, .double, .float, .boolean], code⟩

end VariableKind

namespace ThenMode

def code : ThenMode → String
  | .next => "NEXT"
  | .finish => "END"
  | .success => "SUCCESS"
  | .failure => "FAILURE"

instance : Json.Coded ThenMode := ⟨[.next, .finish, .success, .failure], code⟩

end ThenMode

end FrameTree

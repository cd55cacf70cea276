import FrameTree.Distinct
import FrameTree.Document
import FrameTree.Error
import FrameTree.Frame
import Std.Data.HashMap

/-!
# Rules of a frame

What has to hold of a frame besides its schema, each rule with the error of its first offender.

- Every data entry names a variable (`checkBindings`).
- A block is placed in a slot that its parent declares, if the parent declares any (`checkSlot`).
- A trigger that ends its chain has no triggers below it (`checkChain`).
- No two blocks have the same key (`checkKeys`).
-/

namespace FrameTree.Rules

/-- Every data entry, given as its key and its value, has the key of a variable as its value. -/
def checkBindings (vars : List String) (owner : Owner) :
    (entries : List (String × String)) → Except Error Unit
  | [] => .ok ()
  | (key, value) :: entries =>
    if vars.contains value then checkBindings vars owner entries
    else .error (.unresolvedVariable owner key value)

/-- The slot is declared, unless none is. -/
def checkSlot (declared : List String) (slot key : String) : Except Error Unit :=
  if declared.isEmpty || declared.contains slot then .ok () else .error (.invalidSlot key slot)

/-- A trigger that ends its chain has nothing below it. -/
def checkChain (mode : ThenMode) (below : Nat) (name : String) : Except Error Unit :=
  if mode = .finish ∧ 0 < below then .error (.invalidChain name) else .ok ()

/-- Counts one more occurrence of a key. -/
def tally (counts : Std.HashMap String Nat) (key : String) : Std.HashMap String Nat :=
  counts.alter key fun count => some (count.getD 0 + 1)

/-- The keys that occur more than once, in the order of their first occurrence. The keys are counted
once, and then looked up. -/
def duplicateKeys (keys : List String) : List String :=
  let counts := keys.foldl tally ∅
  distinct (keys.filter fun k => counts[k]?.any (1 < ·))

/-- No key occurs more than once. -/
def checkKeys (keys : List String) : Except Error Unit :=
  match duplicateKeys keys with
  | [] => .ok ()
  | repeated => .error (.duplicateKeys repeated)

end FrameTree.Rules

import FrameTree.Pattern.Attempt
import FrameTree.Pattern.Places

/-!
# Looking for a pattern in a text

A pattern may occur anywhere in a text. A regular one is followed from all places together, which
always gives an answer; any other is tried from one place after the other.
-/

namespace FrameTree.Pattern

/-- What looking for a pattern has shown. -/
inductive Finding where
  | occurs
  | absent
  /-- The search has used up its budget. -/
  | unknown
deriving DecidableEq, Repr, Inhabited

/-- Looks for a pattern anywhere in a text. -/
def search (p : Pattern) (text : String) : Finding :=
  let cs := text.toList.toArray
  if p.isRegular then if p.reachesFromAnywhere cs then .occurs else .absent
  else
    match (p.attemptFrom cs (List.range (cs.size + 1))).run fullBudget with
    | some (some _, _) => .occurs
    | some (none, _) => .absent
    | none => .unknown

end FrameTree.Pattern

import FrameTree.Document
import FrameTree.Error

/-!
# How deep a document nests

Blocks may nest in blocks up to a limit, and so may triggers in triggers, counted anew under every
action. The check runs before anything descends into the document by recursion, so it keeps the
nodes that are still to be visited in a list and takes them one by one; it ends because their number
of nodes, those below them included, gets smaller.

Main definitions: `Tree.allWithin`, the check for any trees, and `Nesting.check` for the blocks of a
document.
-/

namespace FrameTree

variable {α : Type}

/-- The nodes of the trees that are still to be visited. -/
def Tree.pendingSize (pending : List (Tree α × Nat)) : Nat := Forest.size (pending.map Prod.fst)

/-- The children, one level deeper, before the nodes that are still to be visited. -/
def Tree.descend (ts : Forest α) (depth : Nat) (pending : List (Tree α × Nat)) :
    List (Tree α × Nat) :=
  ts.map (·, depth + 1) ++ pending

@[simp] theorem Tree.size_forest_append (ss ts : Forest α) :
    Forest.size (ss ++ ts) = Forest.size ss + Forest.size ts := by
  induction ss with
  | nil => simp [Forest.size, Tree.size.sizes]
  | cons s ss ih =>
    simp only [Forest.size, List.cons_append, Tree.size.sizes] at ih ⊢
    omega

@[simp] theorem Tree.pendingSize_descend (ts : Forest α) (depth : Nat)
    (pending : List (Tree α × Nat)) :
    Tree.pendingSize (Tree.descend ts depth pending) =
      Forest.size ts + Tree.pendingSize pending := by
  simp [Tree.pendingSize, Tree.descend, List.map_append, Function.comp_def]

/-- No node that is still to be visited, and none below it, lies deeper than the limit, and every
label is good. Each pending node comes with its depth. -/
def Tree.allWithin (limit : Nat) (good : α → Bool) (pending : List (Tree α × Nat)) : Bool :=
  match pending with
  | [] => true
  | (.node a ts, depth) :: pending =>
    decide (depth ≤ limit) && good a && Tree.allWithin limit good (Tree.descend ts depth pending)
termination_by Tree.pendingSize pending
decreasing_by
  rw [Tree.pendingSize_descend]
  simp only [Tree.pendingSize, List.map_cons, Forest.size, Tree.size.sizes, Tree.size]
  omega

namespace Nesting

open Document

/-- The triggers under an action nest within the limit. -/
def actionWithin (limit : Nat) (a : Action) : Bool :=
  Tree.allWithin limit (fun _ => true) (a.triggers.map (·, 1))

/-- The triggers under every action of a block nest within the limit. -/
def actionsWithin (limit : Nat) (b : Block) : Bool := b.actions.all (actionWithin limit)

/-- The blocks nest within the limit, and so do the triggers under each of their actions. -/
def check (limit : Nat) (blocks : Forest Block) : Except Error Unit :=
  if Tree.allWithin limit (actionsWithin limit) (blocks.map (·, 1)) then .ok ()
  else .error (.depthExceeded limit)

end Nesting

end FrameTree

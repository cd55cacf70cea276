/-!
# Ordered trees

Authoring documents nest blocks in blocks and triggers in triggers. Both are ordered trees whose
nodes carry a label.

**Measures.** `Tree.size` counts nodes, `Tree.depth` the nodes of the longest path, and
`Forest.labels` lists the labels in pre-order: a node before its descendants, each subtree together.

**Walking down** (`Tree.enter`). Visits the nodes in pre-order. Every visit is told what the visit
of the parent produced, the place among the siblings, and the number of children.

**Growing** (`Tree.grow`). Builds a tree by asking for the children of each node, and gives up below
a given number of levels.
-/

namespace FrameTree

/-- A node with its label and its ordered children. -/
inductive Tree (α : Type) where
  | node (label : α) (children : List (Tree α))
deriving Repr

/-- A list of sibling trees. -/
abbrev Forest (α : Type) := List (Tree α)

variable {α β ε : Type}

namespace Tree

instance [Inhabited α] : Inhabited (Tree α) := ⟨.node default []⟩

def label : Tree α → α
  | .node a _ => a

def children : Tree α → Forest α
  | .node _ ts => ts

/-! ## Measures -/

/-- The number of nodes. -/
def size : Tree α → Nat
  | .node _ ts => 1 + sizes ts
where
  sizes : Forest α → Nat
    | [] => 0
    | t :: ts => size t + sizes ts

/-- The number of nodes on the longest path from the root. -/
def depth : Tree α → Nat
  | .node _ ts => 1 + depths ts
where
  depths : Forest α → Nat
    | [] => 0
    | t :: ts => max (depth t) (depths ts)

/-- The labels in pre-order. -/
def labels : Tree α → List α
  | .node a ts => a :: forest ts
where
  forest : Forest α → List α
    | [] => []
    | t :: ts => labels t ++ forest ts

end Tree

/-- The number of nodes of all trees. -/
abbrev Forest.size (ts : Forest α) : Nat := Tree.size.sizes ts

/-- The depth of the deepest tree. -/
abbrev Forest.depth (ts : Forest α) : Nat := Tree.depth.depths ts

/-- The labels of all trees in pre-order. -/
abbrev Forest.labels (ts : Forest α) : List α := Tree.labels.forest ts

namespace Tree

@[simp] theorem depth_node (a : α) (ts : Forest α) : (node a ts).depth = 1 + Forest.depth ts := rfl
@[simp] theorem labels_node (a : α) (ts : Forest α) :
    (node a ts).labels = a :: Forest.labels ts := rfl

/-! ## Equality -/

section

variable [DecidableEq α]

mutual

/-- Decides whether two trees have equal labels at equal places. -/
def decEq : (s t : Tree α) → Decidable (s = t)
  | .node a ss, .node b ts =>
    match decEq' ss ts with
    | isTrue hs =>
      if hl : a = b then isTrue (by rw [hl, hs])
      else isFalse fun h => hl (Tree.node.inj h).1
    | isFalse hs => isFalse fun h => hs (Tree.node.inj h).2

/-- Decides whether two lists of trees are equal. -/
def decEq' : (ss ts : List (Tree α)) → Decidable (ss = ts)
  | [], [] => isTrue rfl
  | [], _ :: _ => isFalse (by simp)
  | _ :: _, [] => isFalse (by simp)
  | s :: ss, t :: ts =>
    match decEq s t, decEq' ss ts with
    | isTrue h, isTrue hs => isTrue (by rw [h, hs])
    | isFalse h, _ => isFalse fun e => h (List.cons.inj e).1
    | _, isFalse hs => isFalse fun e => hs (List.cons.inj e).2

end

instance : DecidableEq (Tree α) := decEq

end

/-! ## Walking down -/

section

variable {m : Type → Type} [Monad m]

mutual

/-- Visits the nodes in pre-order and lists what the visits gave. A visit is told what the visit of
the parent gave (nothing at the top), the place among the siblings, the label, and the number of
children. -/
def enter (visit : Option β → Nat → α → Nat → m β) (parent : Option β) (place : Nat) :
    Tree α → m (List β)
  | .node a ts => do
    let b ← visit parent place a ts.length
    let below ← enterAll visit (some b) 0 ts
    return b :: below

/-- Visits sibling trees in order, the first of them at `place`. -/
def enterAll (visit : Option β → Nat → α → Nat → m β) (parent : Option β) (place : Nat) :
    List (Tree α) → m (List β)
  | [] => pure []
  | t :: ts => do
    let here ← enter visit parent place t
    let later ← enterAll visit parent (place + 1) ts
    return here ++ later

end

end

/-! ## Growing -/

/-- The tree below `b`: its label first, then its children in order, at most `room` levels. -/
def grow (label : β → Except ε α) (children : β → List β) (tooDeep : ε) :
    (room : Nat) → β → Except ε (Tree α)
  | 0, _ => throw tooDeep
  | room + 1, b => do
    let a ← label b
    let ts ← (children b).mapM (grow label children tooDeep room)
    return .node a ts

end Tree

end FrameTree

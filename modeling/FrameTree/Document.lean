import FrameTree.Kind
import FrameTree.Tree

/-!
# Authoring documents

A document describes a frame the way an author writes it: its blocks are nested, and each block
holds its actions, whose triggers are nested in turn.

**Normal form** (`Document.normal`). A document can leave things implicit: a block without a slot
uses the default one, a property can give one value for all breakpoints, an action need not name its
block. In the normal form all of this is written out, and no root block has a slot.
-/

namespace FrameTree

namespace Document

structure Variable where
  key : String
  value : String
  kind : VariableKind
deriving DecidableEq, Repr, Inhabited

/-- A property of a block, with a value for each breakpoint. -/
structure Property where
  key : String
  /-- One value for all breakpoints, unless it is empty. -/
  value : Option String
  mobile : String
  tablet : String
  desktop : String
  kind : String
  description : String
  picker : String
  pickerGroup : String
  pickerOptions : String
deriving DecidableEq, Repr, Inhabited

/-- A data entry, whose value has to be the key of a variable. -/
structure Binding where
  key : String
  value : String
  kind : String
  description : String
deriving DecidableEq, Repr, Inhabited

/-- A slot that a block offers to the blocks inside it. -/
structure Slot where
  name : String
  description : String
deriving DecidableEq, Repr, Inhabited

structure TriggerProperty where
  key : String
  value : String
  kind : String
  description : String
  picker : String
  pickerGroup : String
  pickerOptions : String
deriving DecidableEq, Repr, Inhabited

/-- A trigger without the triggers below it. -/
structure Trigger where
  keyType : String
  mode : ThenMode
  name : String
  version : Int32
  properties : List TriggerProperty
  data : List Binding
deriving DecidableEq, Repr, Inhabited

/-- What a block does on an event. -/
structure Action where
  key : String
  event : String
  triggers : Forest Trigger
deriving DecidableEq, Repr, Inhabited

/-- A block without the blocks inside it. -/
structure Block where
  keyType : String
  key : String
  visibilityKey : String
  slot : Option String
  version : Int32
  properties : List Property
  data : List Binding
  slots : List Slot
  actions : List Action
deriving DecidableEq, Repr, Inhabited

end Document

/-- An authoring document. -/
structure Document where
  schema : String
  name : String
  route : String
  kind : FrameKind
  isStarter : Bool
  vars : List Document.Variable
  blocks : Forest Document.Block
deriving DecidableEq, Repr, Inhabited

namespace Document

/-! ## What is left implicit -/

/-- The values for the mobile, tablet and desktop breakpoints. -/
def Property.breakpoints (p : Property) : String × String × String :=
  match p.value with
  | some v => if v.isEmpty then (p.mobile, p.tablet, p.desktop) else (v, v, v)
  | none => (p.mobile, p.tablet, p.desktop)

/-- The slot that a block is placed in. -/
def Block.slotOr (defaultSlot : String) (b : Block) : String := b.slot.getD defaultSlot

/-! ## Normal form -/

/-- The property with its three values written out: a value that is there and not empty stands for
all of them. -/
def Property.normal (p : Property) : Property :=
  { p with
    value := none
    mobile := (p.value.filter (· ≠ "")).getD p.mobile
    tablet := (p.value.filter (· ≠ "")).getD p.tablet
    desktop := (p.value.filter (· ≠ "")).getD p.desktop }

theorem Property.breakpoints_eq (p : Property) :
    p.breakpoints = (p.normal.mobile, p.normal.tablet, p.normal.desktop) := by
  rw [breakpoints, normal]
  cases p.value with
  | none => rfl
  | some v => by_cases hv : v = "" <;> simp [hv, Option.filter_some]

/-- The block with its own parts written out, placed in `slot`. -/
def Block.normal (slot : Option String) (b : Block) : Block :=
  { b with
    slot
    properties := b.properties.map Property.normal
    actions := b.actions.map fun a => { a with key := b.key } }

/-- The slot of a block inside another, written out; an empty one is none. -/
def Block.innerSlot (defaultSlot : String) (b : Block) : Option String :=
  let slot := b.slot.getD defaultSlot
  if slot = "" then none else some slot

mutual

/-- A block inside another and everything below it, written out. -/
def normalInner (defaultSlot : String) : Tree Block → Tree Block
  | .node b ts => .node (b.normal (b.innerSlot defaultSlot)) (normalInners defaultSlot ts)

def normalInners (defaultSlot : String) : List (Tree Block) → List (Tree Block)
  | [] => []
  | t :: ts => normalInner defaultSlot t :: normalInners defaultSlot ts

end

/-- A root block and everything below it, written out. -/
def normalRoot (defaultSlot : String) : Tree Block → Tree Block
  | .node b ts => .node (b.normal none) (normalInners defaultSlot ts)

/-- The document with everything implicit written out. -/
def normal (defaultSlot : String) (d : Document) : Document :=
  { d with blocks := d.blocks.map (normalRoot defaultSlot) }

end Document

end FrameTree

import FrameTree.Kind

/-!
# Flat frames

In a flat frame every entity has an id and points to its owner; blocks and triggers point to the one
they are inside of by `parentId`. Nothing is nested but the parts of one entity.

**Ids** are values of a type `ι`, which is `String` in every frame that is stored. Renaming the ids
of a frame (`Frame.rename`) changes its id type.

**Navigation.** The roots, the children and the actions of a block are found by scanning the lists.
-/

namespace FrameTree

namespace Frame

structure Variable (ι : Type) where
  id : ι
  frameId : ι
  key : String
  value : String
  kind : VariableKind
deriving DecidableEq, Repr, Inhabited

structure Property (ι : Type) where
  id : ι
  blockId : ι
  key : String
  mobile : String
  tablet : String
  desktop : String
  kind : String
  description : String
  picker : String
  pickerGroup : String
  pickerOptions : String
  deprecated : Bool
  deprecatedReason : String
deriving DecidableEq, Repr, Inhabited

structure BlockData (ι : Type) where
  id : ι
  blockId : ι
  key : String
  value : String
  kind : String
  description : String
  deprecated : Bool
  deprecatedReason : String
deriving DecidableEq, Repr, Inhabited

structure Slot (ι : Type) where
  id : ι
  blockId : ι
  name : String
  description : String
  deprecated : Bool
  deprecatedReason : String
deriving DecidableEq, Repr, Inhabited

structure Block (ι : Type) where
  id : ι
  frameId : ι
  keyType : String
  key : String
  visibilityKey : String
  /-- The place among the blocks with the same parent. -/
  position : Nat
  slot : String
  version : Int32
  parentId : ι
  data : List (BlockData ι)
  properties : List (Property ι)
  slots : List (Slot ι)
  deprecated : Bool
  deprecatedReason : String
deriving DecidableEq, Repr, Inhabited

structure TriggerProperty (ι : Type) where
  id : ι
  triggerId : ι
  key : String
  value : String
  kind : String
  description : String
  picker : String
  pickerGroup : String
  pickerOptions : String
  deprecated : Bool
  deprecatedReason : String
deriving DecidableEq, Repr, Inhabited

structure TriggerData (ι : Type) where
  id : ι
  triggerId : ι
  key : String
  value : String
  kind : String
  description : String
  deprecated : Bool
  deprecatedReason : String
deriving DecidableEq, Repr, Inhabited

structure Trigger (ι : Type) where
  id : ι
  actionId : ι
  parentId : ι
  keyType : String
  mode : ThenMode
  name : String
  version : Int32
  properties : List (TriggerProperty ι)
  data : List (TriggerData ι)
  deprecated : Bool
  deprecatedReason : String
deriving DecidableEq, Repr, Inhabited

/-- An action belongs to the block with its key. -/
structure Action (ι : Type) where
  id : ι
  frameId : ι
  key : String
  event : String
  triggers : List (Trigger ι)
deriving DecidableEq, Repr, Inhabited

end Frame

/-- A flat frame. -/
structure Frame (ι : Type) where
  id : ι
  name : String
  route : String
  routeArguments : List String
  kind : FrameKind
  isStarter : Bool
  projectId : String
  checksum : String
  vars : List (Frame.Variable ι)
  blocks : List (Frame.Block ι)
  actions : List (Frame.Action ι)
deriving DecidableEq, Repr, Inhabited

namespace Frame

variable {ι κ : Type}

/-! ## Renaming ids -/

def Variable.rename (f : ι → κ) (v : Variable ι) : Variable κ :=
  { v with id := f v.id, frameId := f v.frameId }

def Property.rename (f : ι → κ) (p : Property ι) : Property κ :=
  { p with id := f p.id, blockId := f p.blockId }

def BlockData.rename (f : ι → κ) (d : BlockData ι) : BlockData κ :=
  { d with id := f d.id, blockId := f d.blockId }

def Slot.rename (f : ι → κ) (s : Slot ι) : Slot κ :=
  { s with id := f s.id, blockId := f s.blockId }

def Block.rename (f : ι → κ) (b : Block ι) : Block κ :=
  { b with
    id := f b.id
    frameId := f b.frameId
    parentId := f b.parentId
    data := b.data.map (·.rename f)
    properties := b.properties.map (·.rename f)
    slots := b.slots.map (·.rename f) }

def TriggerProperty.rename (f : ι → κ) (p : TriggerProperty ι) : TriggerProperty κ :=
  { p with id := f p.id, triggerId := f p.triggerId }

def TriggerData.rename (f : ι → κ) (d : TriggerData ι) : TriggerData κ :=
  { d with id := f d.id, triggerId := f d.triggerId }

def Trigger.rename (f : ι → κ) (t : Trigger ι) : Trigger κ :=
  { t with
    id := f t.id
    actionId := f t.actionId
    parentId := f t.parentId
    properties := t.properties.map (·.rename f)
    data := t.data.map (·.rename f) }

def Action.rename (f : ι → κ) (a : Action ι) : Action κ :=
  { a with id := f a.id, frameId := f a.frameId, triggers := a.triggers.map (·.rename f) }

/-- The frame with every id and every link renamed. -/
def rename (f : ι → κ) (F : Frame ι) : Frame κ :=
  { F with
    id := f F.id
    vars := F.vars.map (·.rename f)
    blocks := F.blocks.map (·.rename f)
    actions := F.actions.map (·.rename f) }

/-! ## Navigation -/

/-- The blocks without a parent, in list order. -/
def rootBlocks (F : Frame String) : List (Block String) :=
  F.blocks.filter fun b => b.parentId == ""

/-- The blocks right inside the block with an id, in list order. -/
def childrenOf (F : Frame String) (id : String) : List (Block String) :=
  F.blocks.filter fun b => b.parentId == id

/-- The actions of the block with a key. -/
def actionsOf (F : Frame String) (key : String) : List (Action String) :=
  F.actions.filter fun a => a.key == key

/-- The triggers that start a chain. -/
def Action.rootTriggers (a : Action String) : List (Trigger String) :=
  a.triggers.filter fun t => t.parentId == ""

/-- The triggers right below the trigger with an id. -/
def Action.childrenOf (a : Action String) (id : String) : List (Trigger String) :=
  a.triggers.filter fun t => t.parentId == id

end Frame

end FrameTree

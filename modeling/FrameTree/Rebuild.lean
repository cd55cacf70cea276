import FrameTree.Document
import FrameTree.Error
import FrameTree.Frame
import FrameTree.Settings
import Std.Data.HashMap

/-!
# From flat frames to documents

**Links** (`LinkIndex`). The entities of a list are grouped once by the text they point at, each
group in list order, so that the children of every node are found without another scan.

**Rebuilding** (`Rebuild.document`). Blocks without a parent are the roots. Below each block come
the blocks that point at its id, by position; below each trigger the triggers of its action that
point at its id, in list order. A block takes the actions with its key.

**Nesting.** The links of a frame from elsewhere may form anything, cycles included. Rebuilding goes
down at most to the limit of the settings and refuses what lies deeper; it has no other error.
-/

namespace FrameTree

/-- Entities grouped by what they point at. -/
structure LinkIndex (β : Type) where
  groups : Std.HashMap String (List β)

namespace LinkIndex

variable {β : Type}

/-- Adds an entity before those of its group. -/
def add (link : β → String) (b : β) (groups : Std.HashMap String (List β)) :
    Std.HashMap String (List β) :=
  groups.alter (link b) fun group => some (b :: group.getD [])

/-- Groups the entities by `link`, each group in list order. -/
def ofList (link : β → String) (bs : List β) : LinkIndex β := ⟨bs.foldr (add link) ∅⟩

/-- Orders every group by `key`, equal ones in the order in which they were. -/
def sortedBy (key : β → Nat) (index : LinkIndex β) : LinkIndex β :=
  ⟨index.groups.map fun _ group => group.mergeSort fun a b => key a ≤ key b⟩

/-- The entities that point at `target`. -/
def get (index : LinkIndex β) (target : String) : List β := index.groups.getD target []

/-- The entities that point at nothing. -/
def roots (index : LinkIndex β) : List β := index.get ""

end LinkIndex

namespace Frame

/-! ## Parts without their links -/

def Variable.toDocument (v : Variable String) : Document.Variable :=
  { key := v.key, value := v.value, kind := v.kind }

def Property.toDocument (p : Property String) : Document.Property :=
  { key := p.key
    value := none
    mobile := p.mobile
    tablet := p.tablet
    desktop := p.desktop
    kind := p.kind
    description := p.description
    picker := p.picker
    pickerGroup := p.pickerGroup
    pickerOptions := p.pickerOptions }

def BlockData.toDocument (d : BlockData String) : Document.Binding :=
  { key := d.key, value := d.value, kind := d.kind, description := d.description }

def Slot.toDocument (s : Slot String) : Document.Slot :=
  { name := s.name, description := s.description }

def TriggerProperty.toDocument (p : TriggerProperty String) : Document.TriggerProperty :=
  { key := p.key
    value := p.value
    kind := p.kind
    description := p.description
    picker := p.picker
    pickerGroup := p.pickerGroup
    pickerOptions := p.pickerOptions }

def TriggerData.toDocument (d : TriggerData String) : Document.Binding :=
  { key := d.key, value := d.value, kind := d.kind, description := d.description }

def Trigger.toDocument (t : Trigger String) : Document.Trigger :=
  { keyType := t.keyType
    mode := t.mode
    name := t.name
    version := t.version
    properties := t.properties.map TriggerProperty.toDocument
    data := t.data.map TriggerData.toDocument }

/-- The slot to write in a document: a root block has none, and an empty one is none. -/
def Block.documentSlot (b : Block String) (isRoot : Bool) : Option String :=
  if isRoot || b.slot.isEmpty then none else some b.slot

/-- A block with its actions, as a label of the tree. -/
def Block.toDocument (b : Block String) (isRoot : Bool) (actions : List Document.Action) :
    Document.Block :=
  { keyType := b.keyType
    key := b.key
    visibilityKey := b.visibilityKey
    slot := b.documentSlot isRoot
    version := b.version
    properties := b.properties.map Property.toDocument
    data := b.data.map BlockData.toDocument
    slots := b.slots.map Slot.toDocument
    actions }

end Frame

namespace Rebuild

open FrameTree.Frame

/-- The chain below a trigger, in at most `limit` levels. -/
def trigger (limit : Nat) (triggers : LinkIndex (Trigger String)) :
    Trigger String → Except Error (Tree Document.Trigger) :=
  Tree.grow (fun t => .ok t.toDocument) (fun t => triggers.get t.id) (.depthExceeded limit) limit

def action (limit : Nat) (a : Action String) : Except Error Document.Action := do
  let index := LinkIndex.ofList (·.parentId) a.triggers
  return { key := a.key, event := a.event, triggers := ← index.roots.mapM (trigger limit index) }

/-- A block with its actions. A block that points at nothing is a root. -/
def label (limit : Nat) (actions : LinkIndex (Action String)) (b : Block String) :
    Except Error Document.Block := do
  return b.toDocument (b.parentId == "") (← (actions.get b.key).mapM (action limit))

/-- The blocks below a block, in at most `limit` levels. -/
def block (limit : Nat) (blocks : LinkIndex (Block String)) (actions : LinkIndex (Action String)) :
    Block String → Except Error (Tree Document.Block) :=
  Tree.grow (label limit actions) (fun b => blocks.get b.id) (.depthExceeded limit) limit

/-- The document of a frame. A frame does not say which schema its document refers to. -/
def document (settings : Settings) (F : Frame String) (schema : String) :
    Except Error Document := do
  let limit := settings.maxDepth
  let blocks := (LinkIndex.ofList (·.parentId) F.blocks).sortedBy (·.position)
  let actions := LinkIndex.ofList (·.key) F.actions
  return {
    schema
    name := F.name
    route := F.route
    kind := F.kind
    isStarter := F.isStarter
    vars := F.vars.map Variable.toDocument
    blocks := ← blocks.roots.mapM (block limit blocks actions) }

end Rebuild

end FrameTree

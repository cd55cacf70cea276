import FrameTree.Proofs.Walk
import FrameTree.Rebuild

/-!
# Content

What an author says about an entity stands in the document and in the flat frame under the same
names. Ids, links and places are no content of an entity, and the slot of a block is part of its
place.

**Matching** (`Frame.Block.Matches`, `Frame.Trigger.Matches`). An entry of a frame matches a part of
a document if it has, field by field, what the part has. Only a property can say something in two
ways: a value for all breakpoints, unless it is empty, stands for three.

The entries that are made in flattening match the parts that they are made from, and the parts that
are made in rebuilding match their entries.
-/

namespace FrameTree

namespace Frame

/-! ## Matching -/

structure Variable.Matches (e : Variable String) (v : Document.Variable) : Prop where
  key : e.key = v.key
  value : e.value = v.value
  kind : e.kind = v.kind

structure Property.Matches (e : Property String) (p : Document.Property) : Prop where
  key : e.key = p.key
  mobile : e.mobile = (p.value.filter (· ≠ "")).getD p.mobile
  tablet : e.tablet = (p.value.filter (· ≠ "")).getD p.tablet
  desktop : e.desktop = (p.value.filter (· ≠ "")).getD p.desktop
  kind : e.kind = p.kind
  description : e.description = p.description
  picker : e.picker = p.picker
  pickerGroup : e.pickerGroup = p.pickerGroup
  pickerOptions : e.pickerOptions = p.pickerOptions

structure BlockData.Matches (e : BlockData String) (b : Document.Binding) : Prop where
  key : e.key = b.key
  value : e.value = b.value
  kind : e.kind = b.kind
  description : e.description = b.description

structure Slot.Matches (e : Slot String) (s : Document.Slot) : Prop where
  name : e.name = s.name
  description : e.description = s.description

structure TriggerProperty.Matches (e : TriggerProperty String) (p : Document.TriggerProperty) :
    Prop where
  key : e.key = p.key
  value : e.value = p.value
  kind : e.kind = p.kind
  description : e.description = p.description
  picker : e.picker = p.picker
  pickerGroup : e.pickerGroup = p.pickerGroup
  pickerOptions : e.pickerOptions = p.pickerOptions

structure TriggerData.Matches (e : TriggerData String) (b : Document.Binding) : Prop where
  key : e.key = b.key
  value : e.value = b.value
  kind : e.kind = b.kind
  description : e.description = b.description

/-- The trigger has what the entry has, without the triggers below it. -/
structure Trigger.Matches (e : Trigger String) (t : Document.Trigger) : Prop where
  keyType : e.keyType = t.keyType
  mode : e.mode = t.mode
  name : e.name = t.name
  version : e.version = t.version
  properties : List.Forall₂ TriggerProperty.Matches e.properties t.properties
  data : List.Forall₂ TriggerData.Matches e.data t.data

/-- The block has what the entry has, without its actions and the blocks inside it. -/
structure Block.Matches (e : Block String) (b : Document.Block) : Prop where
  keyType : e.keyType = b.keyType
  key : e.key = b.key
  visibilityKey : e.visibilityKey = b.visibilityKey
  version : e.version = b.version
  properties : List.Forall₂ Property.Matches e.properties b.properties
  data : List.Forall₂ BlockData.Matches e.data b.data
  slots : List.Forall₂ Slot.Matches e.slots b.slots

/-! ## Entries -/

/-- The values for the breakpoints are written out. -/
theorem Property.matches_flat (blockId id : String) (p : Document.Property) :
    (p.flat blockId id).Matches p where
  key := rfl
  mobile := congrArg Prod.fst p.breakpoints_eq
  tablet := congrArg (·.2.1) p.breakpoints_eq
  desktop := congrArg (·.2.2) p.breakpoints_eq
  kind := rfl
  description := rfl
  picker := rfl
  pickerGroup := rfl
  pickerOptions := rfl

theorem Trigger.matches_placed (I : Issuer String) (actionId : String)
    (s : Spot Document.Trigger) : (Document.Trigger.placed I actionId s).Matches s.label where
  keyType := rfl
  mode := rfl
  name := rfl
  version := rfl
  properties := I.forall₂_parts (fun _ _ => ⟨rfl, rfl, rfl, rfl, rfl, rfl, rfl⟩) _ _
  data := I.forall₂_parts (fun _ _ => ⟨rfl, rfl, rfl, rfl⟩) _ _

theorem Block.matches_placed (I : Issuer String) (settings : Settings) (frameId : String)
    (s : Spot Document.Block) : (Document.Block.placed I settings frameId s).Matches s.label where
  keyType := rfl
  key := rfl
  visibilityKey := rfl
  version := rfl
  properties := I.forall₂_parts (Property.matches_flat _) _ _
  data := I.forall₂_parts (fun _ _ => ⟨rfl, rfl, rfl, rfl⟩) _ _
  slots := I.forall₂_parts (fun _ _ => ⟨rfl, rfl⟩) _ _

/-! ## Parts -/

/-- Without a parent there is no slot, and an empty one is none. -/
theorem Block.documentSlot_eq (b : Block String) (isRoot : Bool) :
    b.documentSlot isRoot = if isRoot ∨ b.slot = "" then none else some b.slot := by
  rw [documentSlot]
  simp only [Bool.or_eq_true, String.isEmpty_iff]

/-- Members match what is made from them, if each of them does. -/
theorem forall₂_map_self {α β : Type} {R : α → β → Prop} {f : α → β} (h : ∀ a, R a (f a))
    (as : List α) : List.Forall₂ R as (as.map f) :=
  List.forall₂_map_right_iff.2 (List.forall₂_same.2 fun a _ => h a)

theorem Trigger.matches_toDocument (e : Trigger String) : e.Matches e.toDocument where
  keyType := rfl
  mode := rfl
  name := rfl
  version := rfl
  properties := forall₂_map_self (fun _ => ⟨rfl, rfl, rfl, rfl, rfl, rfl, rfl⟩) _
  data := forall₂_map_self (fun _ => ⟨rfl, rfl, rfl, rfl⟩) _

theorem Block.matches_toDocument (e : Block String) (isRoot : Bool)
    (actions : List Document.Action) : e.Matches (e.toDocument isRoot actions) where
  keyType := rfl
  key := rfl
  visibilityKey := rfl
  version := rfl
  properties :=
    forall₂_map_self (fun _ => ⟨rfl, rfl, rfl, rfl, rfl, rfl, rfl, rfl, rfl⟩) _
  data := forall₂_map_self (fun _ => ⟨rfl, rfl, rfl, rfl⟩) _
  slots := forall₂_map_self (fun _ => ⟨rfl, rfl⟩) _

end Frame

end FrameTree

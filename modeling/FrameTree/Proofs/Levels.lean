import FrameTree.Proofs.Rendering

/-!
# How deep a printed document nests

A reader with some room takes no text that nests deeper. What it took may still nest deeper when it
is printed, because a list that the text leaves out is printed as an empty one; but it takes one
level more at most (`Document.near`).

The proof goes along the reader: in a room that is left for the lists of a record, every list that
is read fits with one level to spare, and lists that are not there need just this level. So each
field of a record keeps what is printed within the bound, and the bound passes from the room of a
block to the room of the blocks inside it, two levels less (`Block.fields_keep_fit`).

Writing out what is implicit adds no level (`Document.nesting_normal`).

Main results: `Document.nesting_of_parse` and `Document.nesting_normal`.
-/

namespace FrameTree

/-! ## Values -/

namespace Json

theorem memberNesting_append (ms ms' : List (String × Json)) :
    memberNesting (ms ++ ms') = max (memberNesting ms) (memberNesting ms') := by
  induction ms with
  | nil => simp [memberNesting]
  | cons m ms ih => rw [List.cons_append, memberNesting, memberNesting, ih, Nat.max_assoc]

/-- The nesting of a list goes by that of its items. -/
theorem nesting_array_map {α : Type} {f : α → α} {toJson : α → Json}
    (h : ∀ a, (toJson (f a)).nesting = (toJson a).nesting) (xs : List α) :
    (array ((xs.map f).map toJson)).nesting = (array (xs.map toJson)).nesting := by
  have hitems : itemNesting ((xs.map f).map toJson) = itemNesting (xs.map toJson) := by
    induction xs with
    | nil => rfl
    | cons x xs ih => simp only [List.map_cons, itemNesting, h, ih]
  rw [nesting, nesting, hitems]

namespace Node

variable {α ρ : Type}

theorem pos_of_takeRoom {room : Nat} (h : takeRoom room = .ok ()) : 0 < room := by
  cases room with
  | zero => cases h
  | succ room => exact Nat.succ_pos room

theorem pos_of_readList {room : Nat} {item : Node → Reading α} {n : Node} {xs : List α}
    (h : readList room item n = .ok xs) : 0 < room := by
  cases n with
  | array items stop =>
    obtain ⟨⟨⟩, hroom, -⟩ := bind_eq_ok_iff.1 h
    exact pos_of_takeRoom hroom
  | _ => exact absurd h (refuse_ne_ok _ _ xs)

theorem pos_of_readRecord {record : String} {room : Nat} {blank x : ρ}
    {fields : List (Field Node ρ)} {n : Node}
    (h : readRecord record room blank fields n = .ok x) : 0 < room := by
  cases n with
  | object members stop =>
    obtain ⟨⟨⟩, hroom, -⟩ := bind_eq_ok_iff.1 h
    exact pos_of_takeRoom hroom
  | array items stop =>
    obtain ⟨⟨⟩, hroom, -⟩ := bind_eq_ok_iff.1 h
    exact pos_of_takeRoom hroom
  | keyless =>
    obtain ⟨⟨⟩, hroom, -⟩ := bind_eq_ok_iff.1 h
    exact pos_of_takeRoom hroom
  | _ => exact absurd h (refuse_ne_ok _ _ x)

/-- The record is printed with at most `k` levels. -/
def Fits (toJson : α → Json) (k : Nat) (x : α) : Prop := (toJson x).nesting ≤ k

/-- What is read in some room is printed with at most one level more. -/
def Near (read : Nat → Node → Reading α) (toJson : α → Json) : Prop :=
  ∀ room n x, read room n = .ok x → Fits toJson (room + 1) x

theorem Near.list {item : Nat → Node → Reading α} {toJson : α → Json} (h : Near item toJson)
    {room : Nat} {n : Node} {xs : List α} (hxs : readList room (item (room - 1)) n = .ok xs) :
    (Json.array (xs.map toJson)).nesting ≤ room + 1 := by
  have hroom : room - 1 + 1 = room := Nat.sub_add_cancel (pos_of_readList hxs)
  rw [nesting_array_le_iff, List.forall_mem_map]
  intro x hx
  have hfits := forall_mem_of_readList hxs (h (room - 1)) x hx
  rwa [hroom] at hfits

end Node

end Json

namespace Document

open Json (Field Node)
open Json.Node

/-! ## Parts -/

@[simp] theorem memberNesting_nonEmpty (name text : String) :
    Json.memberNesting (nonEmpty name text) = 0 := by
  rw [nonEmpty]
  split <;> rfl

@[simp] theorem memberNesting_present (name : String) (text? : Option String) :
    Json.memberNesting (present name text?) = 0 := by
  cases text? <;> rfl

theorem Variable.nesting_toJson (v : Variable) : v.toJson.nesting = 1 := rfl

theorem Property.nesting_toJson (p : Property) : p.toJson.nesting = 1 := by
  simp [toJson, Json.nesting, Json.memberNesting, Json.memberNesting_append]

theorem Binding.nesting_toJson (b : Binding) : b.toJson.nesting = 1 := by
  simp [toJson, Json.nesting, Json.memberNesting]

theorem Slot.nesting_toJson (s : Slot) : s.toJson.nesting = 1 := by
  simp [toJson, Json.nesting, Json.memberNesting]

theorem TriggerProperty.nesting_toJson (p : TriggerProperty) : p.toJson.nesting = 1 := by
  simp [toJson, Json.nesting, Json.memberNesting, Json.memberNesting_append]

/-- A record without lists fits wherever it can be read. -/
theorem near_of_nesting {α : Type} {read : Nat → Node → Json.Reading α} {toJson : α → Json}
    (h : ∀ x, (toJson x).nesting = 1) : Near read toJson := by
  intro room n x _
  rw [Fits, h x]
  exact Nat.le_add_left 1 room

/-! ## Triggers and actions -/

/-- The lists of a trigger are printed with at most `k` levels. -/
structure Trigger.ListsFit (k : Nat) (t : Trigger) : Prop where
  properties : (Json.array (t.properties.map TriggerProperty.toJson)).nesting ≤ k
  data : (Json.array (t.data.map Binding.toJson)).nesting ≤ k

theorem triggersToJson_eq_map (ts : Forest Trigger) :
    triggersToJson ts = List.map triggerToJson ts := by
  induction ts with
  | nil => rfl
  | cons t ts ih => rw [triggersToJson, ih, List.map_cons]

theorem fits_trigger_iff {t : Tree Trigger} {k : Nat} :
    Fits triggerToJson (k + 1) t ↔
      t.label.ListsFit k ∧ (Json.array (List.map triggerToJson t.children)).nesting ≤ k := by
  obtain ⟨t, ts⟩ := t
  rw [Fits, triggerToJson, Trigger.toJson, Json.nesting_object_le_iff, triggersToJson_eq_map]
  simp only [List.forall_mem_cons, List.not_mem_nil, false_implies, implies_true, and_true,
    Json.nesting, Json.ofInt32, Nat.zero_le, true_and]
  exact ⟨fun h => ⟨⟨h.1, h.2.1⟩, h.2.2⟩, fun h => ⟨h.1.properties, h.1.data, h.2⟩⟩

theorem fits_relabel_trigger {f : Trigger → Trigger} {t : Tree Trigger} {k : Nat}
    (hf : t.label.ListsFit k → (f t.label).ListsFit k) (h : Fits triggerToJson (k + 1) t) :
    Fits triggerToJson (k + 1) (relabel f t) := by
  obtain ⟨hlabel, hbelow⟩ := fits_trigger_iff.1 h
  cases t
  exact fits_trigger_iff.2 ⟨hf hlabel, hbelow⟩

theorem fits_replant_trigger {ts : Forest Trigger} {t : Tree Trigger} {k : Nat}
    (hts : ∀ t ∈ ts, Fits triggerToJson k t) (h : Fits triggerToJson (k + 2) t) :
    Fits triggerToJson (k + 2) (replant ts t) := by
  obtain ⟨hlabel, -⟩ := fits_trigger_iff.1 h
  cases t
  refine fits_trigger_iff.2 ⟨hlabel, ?_⟩
  rw [Json.nesting_array_le_iff, List.forall_mem_map]
  exact hts

theorem Trigger.fields_keep_fit {room : Nat} {below : Node → Json.Reading (Tree Trigger)}
    (hbelow : ∀ n t, below n = .ok t → Fits triggerToJson room t) :
    ∀ f ∈ Trigger.fields room below, f.Keeps (Fits triggerToJson (room + 2)) := by
  have hproperties : Field.Keeps (Fits triggerToJson (room + 2))
      (listOf "properties" room TriggerProperty.read fun ps => relabel fun t =>
        { t with properties := ps }) := by
    refine .optional fun _ ps hread t ht => fits_relabel_trigger (fun h => ?_) ht
    exact { h with properties := (near_of_nesting TriggerProperty.nesting_toJson).list hread }
  have hdata : Field.Keeps (Fits triggerToJson (room + 2))
      (listOf "data" room Binding.read fun bs => relabel fun t => { t with data := bs }) := by
    refine .optional fun _ bs hread t ht => fits_relabel_trigger (fun h => ?_) ht
    exact { h with data := (near_of_nesting Binding.nesting_toJson).list hread }
  have htriggers : Field.Keeps (Fits triggerToJson (room + 2))
      (listOf "triggers" room (fun _ => below) replant) := by
    refine .optional fun _ ts hread t ht => fits_replant_trigger ?_ ht
    exact forall_mem_of_readList hread hbelow
  simp only [Trigger.fields, List.forall_mem_cons, List.not_mem_nil, false_implies, implies_true,
    and_true]
  refine ⟨.mandatory ?_, .optional ?_, .optional ?_, .optional ?_, hproperties, hdata, htriggers⟩
  all_goals
    intro _ _ _ _ ht
    exact fits_relabel_trigger (fun h => { h with }) ht

theorem Trigger.near : Near Trigger.read triggerToJson := by
  intro room n t h
  match room, h with
  | 0, h => exact absurd (pos_of_readRecord h) (Nat.lt_irrefl 0)
  | 1, h =>
    have hnone : ∀ n t, (noRoom n : Json.Reading (Tree Trigger)) = .ok t →
        Fits triggerToJson 0 t := fun _ _ h => nomatch h
    have hblank : Fits triggerToJson 2 default := Nat.le_refl 2
    exact readRecord_keeps hblank (Trigger.fields_keep_fit hnone) h
  | room + 2, h =>
    have hblank : Fits triggerToJson (room + 3) default := Nat.le_add_left 2 (room + 1)
    exact readRecord_keeps hblank (Trigger.fields_keep_fit fun n t => Trigger.near room n t) h

theorem fits_action_iff {a : Action} {k : Nat} :
    Fits Action.toJson (k + 1) a ↔
      (Json.array (List.map triggerToJson a.triggers)).nesting ≤ k := by
  rw [Fits, Action.toJson, Json.nesting_object_le_iff, triggersToJson_eq_map]
  simp only [List.forall_mem_cons, List.not_mem_nil, false_implies, implies_true, and_true,
    Json.nesting, Nat.zero_le, true_and]

theorem Action.near : Near Action.read Action.toJson := by
  intro room n a h
  obtain ⟨k, rfl⟩ : ∃ k, room = k + 1 := Nat.exists_eq_succ_of_ne_zero (pos_of_readRecord h).ne'
  have htriggers : Field.Keeps (Fits Action.toJson (k + 2))
      (listOf "triggers" k Trigger.read fun ts (a : Action) => { a with triggers := ts }) :=
    .optional fun _ ts hread a _ => fits_action_iff.2 (Trigger.near.list hread)
  have hblank : Fits Action.toJson (k + 2) default := Nat.le_add_left 2 k
  refine readRecord_keeps hblank ?_ h
  simp only [List.forall_mem_cons, List.not_mem_nil, false_implies, implies_true, and_true]
  refine ⟨.optional ?_, .mandatory ?_, htriggers⟩
  all_goals
    intro _ _ _ _ ha
    exact fits_action_iff.2 (fits_action_iff.1 ha)

/-! ## Blocks and documents -/

/-- The lists of a block are printed with at most `k` levels. -/
structure Block.ListsFit (k : Nat) (b : Block) : Prop where
  properties : (Json.array (b.properties.map Property.toJson)).nesting ≤ k
  data : (Json.array (b.data.map Binding.toJson)).nesting ≤ k
  slots : (Json.array (b.slots.map Slot.toJson)).nesting ≤ k
  actions : (Json.array (b.actions.map Action.toJson)).nesting ≤ k

theorem blocksToJson_eq_map (ts : Forest Block) : blocksToJson ts = List.map blockToJson ts := by
  induction ts with
  | nil => rfl
  | cons t ts ih => rw [blocksToJson, ih, List.map_cons]

theorem fits_block_iff {t : Tree Block} {k : Nat} :
    Fits blockToJson (k + 1) t ↔
      t.label.ListsFit k ∧ (Json.array (List.map blockToJson t.children)).nesting ≤ k := by
  obtain ⟨b, ts⟩ := t
  have hslot : ∀ m ∈ present "slot" b.slot, m.2.nesting ≤ k := by
    rw [← Json.memberNesting_le_iff, memberNesting_present]
    exact Nat.zero_le k
  rw [Fits, blockToJson, Block.toJson, Json.nesting_object_le_iff, blocksToJson_eq_map]
  simp only [List.forall_mem_append, List.forall_mem_cons, List.not_mem_nil, false_implies,
    implies_true, and_true, Json.nesting, Json.ofInt32, Nat.zero_le, true_and]
  constructor
  · rintro ⟨-, hproperties, hdata, hslots, hactions, hinside⟩
    exact ⟨⟨hproperties, hdata, hslots, hactions⟩, hinside⟩
  · rintro ⟨h, hinside⟩
    exact ⟨hslot, h.properties, h.data, h.slots, h.actions, hinside⟩

theorem fits_relabel_block {f : Block → Block} {t : Tree Block} {k : Nat}
    (hf : t.label.ListsFit k → (f t.label).ListsFit k) (h : Fits blockToJson (k + 1) t) :
    Fits blockToJson (k + 1) (relabel f t) := by
  obtain ⟨hlabel, hinside⟩ := fits_block_iff.1 h
  cases t
  exact fits_block_iff.2 ⟨hf hlabel, hinside⟩

theorem fits_replant_block {ts : Forest Block} {t : Tree Block} {k : Nat}
    (hts : ∀ t ∈ ts, Fits blockToJson k t) (h : Fits blockToJson (k + 2) t) :
    Fits blockToJson (k + 2) (replant ts t) := by
  obtain ⟨hlabel, -⟩ := fits_block_iff.1 h
  cases t
  refine fits_block_iff.2 ⟨hlabel, ?_⟩
  rw [Json.nesting_array_le_iff, List.forall_mem_map]
  exact hts

theorem Block.fields_keep_fit {room : Nat} {inside : Node → Json.Reading (Tree Block)}
    (hinside : ∀ n t, inside n = .ok t → Fits blockToJson room t) :
    ∀ f ∈ Block.fields room inside, f.Keeps (Fits blockToJson (room + 2)) := by
  have hproperties : Field.Keeps (Fits blockToJson (room + 2))
      (listOf "properties" room Property.read fun ps => relabel fun b =>
        { b with properties := ps }) := by
    refine .optional fun _ ps hread t ht => fits_relabel_block (fun h => ?_) ht
    exact { h with properties := (near_of_nesting Property.nesting_toJson).list hread }
  have hdata : Field.Keeps (Fits blockToJson (room + 2))
      (listOf "data" room Binding.read fun ds => relabel fun b => { b with data := ds }) := by
    refine .optional fun _ ds hread t ht => fits_relabel_block (fun h => ?_) ht
    exact { h with data := (near_of_nesting Binding.nesting_toJson).list hread }
  have hslots : Field.Keeps (Fits blockToJson (room + 2))
      (listOf "slots" room Slot.read fun ss => relabel fun b => { b with slots := ss }) := by
    refine .optional fun _ ss hread t ht => fits_relabel_block (fun h => ?_) ht
    exact { h with slots := (near_of_nesting Slot.nesting_toJson).list hread }
  have hactions : Field.Keeps (Fits blockToJson (room + 2))
      (listOf "actions" room Action.read fun as => relabel fun b => { b with actions := as }) := by
    refine .optional fun _ as hread t ht => fits_relabel_block (fun h => ?_) ht
    exact { h with actions := Action.near.list hread }
  have hblocks : Field.Keeps (Fits blockToJson (room + 2))
      (listOf "blocks" room (fun _ => inside) replant) := by
    refine .optional fun _ ts hread t ht => fits_replant_block ?_ ht
    exact forall_mem_of_readList hread hinside
  simp only [Block.fields, List.forall_mem_cons, List.not_mem_nil, false_implies, implies_true,
    and_true]
  refine ⟨.mandatory ?_, .mandatory ?_, .optional ?_, .optional ?_, .optional ?_, hproperties,
    hdata, hslots, hactions, hblocks⟩
  all_goals
    intro _ _ _ _ ht
    exact fits_relabel_block (fun h => { h with }) ht

theorem Block.near : Near Block.read blockToJson := by
  intro room n t h
  match room, h with
  | 0, h => exact absurd (pos_of_readRecord h) (Nat.lt_irrefl 0)
  | 1, h =>
    have hnone : ∀ n t, (noRoom n : Json.Reading (Tree Block)) = .ok t → Fits blockToJson 0 t :=
      fun _ _ h => nomatch h
    have hblank : Fits blockToJson 2 default := Nat.le_refl 2
    exact readRecord_keeps hblank (Block.fields_keep_fit hnone) h
  | room + 2, h =>
    have hblank : Fits blockToJson (room + 3) default := Nat.le_add_left 2 (room + 1)
    exact readRecord_keeps hblank (Block.fields_keep_fit fun n t => Block.near room n t) h

theorem fits_iff {d : Document} {k : Nat} :
    Fits toJson (k + 1) d ↔ (Json.array (d.vars.map Variable.toJson)).nesting ≤ k ∧
      (Json.array (List.map blockToJson d.blocks)).nesting ≤ k := by
  rw [Fits, toJson, Json.nesting_object_le_iff, blocksToJson_eq_map]
  simp only [List.forall_mem_cons, List.not_mem_nil, false_implies, implies_true, and_true,
    Json.nesting, Nat.zero_le, true_and]

/-- **A document that was read** is printed with at most one level more than it was read with. -/
theorem near : Near read toJson := by
  intro room n d h
  obtain ⟨k, rfl⟩ : ∃ k, room = k + 1 := Nat.exists_eq_succ_of_ne_zero (pos_of_readRecord h).ne'
  have hvars : Field.Keeps (Fits toJson (k + 2))
      (listOf "variables" k Variable.read fun vs (d : Document) => { d with vars := vs }) := by
    refine .optional fun _ vs hread d hd => fits_iff.2 ⟨?_, (fits_iff.1 hd).2⟩
    exact (near_of_nesting Variable.nesting_toJson).list hread
  have hblocks : Field.Keeps (Fits toJson (k + 2))
      (listOf "blocks" k Block.read fun bs (d : Document) => { d with blocks := bs }) :=
    .optional fun _ bs hread d hd => fits_iff.2 ⟨(fits_iff.1 hd).1, Block.near.list hread⟩
  have hblank : Fits toJson (k + 2) default := Nat.le_add_left 2 k
  refine readRecord_keeps hblank ?_ h
  simp only [List.forall_mem_cons, List.not_mem_nil, false_implies, implies_true, and_true]
  refine ⟨.optional ?_, .optional ?_, .optional ?_, .optional ?_, .optional ?_, hvars, hblocks⟩
  all_goals
    intro _ _ _ _ hd
    exact fits_iff.2 (fits_iff.1 hd)

theorem nesting_of_parse {text : String} {d : Document} (h : parse text = .ok d) :
    d.toJson.nesting ≤ Json.nestingRoom + 1 := by
  obtain ⟨n, hread⟩ := readText_eq_ok h
  exact near _ n d hread

/-! ## The normal form -/

/-- A block with its own parts written out nests as deep as before. -/
theorem Block.nesting_normal (slot : Option String) (b : Block) {js js' : List Json}
    (h : Json.itemNesting js = Json.itemNesting js') :
    ((b.normal slot).toJson js).nesting = (b.toJson js').nesting := by
  have hproperties : (Json.array ((b.normal slot).properties.map Property.toJson)).nesting =
      (Json.array (b.properties.map Property.toJson)).nesting :=
    Json.nesting_array_map (fun p => by rw [Property.nesting_toJson, Property.nesting_toJson]) _
  have hactions : (Json.array ((b.normal slot).actions.map Action.toJson)).nesting =
      (Json.array (b.actions.map Action.toJson)).nesting :=
    Json.nesting_array_map (f := fun a : Action => { a with key := b.key }) (fun _ => rfl) _
  have hinside : (Json.array js).nesting = (Json.array js').nesting := by
    rw [Json.nesting, Json.nesting, h]
  rw [toJson, toJson, Json.nesting, Json.nesting]
  simp only [Json.memberNesting_append, Json.memberNesting, memberNesting_present, hproperties,
    hactions, hinside]
  rfl

theorem nesting_normalInners (defaultSlot : String) (ts : Forest Block) :
    Json.itemNesting (blocksToJson (normalInners defaultSlot ts)) =
      Json.itemNesting (blocksToJson ts) := by
  induction ts using Forest.induction with
  | nil => rfl
  | cons b ts rest ih ih' =>
    rw [normalInners, normalInner, blocksToJson, blocksToJson, blockToJson, blockToJson,
      Json.itemNesting, Json.itemNesting, ih', Block.nesting_normal _ b ih]

theorem nesting_normalRoots (defaultSlot : String) (ts : Forest Block) :
    Json.itemNesting (blocksToJson (ts.map (normalRoot defaultSlot))) =
      Json.itemNesting (blocksToJson ts) := by
  induction ts using Forest.induction with
  | nil => rfl
  | cons b ts rest _ ih' =>
    have hinside := nesting_normalInners defaultSlot ts
    rw [List.map_cons, normalRoot, blocksToJson, blocksToJson, blockToJson, blockToJson,
      Json.itemNesting, Json.itemNesting, ih', Block.nesting_normal _ b hinside]

/-- **The normal form** nests as deep as the document. -/
theorem nesting_normal (defaultSlot : String) (d : Document) :
    (d.normal defaultSlot).toJson.nesting = d.toJson.nesting := by
  have hblocks : (Json.array (blocksToJson (d.normal defaultSlot).blocks)).nesting =
      (Json.array (blocksToJson d.blocks)).nesting := by
    rw [Json.nesting, Json.nesting, normal, nesting_normalRoots]
  rw [toJson, toJson, Json.nesting, Json.nesting]
  simp only [Json.memberNesting, hblocks]
  rfl

end Document

end FrameTree

import FrameTree.Proofs.Arranged
import FrameTree.Proofs.Content

/-!
# Rebuilding neither loses nor duplicates

In a frame whose ids and keys tell its entities apart, every block has one parent link, so it can
come up at one place at most. Rebuilding takes up the anchored blocks, each of them once, with the
actions that have its key, and in each action the anchored triggers, each of them once. What is not
anchored is left out: orphans, circles that hang on nothing, and actions without a block.

**Content** (`Rebuild.RecoveredBlock`). What is taken up matches what it was made from, field by
field.

The forest of the blocks that a document was rebuilt from is found by going back from the labels of
the document to the seeds that they were grown from (`Forest.of_mapM_grow`). Every seed is below the
block it points at, which makes the forest an arrangement of the blocks (`Arranged.of_lookup`).

Main result: `Rebuild.document_lossless`.
-/

namespace FrameTree

/-! ## Frames whose entities can be told apart -/

namespace Frame

/-- Ids tell the blocks apart, and so do keys; ids tell the triggers of an action apart. -/
structure Distinguished (F : Frame String) : Prop where
  blocks : Identified Block.id F.blocks
  keys : (F.blocks.map Block.key).Nodup
  triggers : ∀ a ∈ F.actions, Identified Trigger.id a.triggers

instance (F : Frame String) : Decidable F.Distinguished :=
  decidable_of_iff (Identified Block.id F.blocks ∧ (F.blocks.map Block.key).Nodup ∧
      ∀ a ∈ F.actions, Identified Trigger.id a.triggers)
    ⟨fun h => ⟨h.1, h.2.1, h.2.2⟩, fun h => ⟨h.blocks, h.keys, h.triggers⟩⟩

/-- Every link leads up to the top, and every action has the key of a block. -/
structure Closed (F : Frame String) : Prop where
  blocks : Grounded Block.id Block.parentId F.blocks
  triggers : ∀ a ∈ F.actions, Grounded Trigger.id Trigger.parentId a.triggers
  owned : ∀ a ∈ F.actions, ∃ b ∈ F.blocks, b.key = a.key

/-- The actions whose key is that of an anchored block. -/
noncomputable def anchoredActions (F : Frame String) : List (Action String) :=
  F.actions.filter fun a =>
    a.key ∈ (F.blocks.filter (Anchored Block.id Block.parentId F.blocks)).map Block.key

end Frame

/-! ## Grouping by keys -/

/-- Where no key comes twice, the members with one of the keys are those with the first key and
those with the others. -/
theorem perm_flatMap_filter_key {α κ : Type} [DecidableEq κ] (key : α → κ) (xs : List α)
    {keys : List κ} (hkeys : keys.Nodup) :
    (keys.flatMap fun k => xs.filter fun x => key x == k).Perm
      (xs.filter fun x => key x ∈ keys) := by
  induction keys with
  | nil => simp
  | cons k keys ih =>
    obtain ⟨hk, hkeys⟩ := List.nodup_cons.1 hkeys
    have hsplit := List.filter_append_perm (fun x => key x == k)
      (xs.filter fun x => key x ∈ k :: keys)
    have hfirst : (xs.filter fun x => key x ∈ k :: keys).filter (fun x => key x == k) =
        xs.filter fun x => key x == k := by
      rw [List.filter_filter]
      refine List.filter_congr fun x _ => ?_
      by_cases h : key x = k <;> simp [h]
    have hothers : (xs.filter fun x => key x ∈ k :: keys).filter (fun x => !(key x == k)) =
        xs.filter fun x => key x ∈ keys := by
      rw [List.filter_filter]
      refine List.filter_congr fun x _ => ?_
      by_cases h : key x = k <;> simp [h, hk]
    rw [hfirst, hothers] at hsplit
    rw [List.flatMap_cons]
    exact ((ih hkeys).append_left _).trans hsplit

namespace Rebuild

open FrameTree.Frame

/-! ## Where the parts come from -/

/-- An action of a document has the key and the event of an action of a frame, and of its triggers
the anchored ones, each of them once and with its own content. -/
structure Recovered (a : Action String) (a' : Document.Action) : Prop where
  key : a'.key = a.key
  event : a'.event = a.event
  triggers : ∃ (triggers : Forest (Trigger String)) (label : Trigger String → Document.Trigger),
    a'.triggers = Forest.relabel label triggers ∧
      Arranged Trigger.id Trigger.parentId a.triggers triggers ∧
      ∀ t ∈ Forest.labels triggers, t.Matches (label t)

/-- A block of a document has the content of a block of a frame, and its actions are those that have
its key. Its properties have a value for each breakpoint, and it is placed in the slot that the
block of the frame names, unless it is a root or no slot is named. -/
structure RecoveredBlock (F : Frame String) (b : Block String) (b' : Document.Block) : Prop where
  content : b.Matches b'
  value : ∀ p ∈ b'.properties, p.value = none
  slot : b'.slot = if b.parentId = "" ∨ b.slot = "" then none else some b.slot
  actions : List.Forall₂ Recovered (F.actionsOf b.key) b'.actions

/-- The actions with the keys of some blocks. -/
def actionsFor (F : Frame String) (blocks : Forest (Block String)) : List (Action String) :=
  (Forest.labels blocks).flatMap fun b => F.actionsOf b.key

/-- The blocks of a document are the anchored blocks of a frame, each of them once, and each with
its own content and its actions. Every action with the key of an anchored block comes up once. -/
structure RecoveredFrom (F : Frame String) (d : Document) (blocks : Forest (Block String))
    (label : Block String → Document.Block) : Prop where
  shape : d.blocks = Forest.relabel label blocks
  arranged : Arranged Block.id Block.parentId F.blocks blocks
  recovered : ∀ b ∈ Forest.labels blocks, RecoveredBlock F b (label b)
  owned : (actionsFor F blocks).Perm F.anchoredActions

/-- Nothing of a frame is missing: some blocks are all of its blocks, each of them once, their
actions are all actions, and an arrangement of the triggers of an action has all of them. -/
structure Complete (F : Frame String) (blocks : Forest (Block String)) : Prop where
  allBlocks : (Forest.labels blocks).Perm F.blocks
  allActions : (actionsFor F blocks).Perm F.actions
  allTriggers : ∀ a ∈ F.actions, ∀ triggers, Arranged Trigger.id Trigger.parentId a.triggers triggers →
    (Forest.labels triggers).Perm a.triggers

theorem recovered_of_action {limit : Nat} {a : Action String} {a' : Document.Action}
    (hid : Identified Trigger.id a.triggers) (h : action limit a = .ok a') : Recovered a a' := by
  let index := LinkIndex.ofList Trigger.parentId a.triggers
  obtain ⟨ts, hts, rfl⟩ := action_eq_ok_iff.1 h
  have hname : ∀ (t : Trigger String) (t' : Document.Trigger),
      (Except.ok t.toDocument : Except Error Document.Trigger) = .ok t' → t.toDocument = t' := by
    intro t t' ht
    cases ht
    rfl
  obtain ⟨us, rfl, hroots, hbelow⟩ := Forest.of_mapM_grow hname hts
  refine ⟨rfl, rfl, us, _, rfl, ?_, fun t _ => t.matches_toDocument⟩
  refine Arranged.of_lookup hid index.get (fun target t => LinkIndex.mem_get_ofList)
    (fun target => ?_) hroots (hbelow.imp fun t us hus => hus.2)
  rw [LinkIndex.get_ofList]
  exact hid.nodup_entities.filter _

theorem nodup_get_blockIndex {F : Frame String} (hid : Identified Block.id F.blocks)
    (target : String) : ((blockIndex F).get target).Nodup := by
  rw [blockIndex, LinkIndex.get_sortedBy, LinkIndex.get_ofList]
  exact (List.mergeSort_perm _ _).nodup_iff.2 (hid.nodup_entities.filter _)

/-- The actions that a block takes, or none where they cannot be rebuilt. -/
def actionsOrNone (limit : Nat) (F : Frame String) (b : Block String) : List Document.Action :=
  (((LinkIndex.ofList Action.key F.actions).get b.key).mapM (action limit)).toOption.getD []

theorem label_eq_ok {limit : Nat} {F : Frame String} {b : Block String} {b' : Document.Block}
    (h : label limit (LinkIndex.ofList Action.key F.actions) b = .ok b') :
    b.toDocument (b.parentId == "") (actionsOrNone limit F b) = b' ∧
      (F.actionsOf b.key).mapM (action limit) = .ok (actionsOrNone limit F b) := by
  obtain ⟨as, has, rfl⟩ := label_eq_ok_iff.1 h
  rw [actionsOrNone, has]
  rw [LinkIndex.get_ofList] at has
  exact ⟨rfl, has⟩

/-- The actions with the keys of the anchored blocks, block by block, are those with the key of an
anchored block. -/
theorem actionsFor_perm {F : Frame String} (hF : F.Distinguished) {blocks : Forest (Block String)}
    (h : Arranged Block.id Block.parentId F.blocks blocks) :
    (actionsFor F blocks).Perm F.anchoredActions := by
  have hkeys : ((F.blocks.filter (Anchored Block.id Block.parentId F.blocks)).map Block.key).Nodup :=
    hF.keys.sublist (List.filter_sublist.map _)
  have hgroups := perm_flatMap_filter_key Action.key F.actions hkeys
  rw [List.flatMap_map] at hgroups
  exact (h.perm.flatMap_right _).trans hgroups

/-- What a block is rebuilt as has the content of the block. -/
theorem recoveredBlock_of_label {limit : Nat} {F : Frame String} {b : Block String}
    {b' : Document.Block} (hF : F.Distinguished)
    (h : label limit (LinkIndex.ofList Action.key F.actions) b = .ok b') :
    RecoveredBlock F b (b.toDocument (b.parentId == "") (actionsOrNone limit F b)) where
  content := b.matches_toDocument _ _
  value p hp := by
    obtain ⟨e, -, rfl⟩ := List.mem_map.1 hp
    rfl
  slot := by
    show b.documentSlot (b.parentId == "") = _
    simp only [Block.documentSlot_eq, beq_iff_eq]
  actions := (forall₂_of_mapM (label_eq_ok h).2).imp fun a a' ha =>
    recovered_of_action (hF.triggers a (List.mem_of_mem_filter ha.1)) ha.2

/-- A document comes from the anchored blocks of the frame. -/
theorem exists_recoveredFrom {settings : Settings} {F : Frame String} {schema : String}
    {d : Document} (hF : F.Distinguished) (h : document settings F schema = .ok d) :
    ∃ blocks label, RecoveredFrom F d blocks label := by
  obtain ⟨ts, hts, rfl⟩ := document_eq_ok_iff.1 h
  obtain ⟨blocks, rfl, hroots, hbelow⟩ := Forest.of_mapM_grow
    (fun b b' hb => (label_eq_ok (F := F) hb).1) hts
  have harranged : Arranged Block.id Block.parentId F.blocks blocks :=
    Arranged.of_lookup hF.blocks (blockIndex F).get (fun target b => mem_get_blockIndex)
      (nodup_get_blockIndex hF.blocks) hroots (hbelow.imp fun b us hus => hus.2)
  refine ⟨blocks, _, rfl, harranged, fun b hb => ?_, actionsFor_perm hF harranged⟩
  obtain ⟨us, ⟨hlabel, -⟩, -⟩ := Forest.children_of_mem_labels hbelow hb
  exact recoveredBlock_of_label hF hlabel

end Rebuild

/-! ## A frame with strays -/

namespace Frame

/-- A block with the given links. -/
def box (id parentId key : String) : Block String :=
  let data : BlockData String :=
    { id := "data", blockId := id, key := "text", value := "title", kind := "STRING",
      description := "", deprecated := false, deprecatedReason := "" }
  let property : Property String :=
    { id := "property", blockId := id, key := "color", mobile := "red", tablet := "green",
      desktop := "blue", kind := "COLOR", description := "", picker := "", pickerGroup := "",
      pickerOptions := "", deprecated := false, deprecatedReason := "" }
  let slot : Slot String :=
    { id := "slot", blockId := id, name := "content", description := "", deprecated := false,
      deprecatedReason := "" }
  { id, frameId := "frame", keyType := "BOX", key, visibilityKey := "", position := 0,
    slot := "content", version := 1, parentId, data := [data], properties := [property],
    slots := [slot], deprecated := false, deprecatedReason := "" }

/-- A trigger with the given links. -/
def log (id parentId name : String) : Trigger String :=
  let property : TriggerProperty String :=
    { id := "property", triggerId := id, key := "level", value := "warning", kind := "STRING",
      description := "", picker := "", pickerGroup := "", pickerOptions := "",
      deprecated := false, deprecatedReason := "" }
  let data : TriggerData String :=
    { id := "data", triggerId := id, key := "text", value := "title", kind := "STRING",
      description := "", deprecated := false, deprecatedReason := "" }
  { id, actionId := "click", parentId, keyType := "LOG", mode := .next, name, version := 1,
    properties := [property], data := [data], deprecated := false, deprecatedReason := "" }

/-- A frame with the given entities. -/
def ofLists (blocks : List (Block String)) (actions : List (Action String)) : Frame String :=
  { id := "frame", name := "boxes", route := "", routeArguments := [], kind := .frame,
    isStarter := false, projectId := "", checksum := "", vars := [], blocks, actions }

/-- A block and a trigger inside another one, each listed before its parent. -/
def joined : Frame String :=
  ofLists [box "b" "a" "inner", box "a" "" "outer"]
    [⟨"click", "frame", "inner", "onClick", [log "t" "s" "second", log "s" "" "first"]⟩]

/-- The same with an orphan, a ring of two blocks, a trigger below itself and an action that no
block has. -/
def scattered : Frame String :=
  ofLists
    [box "b" "a" "inner", box "c" "gone" "orphan", box "a" "" "outer", box "d" "e" "ring",
      box "e" "d" "ring too"]
    [⟨"click", "frame", "inner", "onClick",
        [log "t" "s" "second", log "u" "u" "loop", log "s" "" "first"]⟩,
      ⟨"press", "frame", "nobody", "onPress", []⟩]

theorem closed_joined : joined.Closed where
  blocks := by
    have hid : Identified Block.id joined.blocks := by decide
    have houter : Anchored Block.id Block.parentId joined.blocks (box "a" "" "outer") :=
      .of_root (by decide) rfl
    have hinner := houter.child (b := box "b" "a" "inner") (by decide) rfl
    refine (Grounded.iff_anchored hid).2 ?_
    exact List.forall_mem_cons.2 ⟨hinner, List.forall_mem_singleton.2 houter⟩
  triggers a ha := by
    obtain rfl := List.mem_singleton.1 ha
    have hid : Identified Trigger.id [log "t" "s" "second", log "s" "" "first"] := by decide
    have hfirst : Anchored Trigger.id Trigger.parentId
        [log "t" "s" "second", log "s" "" "first"] (log "s" "" "first") := .of_root (by decide) rfl
    have hsecond := hfirst.child (b := log "t" "s" "second") (by decide) rfl
    refine (Grounded.iff_anchored hid).2 ?_
    exact List.forall_mem_cons.2 ⟨hsecond, List.forall_mem_singleton.2 hfirst⟩
  owned := by decide

end Frame

/-- The document of both frames. -/
def Document.gathered : Document :=
  let title : Document.Binding :=
    { key := "text", value := "title", kind := "STRING", description := "" }
  let color : Document.Property :=
    { key := "color", value := none, mobile := "red", tablet := "green", desktop := "blue",
      kind := "COLOR", description := "", picker := "", pickerGroup := "", pickerOptions := "" }
  let level : Document.TriggerProperty :=
    { key := "level", value := "warning", kind := "STRING", description := "", picker := "",
      pickerGroup := "", pickerOptions := "" }
  let outer : Document.Block :=
    { keyType := "BOX", key := "outer", visibilityKey := "", slot := none, version := 1,
      properties := [color], data := [title], slots := [⟨"content", ""⟩], actions := [] }
  let first : Document.Trigger :=
    { keyType := "LOG", mode := .next, name := "first", version := 1, properties := [level],
      data := [title] }
  let chain : Forest Document.Trigger := [.node first [.node { first with name := "second" } []]]
  let inner : Document.Block :=
    { outer with key := "inner", slot := some "content", actions := [⟨"inner", "onClick", chain⟩] }
  { schema := "frame.json", name := "boxes", route := "", kind := .frame, isStarter := false,
    vars := [], blocks := [.node outer [.node inner []]] }

namespace Rebuild

open FrameTree.Frame

theorem document_joined :
    document { Settings.standard with maxDepth := 2 } .joined "frame.json" = .ok .gathered := by
  simp [document, block, label, action, trigger, Tree.grow, LinkIndex.roots, joined, ofLists, box,
    log, Block.toDocument, Block.documentSlot, Trigger.toDocument, Property.toDocument,
    BlockData.toDocument, Slot.toDocument, TriggerProperty.toDocument, TriggerData.toDocument,
    Document.gathered, bind, Except.bind, pure, Except.pure]

theorem document_scattered :
    document { Settings.standard with maxDepth := 2 } .scattered "frame.json" = .ok .gathered := by
  simp [document, block, label, action, trigger, Tree.grow, LinkIndex.roots, scattered, ofLists,
    box, log, Block.toDocument, Block.documentSlot, Trigger.toDocument, Property.toDocument,
    BlockData.toDocument, Slot.toDocument, TriggerProperty.toDocument, TriggerData.toDocument,
    Document.gathered, bind, Except.bind, pure, Except.pure]

/-! ## Nothing is lost -/

variable {F : Frame String}

theorem anchoredActions_of_closed (h : F.Closed) : F.anchoredActions = F.actions := by
  refine List.filter_eq_self.2 fun a ha => decide_eq_true ?_
  obtain ⟨b, hb, hkey⟩ := h.owned a ha
  exact List.mem_map.2 ⟨b, List.mem_filter.2 ⟨hb, decide_eq_true (h.blocks.anchored hb)⟩, hkey⟩

/-- **Rebuilding neither loses nor duplicates.** If the entities of a frame can be told apart, then
the blocks of its document are the anchored blocks of the frame, each of them once and with its own
content; the actions are those with the key of an anchored block, each of them once; and each of
them has its anchored triggers, each of them once. If every link leads up to the top and every
action has the key of a block, then nothing is missing. -/
theorem document_lossless {settings : Settings} {schema : String} {d : Document}
    (hF : F.Distinguished) (h : document settings F schema = .ok d) :
    ∃ blocks label, RecoveredFrom F d blocks label ∧ (F.Closed → Complete F blocks) := by
  obtain ⟨blocks, label, hblocks⟩ := exists_recoveredFrom hF h
  refine ⟨blocks, label, hblocks, fun hclosed => ⟨?_, ?_, ?_⟩⟩
  · exact hblocks.arranged.perm_of_grounded hclosed.blocks
  · rw [← anchoredActions_of_closed hclosed]
    exact hblocks.owned
  · intro a ha triggers htriggers
    exact htriggers.perm_of_grounded (hclosed.triggers a ha)

theorem document_lossless_scattered :
    (scattered.Distinguished ∧
      document { Settings.standard with maxDepth := 2 } .scattered "frame.json" = .ok .gathered ∧
      ∃ blocks label, RecoveredFrom .scattered .gathered blocks label) ∧
    (joined.Distinguished ∧ joined.Closed ∧
      document { Settings.standard with maxDepth := 2 } .joined "frame.json" = .ok .gathered ∧
      ∃ blocks label, RecoveredFrom .joined .gathered blocks label ∧
        Complete .joined blocks) := by
  have hscattered : scattered.Distinguished := by decide
  have hjoined : joined.Distinguished := by decide
  obtain ⟨blocks, label, hfrom, -⟩ := document_lossless hscattered document_scattered
  obtain ⟨blocks', label', hfrom', hall⟩ := document_lossless hjoined document_joined
  exact ⟨⟨hscattered, document_scattered, blocks, label, hfrom⟩, hjoined, closed_joined,
    document_joined, blocks', label', hfrom', hall closed_joined⟩

end Rebuild

end FrameTree

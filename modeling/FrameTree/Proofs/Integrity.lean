import FrameTree.Proofs.Flattening
import FrameTree.Proofs.Fresh

/-!
# Flat frames are intact

A frame says by texts alone what belongs to what. In an intact frame all of these texts lead
somewhere (`Frame.Intact`): a link to the one entity that has the id or the key, a data entry to a
variable, a foreign key to the owner. The rules of a frame hold as well, read off the links: a block
is in a slot of its parent, and no trigger that ends its chain is a parent.

Foreign keys are right with any ids (`Frame.owned_placed`), and links to what has a key need
distinct keys only. The links between blocks and between triggers need fresh ids.

Main result: `Frame.intact_of_flattened`.
-/

namespace FrameTree

variable {ι : Type}

namespace Frame

/-! ## Foreign keys -/

structure Trigger.Owned (actionId : ι) (t : Trigger ι) : Prop where
  action : t.actionId = actionId
  properties : ∀ p ∈ t.properties, p.triggerId = t.id
  data : ∀ x ∈ t.data, x.triggerId = t.id

structure Action.Owned (frameId : ι) (a : Action ι) : Prop where
  frame : a.frameId = frameId
  triggers : ∀ t ∈ a.triggers, t.Owned a.id

structure Block.Owned (frameId : ι) (b : Block ι) : Prop where
  frame : b.frameId = frameId
  properties : ∀ p ∈ b.properties, p.blockId = b.id
  data : ∀ x ∈ b.data, x.blockId = b.id
  slots : ∀ s ∈ b.slots, s.blockId = b.id

/-- Every foreign key is the id of the owner. -/
structure Owned (F : Frame ι) : Prop where
  vars : ∀ v ∈ F.vars, v.frameId = F.id
  blocks : ∀ b ∈ F.blocks, b.Owned F.id
  actions : ∀ a ∈ F.actions, a.Owned F.id

/-! ## Links -/

/-- A trigger that points at an id points at the one trigger of the action that has it, and that
trigger does not end the chain. -/
def Action.Linked (a : Action String) : Prop :=
  ∀ t ∈ a.triggers, t.parentId ≠ "" →
    ∃ p, (a.triggers.filter fun u => u.id == t.parentId) = [p] ∧ p.mode ≠ .finish

/-- A block that points at an id points at the one block of the frame that has it, and is in a slot
of that block if it has slots. -/
def Linked (F : Frame String) : Prop :=
  ∀ b ∈ F.blocks, b.parentId ≠ "" →
    ∃ p, (F.blocks.filter fun c => c.id == b.parentId) = [p] ∧
      (p.slots = [] ∨ b.slot ∈ p.slots.map (·.name))

/-- All texts that stand for something in a frame lead there. -/
structure Intact (F : Frame String) : Prop where
  keys : (F.blocks.map (·.key)).Nodup
  blocks : F.Linked
  blockData : ∀ b ∈ F.blocks, ∀ x ∈ b.data, x.value ∈ F.vars.map (·.key)
  triggerData : ∀ a ∈ F.actions, ∀ t ∈ a.triggers, ∀ x ∈ t.data, x.value ∈ F.vars.map (·.key)
  actions : ∀ a ∈ F.actions, ∃ b, (F.blocks.filter fun c => c.key == a.key) = [b]
  triggers : ∀ a ∈ F.actions, a.Linked
  owned : F.Owned

/-! ## The frame of a document -/

section

variable {I : Issuer ι} {settings : Settings} {n : Nat} {d : Document}

theorem Trigger.owned_placed (actionId : ι) (s : Spot Document.Trigger) :
    (Document.Trigger.placed I actionId s).Owned actionId where
  action := rfl
  properties p hp := by
    obtain ⟨id, x, -, rfl⟩ := Issuer.mem_parts hp
    rfl
  data x hx := by
    obtain ⟨id, y, -, rfl⟩ := Issuer.mem_parts hx
    rfl

theorem Action.owned_placed (frameId : ι) (key : String) (m : Nat) (a : Document.Action) :
    (a.placed I frameId key m).Owned frameId where
  frame := rfl
  triggers t ht := by
    obtain ⟨s, -, rfl⟩ := List.mem_map.1 ht
    exact Trigger.owned_placed _ s

theorem Block.owned_placed (frameId : ι) (s : Spot Document.Block) :
    (Document.Block.placed I settings frameId s).Owned frameId where
  frame := rfl
  properties p hp := by
    obtain ⟨id, x, -, rfl⟩ := Issuer.mem_parts hp
    rfl
  data x hx := by
    obtain ⟨id, y, -, rfl⟩ := Issuer.mem_parts hx
    rfl
  slots x hx := by
    obtain ⟨id, y, -, rfl⟩ := Issuer.mem_parts hx
    rfl

theorem owned_placed : (d.placed I settings n).Owned where
  vars v hv := by
    obtain ⟨id, x, -, rfl⟩ := Issuer.mem_parts hv
    rfl
  blocks b hb := by
    obtain ⟨s, -, rfl⟩ := List.mem_map.1 hb
    exact Block.owned_placed _ s
  actions a ha := by
    obtain ⟨s, -, m, b, -, -, -, rfl⟩ := Document.mem_placed_actions ha
    exact Action.owned_placed _ _ m b

theorem keys_placed :
    (d.placed I settings n).blocks.map (·.key) =
      (Forest.labels d.blocks).map Document.Block.key := by
  rw [← Document.keys_spots n d]
  exact List.map_map

theorem vars_placed :
    (d.placed I settings n).vars.map (·.key) = d.vars.map Document.Variable.key :=
  I.map_parts (Document.Variable.flat _) (fun _ _ => rfl) _ _

/-- The key of an action is that of one block. -/
theorem filter_key_of_action (hkeys : ((Forest.labels d.blocks).map Document.Block.key).Nodup)
    {a : Action ι} (ha : a ∈ (d.placed I settings n).actions) :
    ∃ b, ((d.placed I settings n).blocks.filter fun c => c.key == a.key) = [b] := by
  obtain ⟨s, hs, m, b, -, -, -, rfl⟩ := Document.mem_placed_actions ha
  have hnodup : ((d.placed I settings n).blocks.map Block.key).Nodup := by
    rwa [keys_placed]
  have hmem : Document.Block.placed I settings (I.id n) s ∈ (d.placed I settings n).blocks :=
    List.mem_map_of_mem hs
  exact ⟨_, filter_key hnodup hmem⟩

end

section

variable {I : Issuer String} {settings : Settings} {n : Nat} {d : Document}

/-- Without a fault, no trigger that ends its chain is a parent. -/
theorem Action.linked_placed {frameId key : String} {m : Nat} {a : Document.Action}
    {vars : List String} (hI : I.Fresh m (m + a.idCount))
    (ha : Document.Action.faults vars a = []) : (a.placed I frameId key m).Linked := by
  intro t ht hne
  obtain ⟨s, hs, rfl⟩ := List.mem_map.1 ht
  have hends : Forest.All (fun s us => s.label.mode = .finish → us = []) (a.spots (m + 1)) := by
    have hvisits := Forest.all_of_visits (Document.Action.faults_eq_nil_iff.1 ha)
    rw [← a.relabel_spots (m + 1), Forest.all_relabel] at hvisits
    refine hvisits.imp fun s us hus hmode => ?_
    obtain ⟨q, hq⟩ := hus
    have hlength := (Document.Trigger.faults_eq_nil_iff.1 hq).1 hmode
    rwa [Forest.length_relabel, List.length_eq_zero_iff] at hlength
  obtain ⟨p, us, hp, hsus, hscan⟩ := hI.triggers.filter_parent
    (Document.Trigger.placed I (I.id m)) Trigger.id Trigger.parentId
    Document.Trigger.idCount_pos (fun _ => rfl) (fun _ => rfl) hends hs hne
  refine ⟨_, hscan, fun hmode => ?_⟩
  rw [hp hmode] at hsus
  cases hsus

/-- Without a fault, every block is in a slot of its parent. -/
theorem linked_placed {vars : List String} (hI : I.Fresh n (n + d.idCount))
    (hd : ∀ v ∈ Forest.visits none d.blocks, Document.Block.faults settings vars v = []) :
    (d.placed I settings n).Linked := by
  intro b hb hne
  obtain ⟨s, hs, rfl⟩ := List.mem_map.1 hb
  have hslots : Forest.All (fun p us => ∀ s ∈ Forest.roots us, p.label.slots = [] ∨
      s.label.slot.getD settings.defaultSlot ∈ p.label.slots.map Document.Slot.name)
        (d.spots n) := by
    have hvisits := Forest.all_of_visits_below hd
    rw [← d.relabel_spots n, Forest.all_relabel] at hvisits
    refine hvisits.imp fun p us hus s hs => ?_
    obtain ⟨k, hk⟩ := hus s.label (by rw [Forest.roots_relabel]; exact List.mem_map_of_mem hs)
    exact Document.slotFaults_some_eq_nil_iff.1 (Document.Block.faults_eq_nil_iff.1 hk).1
  obtain ⟨p, us, hp, hsus, hscan⟩ := hI.blocks.filter_parent
    (Document.Block.placed I settings (I.id n)) Block.id Block.parentId
    Document.Block.idCount_pos (fun _ => rfl) (fun _ => rfl) hslots hs hne
  have hnames : (Document.Block.placed I settings (I.id n) p).slots.map Slot.name =
      p.label.slots.map Document.Slot.name :=
    I.map_parts (Document.Slot.flat _) (fun _ _ => rfl) _ _
  refine ⟨_, hscan, (hp s hsus).imp (fun hnil => ?_) fun hslot => ?_⟩
  · rwa [← List.map_eq_nil_iff (f := Slot.name), hnames, List.map_eq_nil_iff]
  · rwa [hnames]

/-- The frame of a document without faults is intact. -/
theorem intact_placed (hI : I.Fresh n (n + d.idCount)) (hd : d.faults settings = []) :
    (d.placed I settings n).Intact := by
  obtain ⟨-, hvisits, hkeys⟩ := Document.faults_eq_nil_iff.1 hd
  have hblocks {s : Spot Document.Block} (hs : s ∈ Forest.labels (d.spots n)) :
      (∀ a ∈ s.label.actions, Document.Action.faults (d.vars.map Document.Variable.key) a = []) ∧
        ∀ x ∈ s.label.data, x.value ∈ d.vars.map Document.Variable.key := by
    obtain ⟨q, k, hlabel⟩ := Forest.forall_labels_of_visits hvisits
      (Forest.mem_labels_of_mem_numbered hs)
    exact (Document.Block.faults_eq_nil_iff.1 hlabel).2
  constructor
  case keys => rwa [keys_placed]
  case blocks => exact linked_placed hI hvisits
  case blockData =>
    intro b hb x hx
    obtain ⟨s, hs, rfl⟩ := List.mem_map.1 hb
    obtain ⟨id, y, hy, rfl⟩ := Issuer.mem_parts hx
    rw [vars_placed]
    exact (hblocks hs).2 y hy
  case triggerData =>
    intro a ha t ht x hx
    obtain ⟨s, hs, m, b, hb, -, -, rfl⟩ := Document.mem_placed_actions ha
    obtain ⟨u, hu, rfl⟩ := List.mem_map.1 ht
    obtain ⟨id, y, hy, rfl⟩ := Issuer.mem_parts hx
    obtain ⟨q, k, hlabel⟩ := Forest.forall_labels_of_visits
      (Document.Action.faults_eq_nil_iff.1 ((hblocks hs).1 b hb))
      (Forest.mem_labels_of_mem_numbered hu)
    rw [vars_placed]
    exact (Document.Trigger.faults_eq_nil_iff.1 hlabel).2 y hy
  case actions => exact fun a ha => filter_key_of_action hkeys ha
  case triggers =>
    intro a ha
    obtain ⟨s, hs, m, b, hb, hm, hm', rfl⟩ := Document.mem_placed_actions ha
    exact Action.linked_placed (hI.mono hm hm') ((hblocks hs).1 b hb)
  case owned => exact owned_placed

end

/-- **Referential integrity.** What a document was flattened to is intact. -/
theorem intact_of_flattened {f : Flattener String} {d : Document} {ledger ledger' : Ledger}
    {F : Frame String} (h : f.flatten d ledger = .ok (.flattened F) ledger')
    (hI : f.issuer.Fresh ledger.issued ledger'.issued) : F.Intact := by
  obtain ⟨hfaults, rfl, hissued⟩ := Flattener.eq_of_flattened h
  obtain ⟨-, -, -, hd⟩ := (f.faults_eq_nil_iff d).1 hfaults
  rw [hissued] at hI
  exact intact_placed hI hd

theorem intact_of_flattened_profile :
    Flattener.standard.flatten .profile .empty =
        .ok (.flattened (Document.placed (.sequential "id") .standard 0 .profile))
          { Flattener.standard.asked .profile .empty with issued := 13 } ∧
      (Issuer.sequential "id").Fresh 0 13 ∧
      (Document.placed (.sequential "id") .standard 0 .profile).Intact :=
  have hflatten := Flattener.flatten_of_no_faults .empty Flattener.faults_profile
  have hfresh := Issuer.fresh_sequential "id" 0 13
  have hintact := intact_of_flattened hflatten hfresh
  ⟨hflatten, hfresh, hintact⟩

end Frame

end FrameTree

import FrameTree.Proofs.Content
import FrameTree.Proofs.Flattening
import FrameTree.Proofs.Fresh
import FrameTree.Proofs.Growth

/-!
# Rebuilding recovers the normal form

Flattening a document and rebuilding the frame gives the document with everything implicit written
out. The proof follows the parts of a block outwards: the data of a trigger, the triggers of an
action, the actions of a block, the blocks of the document. Each time fresh ids make the look-up of
an id give the children in order (`Issuer.Fresh.filter_children`), so growing from the roots gives
back the forest that was flattened (`Forest.mapM_grow`). The actions of a block are found by its
key, which no other block has (`Rebuild.filter_actions`).

Main results: `Rebuild.action_placed`, `Rebuild.document_placed`, `Rebuild.document_of_flattened`.
-/

namespace FrameTree

namespace Document

/-- The normal form of a block where the walk comes to it: a root block has no slot. -/
def Block.normalAt (defaultSlot : String) (s : Spot Block) : Block :=
  s.label.normal (if s.parent = none then none else s.label.innerSlot defaultSlot)

theorem normalInners_eq (defaultSlot : String) (i k n : Nat) (ts : Forest Block) :
    Forest.relabel (Block.normalAt defaultSlot) (Forest.numbered Block.idCount (some i) k n ts) =
      normalInners defaultSlot ts := by
  induction ts using Forest.induction generalizing i k n with
  | nil => rfl
  | cons b ts rest ih ih' =>
    rw [Forest.numbered_cons, Forest.relabel_cons, ih, ih', normalInners, normalInner]
    rfl

/-- Relabelling the numbered blocks gives those of the normal form. -/
theorem relabel_normalAt (defaultSlot : String) (k n : Nat) (ts : Forest Block) :
    Forest.relabel (Block.normalAt defaultSlot) (Forest.numbered Block.idCount none k n ts) =
      ts.map (normalRoot defaultSlot) := by
  induction ts using Forest.induction generalizing k n with
  | nil => rfl
  | cons b ts rest _ ih' =>
    rw [Forest.numbered_cons, Forest.relabel_cons, ih', normalInners_eq, List.map_cons, normalRoot]
    rfl

end Document

/-! ## Parts -/

namespace Frame

variable (I : Issuer String)

theorem Trigger.toDocument_placed (actionId : String) (s : Spot Document.Trigger) :
    (Document.Trigger.placed I actionId s).toDocument = s.label := by
  rw [Document.Trigger.placed, Trigger.toDocument]
  dsimp only [Document.Trigger.flat]
  rw [I.map_parts_eq_self (Document.TriggerProperty.flat _) fun _ _ => rfl,
    I.map_parts_eq_self (Document.Binding.flatInTrigger _) fun _ _ => rfl]

theorem Property.toDocument_flat (blockId id : String) (p : Document.Property) :
    (p.flat blockId id).toDocument = p.normal := by
  rw [Document.Property.flat, p.breakpoints_eq]
  rfl

theorem Block.toDocument_placed (settings : Settings) (frameId : String) (s : Spot Document.Block)
    (isRoot : Bool) :
    (Document.Block.placed I settings frameId s).toDocument isRoot
        (s.label.actions.map fun a => { a with key := s.label.key }) =
      s.label.normal (if isRoot then none else s.label.innerSlot settings.defaultSlot) := by
  have hslot : (Document.Block.placed I settings frameId s).documentSlot isRoot =
      if isRoot then none else s.label.innerSlot settings.defaultSlot := by
    rw [Block.documentSlot_eq]
    cases isRoot
    · simp only [Bool.false_eq_true, false_or, if_false]
      rfl
    · simp only [true_or, if_true]
  rw [Block.toDocument, hslot, Document.Block.placed]
  dsimp only [Document.Block.flat]
  rw [I.map_parts (Document.Property.flat _) (Property.toDocument_flat _),
    I.map_parts_eq_self (Document.Binding.flatInBlock _) fun _ _ => rfl,
    I.map_parts_eq_self (Document.Slot.flat _) fun _ _ => rfl, Document.Block.normal]

end Frame

/-! ## Links -/

namespace Rebuild

variable {I : Issuer String}

/-- An action of a frame gives back the action of the document, with the key of its block. -/
theorem action_placed {limit n : Nat} {a : Document.Action} (frameId key : String)
    (hI : I.Fresh n (n + a.idCount)) (hdepth : Forest.depth a.triggers ≤ limit) :
    action limit (a.placed I frameId key n) = .ok { a with key } := by
  let make := Document.Trigger.placed I (I.id n)
  let index := LinkIndex.ofList Frame.Trigger.parentId (a.placed I frameId key n).triggers
  have hroots : index.roots = (Forest.roots (a.spots (n + 1))).map make := by
    rw [LinkIndex.roots, LinkIndex.get_ofList]
    exact hI.triggers.filter_roots make Frame.Trigger.parentId Document.Trigger.idCount_pos
      fun _ => rfl
  have hchildren : Forest.All (fun s us => index.get (make s).id = (Forest.roots us).map make)
      (a.spots (n + 1)) := by
    simp only [index, LinkIndex.get_ofList]
    exact hI.triggers.filter_children make Frame.Trigger.id Frame.Trigger.parentId
      Document.Trigger.idCount_pos (fun _ => rfl) fun _ => rfl
  have hgrow : index.roots.mapM (trigger limit index) = .ok a.triggers := by
    rw [hroots, ← a.relabel_spots (n + 1)]
    refine Forest.mapM_grow (hchildren.imp fun s us hus => ⟨?_, hus⟩) ?_
    · rw [Frame.Trigger.toDocument_placed]
    · rwa [← Forest.depth_relabel Spot.label, a.relabel_spots]
  show (index.roots.mapM (trigger limit index) >>= fun ts => _) = _
  rw [hgrow]
  rfl

theorem actions_placed {limit : Nat} {s : Spot Document.Block} (frameId : String)
    (hI : I.Fresh s.index (s.index + s.label.idCount))
    (hdepth : ∀ a ∈ s.label.actions, Forest.depth a.triggers ≤ limit) :
    (Document.Block.placedActions I frameId s).mapM (action limit) =
      .ok (s.label.actions.map fun a => { a with key := s.label.key }) := by
  have hmap : (Document.Block.placedActions I frameId s).map (action limit) =
      s.label.actions.map fun a => .ok { a with key := s.label.key } := by
    refine map_consecutive fun m a ha hm hm' => ?_
    refine action_placed frameId s.label.key (hI.mono (by omega) ?_) (hdepth a ha)
    rw [Document.Block.idCount]
    omega
  calc (Document.Block.placedActions I frameId s).mapM (action limit)
      = ((Document.Block.placedActions I frameId s).map (action limit)).mapM id :=
        (List.mapM_map (f := action limit) (g := id)).symm
    _ = s.label.actions.mapM fun a => .ok { a with key := s.label.key } := by
        rw [hmap, List.mapM_map]
        rfl
    _ = _ := List.mapM_pure

section

variable {settings : Settings} {n : Nat} {d : Document}

/-- The actions with the key of a block are its own. -/
theorem filter_actions {ι : Type} {I : Issuer ι}
    (hkeys : ((Forest.labels d.blocks).map Document.Block.key).Nodup)
    {s : Spot Document.Block} (hs : s ∈ Forest.labels (d.spots n)) :
    ((d.placed I settings n).actions.filter fun a => a.key == s.label.key) =
      Document.Block.placedActions I (I.id n) s := by
  have hkey (t : Spot Document.Block) :
      ∀ a ∈ Document.Block.placedActions I (I.id n) t, a.key = t.label.key := by
    intro a ha
    obtain ⟨m, b, -, -, -, rfl⟩ := mem_consecutive ha
    rfl
  rw [← Document.keys_spots n d] at hkeys
  exact filter_flatMap_key hkey hkeys hs

/-- A block of a frame, together with the actions that have its key, gives back the normal form of
the block. -/
theorem label_placed (hI : I.Fresh n (n + d.idCount))
    (hkeys : ((Forest.labels d.blocks).map Document.Block.key).Nodup)
    (hwithin : Nesting.Within settings.maxDepth d.blocks) {s : Spot Document.Block}
    (hs : s ∈ Forest.labels (d.spots n)) :
    label settings.maxDepth (LinkIndex.ofList Frame.Action.key (d.placed I settings n).actions)
        (Document.Block.placed I settings (I.id n) s) =
      .ok (Document.Block.normalAt settings.defaultSlot s) := by
  have hindex := Document.index_spots hs
  have hfresh : I.Fresh s.index (s.index + s.label.idCount) := hI.mono (by omega) hindex.2
  have hmem : s.label ∈ Forest.labels d.blocks := Forest.mem_labels_of_mem_numbered hs
  have hroot : ((Document.Block.placed I settings (I.id n) s).parentId == "") =
      decide (s.parent = none) := by
    rw [Bool.eq_iff_iff, beq_iff_eq, decide_eq_true_iff]
    exact hI.blocks.link_eq_empty_iff fun i hi =>
      Forest.parent_bounds Document.Block.idCount_pos hs hi
  show (((LinkIndex.ofList Frame.Action.key (d.placed I settings n).actions).get s.label.key).mapM
    (action settings.maxDepth) >>= fun actions => _) = _
  rw [LinkIndex.get_ofList, filter_actions hkeys hs, actions_placed (I.id n) hfresh
    (hwithin.2 s.label hmem)]
  refine congrArg Except.ok ?_
  rw [Frame.Block.toDocument_placed, hroot, Document.Block.normalAt]
  simp only [decide_eq_true_eq]

/-- Blocks with consecutive positions are in order. -/
theorem get_blockIndex {target : String} {us : Forest (Spot Document.Block)}
    (hscan : ((d.placed I settings n).blocks.filter fun b => b.parentId == target) =
      (Forest.roots us).map (Document.Block.placed I settings (I.id n)))
    (hplace : (Forest.roots us).map Spot.place = List.range us.length) :
    (blockIndex (d.placed I settings n)).get target =
      (Forest.roots us).map (Document.Block.placed I settings (I.id n)) := by
  have hsorted : ((Forest.roots us).map Spot.place).Pairwise (· ≤ ·) := by
    rw [hplace]
    exact List.pairwise_le_range
  rw [← LinkIndex.get_ofList] at hscan
  rw [blockIndex, LinkIndex.get_sortedBy_of_pairwise, hscan]
  rw [hscan, List.pairwise_map]
  exact List.pairwise_map.1 hsorted

theorem roots_blockIndex (hI : I.Fresh n (n + d.idCount)) :
    (blockIndex (d.placed I settings n)).roots =
      (Forest.roots (d.spots n)).map (Document.Block.placed I settings (I.id n)) := by
  refine get_blockIndex (hI.blocks.filter_roots _ Frame.Block.parentId Document.Block.idCount_pos
    fun _ => rfl) ?_
  rw [List.range_eq_range']
  exact Forest.place_roots_numbered _ _ _ _ _

theorem children_blockIndex (hI : I.Fresh n (n + d.idCount)) :
    Forest.All (fun s us =>
        (blockIndex (d.placed I settings n)).get (Document.Block.placed I settings (I.id n) s).id =
          (Forest.roots us).map (Document.Block.placed I settings (I.id n)))
      (d.spots n) := by
  have hscan := hI.blocks.filter_children (k := 0) (Document.Block.placed I settings (I.id n))
    Frame.Block.id Frame.Block.parentId Document.Block.idCount_pos (fun _ => rfl) fun _ => rfl
  have hplace := Forest.all_place_numbered Document.Block.idCount none 0 (n + 1 + d.vars.length)
    d.blocks
  exact (hscan.and hplace).imp fun s us hus => get_blockIndex hus.1 hus.2

/-- The frame of a document gives back the document in normal form. -/
theorem document_placed (hI : I.Fresh n (n + d.idCount))
    (hkeys : ((Forest.labels d.blocks).map Document.Block.key).Nodup)
    (hwithin : Nesting.Within settings.maxDepth d.blocks) :
    document settings (d.placed I settings n) d.schema = .ok (d.normal settings.defaultSlot) := by
  let F := d.placed I settings n
  let grow := block settings.maxDepth (blockIndex F) (LinkIndex.ofList Frame.Action.key F.actions)
  have hlabel := Forest.all_of_labels fun s hs => label_placed (s := s) hI hkeys hwithin hs
  have hgrow : (blockIndex F).roots.mapM grow =
      .ok (d.blocks.map (Document.normalRoot settings.defaultSlot)) := by
    rw [roots_blockIndex hI, ← Document.relabel_normalAt]
    refine Forest.mapM_grow (hlabel.and (children_blockIndex hI)) ?_
    rw [← Forest.depth_relabel Spot.label, d.relabel_spots]
    exact hwithin.1
  have hvars : F.vars.map Frame.Variable.toDocument = d.vars :=
    I.map_parts_eq_self (Document.Variable.flat _) (fun _ _ => rfl) _ _
  show ((blockIndex F).roots.mapM grow >>= fun blocks => _) = _
  rw [hgrow]
  show Except.ok ({ d with vars := F.vars.map Frame.Variable.toDocument, blocks := _ } :
    Document) = _
  rw [hvars, Document.normal]

end

/-- **Round trip.** Rebuilding what a document was flattened to gives the document in its normal
form. -/
theorem document_of_flattened {f : Flattener String} {d : Document} {ledger ledger' : Ledger}
    {F : Frame String} (h : f.flatten d ledger = .ok (.flattened F) ledger')
    (hI : f.issuer.Fresh ledger.issued ledger'.issued) :
    document f.settings F d.schema = .ok (d.normal f.settings.defaultSlot) := by
  obtain ⟨hfaults, rfl, hissued⟩ := Flattener.eq_of_flattened h
  obtain ⟨-, hwithin, -, hd⟩ := (f.faults_eq_nil_iff d).1 hfaults
  obtain ⟨-, -, hkeys⟩ := Document.faults_eq_nil_iff.1 hd
  rw [hissued] at hI
  exact document_placed hI hkeys hwithin

theorem document_of_flattened_profile :
    Flattener.standard.flatten .profile .empty =
        .ok (.flattened (Document.placed (.sequential "id") .standard 0 .profile))
          { Flattener.standard.asked .profile .empty with issued := 13 } ∧
      (Issuer.sequential "id").Fresh 0 13 ∧
      document .standard (Document.placed (.sequential "id") .standard 0 .profile) "frame.json" =
        .ok (Document.normal "content" .profile) :=
  have hflatten := Flattener.flatten_of_no_faults .empty Flattener.faults_profile
  have hfresh := Issuer.fresh_sequential "id" 0 13
  have hround := document_of_flattened hflatten hfresh
  ⟨hflatten, hfresh, hround⟩

end Rebuild

end FrameTree

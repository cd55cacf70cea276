import FrameTree.Proofs.RoundTrip

/-!
# A second pass changes nothing

Flattening the normal form of a document gives the frame of the document again, with the same ids
and positions; only the root blocks, whose slots the normal form drops, are now in the default slot.
Rebuilding that frame gives the normal form again.

The normal form replaces the label of every block by one that costs as many ids, so the walk comes
to every block with the same number (`Document.spots_normal`). What it makes of a block, and what
it finds wrong with it, is the same for both labels (`Block.placed_normalAt`,
`Document.faults_normal`). One block stands in the way: inside another, a block placed in the slot
with the empty name has no slot in the normal form and would go to the default one
(`Document.ProperSlots`).

Main results: `Document.placed_normal`, `Flattener.faults_normal_eq_nil`, `Document.normal_normal`.
-/

namespace FrameTree

variable {ι : Type}

/-- The frame with its root blocks placed in `slot`. -/
def Frame.withRootSlot (slot : String) (F : Frame String) : Frame String :=
  { F with blocks := F.blocks.map fun b => if b.parentId = "" then { b with slot } else b }

namespace Document

/-- No block inside another is placed in a slot with the empty name. -/
def ProperSlots (d : Document) : Prop :=
  ∀ t ∈ d.blocks, ∀ b ∈ Forest.labels t.children, b.slot ≠ some ""

instance (d : Document) : Decidable d.ProperSlots :=
  inferInstanceAs (Decidable (∀ t ∈ d.blocks, _))

/-! ## Blocks -/

theorem Property.flat_normal (blockId id : ι) (p : Property) :
    p.normal.flat blockId id = p.flat blockId id := by
  rw [flat, flat, p.breakpoints_eq]
  rfl

theorem Block.idCount_normal (slot : Option String) (b : Block) :
    (b.normal slot).idCount = b.idCount := by
  have hactions : (b.normal slot).actions.map Action.idCount = b.actions.map Action.idCount := by
    rw [Block.normal, List.map_map]
    rfl
  rw [Block.idCount, hactions, Block.idCount, Block.normal, List.length_map]

theorem Block.normal_normal (slot slot' : Option String) (b : Block) :
    (b.normal slot).normal slot' = b.normal slot' := by
  rw [Block.normal, Block.normal, Block.normal, List.map_map, List.map_map]
  rfl

/-- Written out, the slot of a block is still the one that it is placed in. -/
theorem Block.getD_innerSlot {defaultSlot : String} {b : Block} (h : b.slot ≠ some "") :
    (b.innerSlot defaultSlot).getD defaultSlot = b.slot.getD defaultSlot := by
  rw [Block.innerSlot]
  split
  · rename_i hempty
    -- Only the default slot can be empty here.
    cases hslot : b.slot with
    | none => rfl
    | some slot =>
      rw [hslot, Option.getD_some] at hempty
      exact absurd (hslot.trans (congrArg some hempty)) h
  · rfl

section

variable {defaultSlot : String} {s : Spot Block}

theorem Block.normalAt_of_root (h : s.parent = none) :
    Block.normalAt defaultSlot s = s.label.normal none := by
  rw [Block.normalAt, if_pos h]

theorem Block.normalAt_of_inner (h : s.parent ≠ none) :
    Block.normalAt defaultSlot s = s.label.normal (s.label.innerSlot defaultSlot) := by
  rw [Block.normalAt, if_neg h]

theorem Block.idCount_normalAt (defaultSlot : String) (s : Spot Block) :
    (Block.normalAt defaultSlot s).idCount = s.label.idCount :=
  Block.idCount_normal _ s.label

end

/-- A block with its own parts written out is found wrong for the same reasons, if the same is wrong
with its slot. -/
theorem Block.faults_normal {settings : Settings} {vars : List String} {p q : Option Block}
    {slot : Option String} {b : Block} (k k' : Nat)
    (hslot : slotFaults settings q (b.normal slot) = slotFaults settings p b) :
    Block.faults settings vars ⟨q, b.normal slot, k'⟩ = Block.faults settings vars ⟨p, b, k⟩ := by
  have hactions : (b.normal slot).actions.flatMap (Action.faults vars) =
      b.actions.flatMap (Action.faults vars) := by
    rw [Block.normal, List.flatMap_map]
    rfl
  rw [Block.faults, Block.faults, hslot, hactions]
  rfl

section

variable (I : Issuer ι) (settings : Settings) (frameId : ι)

/-- A block with its own parts written out becomes the same block of a frame but for its slot. -/
theorem Block.placed_normal (slot : Option String) (s : Spot Block) :
    Block.placed I settings frameId { s with label := s.label.normal slot } =
      { Block.placed I settings frameId s with slot := slot.getD settings.defaultSlot } := by
  have hcost : (s.label.normal slot).actions.map Action.idCount =
      s.label.actions.map Action.idCount := by
    rw [Block.normal, List.map_map]
    rfl
  have hproperties (n : Nat) :
      I.parts (Property.flat (I.id s.index)) n (s.label.normal slot).properties =
        I.parts (Property.flat (I.id s.index)) n s.label.properties :=
    consecutive_map (f := Property.normal) (fun _ => rfl)
      (fun m p => Property.flat_normal (I.id s.index) (I.id m) p) n s.label.properties
  have hlength : (s.label.normal slot).properties.length = s.label.properties.length := by
    rw [Block.normal, List.length_map]
  rw [Block.placed, Block.placed]
  dsimp only
  rw [hcost, hproperties, hlength]
  rfl

theorem Block.placedActions_normal (slot : Option String) (s : Spot Block) :
    Block.placedActions I frameId { s with label := s.label.normal slot } =
      Block.placedActions I frameId s :=
  consecutive_map (f := fun a : Action => { a with key := s.label.key }) (fun _ => rfl)
    (fun _ _ => rfl) _ _

/-- Where the walk comes to it, a block becomes the same block of a frame as its normal form, but a
root block is in the default slot. -/
theorem Block.placed_normalAt {s : Spot Block} (hs : s.parent = none ∨ s.label.slot ≠ some "") :
    Block.placed I settings frameId
        { s with label := Block.normalAt settings.defaultSlot s } =
      if s.parent = none then
        { Block.placed I settings frameId s with slot := settings.defaultSlot }
      else Block.placed I settings frameId s := by
  by_cases hparent : s.parent = none
  · rw [Block.normalAt_of_root hparent, Block.placed_normal, if_pos hparent]
    rfl
  · rw [Block.normalAt_of_inner hparent, Block.placed_normal, if_neg hparent,
      Block.getD_innerSlot (hs.resolve_left hparent)]
    rfl

theorem Block.normalAt_normalAt {defaultSlot : String} {s : Spot Block}
    (hs : s.parent = none ∨ s.label.slot ≠ some "") :
    Block.normalAt defaultSlot { s with label := Block.normalAt defaultSlot s } =
      Block.normalAt defaultSlot s := by
  by_cases hparent : s.parent = none
  · rw [Block.normalAt_of_root hparent]
    rw [Block.normalAt_of_root (s := { s with label := s.label.normal none }) hparent,
      Block.normal_normal]
  · have hslot : (s.label.normal (s.label.innerSlot defaultSlot)).innerSlot defaultSlot =
        s.label.innerSlot defaultSlot := by
      have hsame : (s.label.normal (s.label.innerSlot defaultSlot)).slot.getD defaultSlot =
          s.label.slot.getD defaultSlot :=
        Block.getD_innerSlot (hs.resolve_left hparent)
      rw [Block.innerSlot, hsame]
      rfl
    rw [Block.normalAt_of_inner hparent]
    rw [Block.normalAt_of_inner
      (s := { s with label := s.label.normal (s.label.innerSlot defaultSlot) }) hparent, hslot,
      Block.normal_normal]

end

/-! ## Documents -/

variable {d : Document}

/-- The blocks of the normal form, from the spots of the document. -/
theorem blocks_normal (defaultSlot : String) (n : Nat) (d : Document) :
    (d.normal defaultSlot).blocks = Forest.relabel (Block.normalAt defaultSlot) (d.spots n) :=
  (relabel_normalAt defaultSlot 0 (n + 1 + d.vars.length) d.blocks).symm

theorem spots_normal (defaultSlot : String) (n : Nat) (d : Document) :
    (d.normal defaultSlot).spots n =
      Forest.relabel (fun s => { s with label := Block.normalAt defaultSlot s }) (d.spots n) := by
  rw [spots, blocks_normal defaultSlot n d]
  exact Forest.numbered_relabel_numbered _ _ _ (Block.idCount_normalAt defaultSlot) d.blocks

theorem ProperSlots.spots (h : d.ProperSlots) {n : Nat} {s : Spot Block}
    (hs : s ∈ Forest.labels (d.spots n)) : s.parent = none ∨ s.label.slot ≠ some "" := by
  rcases Forest.parent_eq_none_or hs with hs | ⟨t, ht, hs⟩
  · exact .inl hs
  · exact .inr (h t ht s.label hs)

/-- The normal form of a normal form is itself. -/
theorem normal_normal (defaultSlot : String) (h : d.ProperSlots) :
    (d.normal defaultSlot).normal defaultSlot = d.normal defaultSlot := by
  have hblocks : ((d.normal defaultSlot).normal defaultSlot).blocks =
      (d.normal defaultSlot).blocks := by
    rw [blocks_normal defaultSlot 0, spots_normal, Forest.relabel_relabel,
      blocks_normal defaultSlot 0 d]
    exact Forest.relabel_congr fun s hs => Block.normalAt_normalAt (h.spots hs)
  calc (d.normal defaultSlot).normal defaultSlot
      = { d.normal defaultSlot with
          blocks := ((d.normal defaultSlot).normal defaultSlot).blocks } := rfl
    _ = d.normal defaultSlot := by rw [hblocks]

/-- **The frame of the normal form** is the frame of the document with its root blocks in the
default slot. -/
theorem placed_normal {I : Issuer String} {settings : Settings} {n : Nat}
    (hI : I.Fresh n (n + d.idCount)) (h : d.ProperSlots) :
    (d.normal settings.defaultSlot).placed I settings n =
      (d.placed I settings n).withRootSlot settings.defaultSlot := by
  have hblocks : (Forest.labels ((d.normal settings.defaultSlot).spots n)).map
      (Block.placed I settings (I.id n)) =
        ((d.placed I settings n).withRootSlot settings.defaultSlot).blocks := by
    show _ = ((Forest.labels (d.spots n)).map (Block.placed I settings (I.id n))).map _
    rw [spots_normal, Forest.labels_relabel, List.map_map, List.map_map]
    refine List.map_congr_left fun s hs => ?_
    have hroot : (Block.placed I settings (I.id n) s).parentId = "" ↔ s.parent = none :=
      hI.blocks.link_eq_empty_iff fun i hi => Forest.parent_bounds Block.idCount_pos hs hi
    rw [Function.comp_apply, Function.comp_apply, Block.placed_normalAt _ _ _ (h.spots hs)]
    exact if_congr hroot.symm rfl rfl
  have hactions : (Forest.labels ((d.normal settings.defaultSlot).spots n)).flatMap
      (Block.placedActions I (I.id n)) = (d.placed I settings n).actions := by
    rw [spots_normal, Forest.labels_relabel, List.flatMap_map]
    exact List.flatMap_congr fun s _ => Block.placedActions_normal I (I.id n) _ s
  rw [placed, hblocks, hactions]
  rfl

/-! ## Faults -/

/-- Below a block that declares the same slots, the walk finds the same faults. -/
theorem faults_normalInners (settings : Settings) (vars : List String) {p q : Block}
    (hslots : q.slots = p.slots) {ts : Forest Block}
    (hproper : ∀ b ∈ Forest.labels ts, b.slot ≠ some "") :
    (Forest.visits (some q) (normalInners settings.defaultSlot ts)).flatMap
        (Block.faults settings vars) =
      (Forest.visits (some p) ts).flatMap (Block.faults settings vars) := by
  induction ts using Forest.induction generalizing p q with
  | nil => rfl
  | cons b ts rest ih ih' =>
    simp only [Forest.labels_cons, List.forall_mem_cons, List.forall_mem_append] at hproper
    obtain ⟨hb, hts, hrest⟩ := hproper
    have hslot : slotFaults settings (some q)
        (b.normal (b.innerSlot settings.defaultSlot)) = slotFaults settings (some p) b := by
      have hsame : (b.normal (b.innerSlot settings.defaultSlot)).slot.getD settings.defaultSlot =
          b.slot.getD settings.defaultSlot := Block.getD_innerSlot hb
      rw [slotFaults, slotFaults, hslots, hsame]
      rfl
    rw [normalInners, normalInner, Forest.visits_cons, Forest.visits_cons, List.flatMap_cons,
      List.flatMap_cons, List.flatMap_append, List.flatMap_append,
      Block.faults_normal ts.length _ hslot,
      ih (p := b) (q := b.normal (b.innerSlot settings.defaultSlot)) rfl hts, ih' hslots hrest]

theorem faults_normalRoots (settings : Settings) (vars : List String) {ts : Forest Block}
    (hproper : ∀ t ∈ ts, ∀ b ∈ Forest.labels t.children, b.slot ≠ some "") :
    (Forest.visits none (ts.map (normalRoot settings.defaultSlot))).flatMap
        (Block.faults settings vars) =
      (Forest.visits none ts).flatMap (Block.faults settings vars) := by
  induction ts using Forest.induction with
  | nil => rfl
  | cons b ts rest _ ih' =>
    obtain ⟨hts, hrest⟩ := List.forall_mem_cons.1 hproper
    have hinside := faults_normalInners settings vars (p := b) (q := b.normal none) rfl hts
    rw [Tree.children_node] at hinside
    rw [List.map_cons, normalRoot, Forest.visits_cons, Forest.visits_cons, List.flatMap_cons,
      List.flatMap_cons, List.flatMap_append, List.flatMap_append,
      Block.faults_normal (p := none) ts.length _ rfl, hinside, ih' hrest]

theorem rootFaults_normal (settings : Settings) (defaultSlot : String) (d : Document) :
    rootFaults settings (d.normal defaultSlot) = rootFaults settings d := by
  rw [rootFaults, rootFaults, normal]
  cases d.blocks with
  | nil => rfl
  | cons t ts =>
    cases t
    rfl

theorem keys_normal (defaultSlot : String) (d : Document) :
    (Forest.labels (d.normal defaultSlot).blocks).map Block.key =
      (Forest.labels d.blocks).map Block.key := by
  rw [← keys_spots 0 d, blocks_normal defaultSlot 0 d, Forest.labels_relabel, List.map_map]
  rfl

/-- **The faults of the normal form** are those of the document. -/
theorem faults_normal (settings : Settings) (h : d.ProperSlots) :
    (d.normal settings.defaultSlot).faults settings = d.faults settings := by
  rw [faults, faults, rootFaults_normal, keyFaults, keys_normal]
  exact congrArg (_ ++ · ++ _) (faults_normalRoots settings _ h)

theorem within_normal_iff {limit : Nat} (defaultSlot : String) :
    Nesting.Within limit (d.normal defaultSlot).blocks ↔ Nesting.Within limit d.blocks := by
  have hactions (s : Spot Block) : (Block.normalAt defaultSlot s).actions =
      s.label.actions.map fun a => { a with key := s.label.key } := rfl
  rw [blocks_normal defaultSlot 0 d, Nesting.Within, Nesting.Within, Forest.labels_relabel,
    Forest.depth_relabel, ← Forest.depth_relabel Spot.label, relabel_spots, ← labels_spots 0 d]
  simp only [List.forall_mem_map, hactions]

end Document

section

variable {f : Flattener String} {d : Document}

/-- The normal form of a document without faults has none, if the validator accepts it. -/
theorem Flattener.faults_normal_eq_nil (h : f.faults d = []) (hd : d.ProperSlots)
    (hvalid : f.validator (Flattener.submitted (d.normal f.settings.defaultSlot)) d.schema =
      .ok .valid) :
    f.faults (d.normal f.settings.defaultSlot) = [] := by
  obtain ⟨hschema, hwithin, -, hwalk⟩ := (f.faults_eq_nil_iff d).1 h
  have hwalk' : (d.normal f.settings.defaultSlot).faults f.settings = [] := by
    rw [Document.faults_normal f.settings hd, hwalk]
  exact (f.faults_eq_nil_iff _).2
    ⟨hschema, (Document.within_normal_iff _).2 hwithin, hvalid, hwalk'⟩

/-- The frame of a document without faults gives back the document in normal form. -/
theorem Rebuild.document_of_no_faults {n : Nat} (h : f.faults d = [])
    (hI : f.issuer.Fresh n (n + d.idCount)) :
    document f.settings (d.placed f.issuer f.settings n) d.schema =
      .ok (d.normal f.settings.defaultSlot) := by
  obtain ⟨-, hwithin, -, -⟩ := (f.faults_eq_nil_iff d).1 h
  exact document_placed hI (Flattener.nodup_keys_of_no_faults h) hwithin

end

end FrameTree

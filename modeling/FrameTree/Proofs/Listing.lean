import FrameTree.Proofs.Content
import FrameTree.Proofs.Runs

/-!
# Flat lists are pre-orders

A frame that was flattened lists the blocks of its document in pre-order: a block, then all that is
inside it, then its next sibling. Its actions come in the same order of the blocks they belong to,
and the triggers of each action are listed like the blocks.

**Listing** (`Forest.Listed`). A list of entries goes along a forest, one entry for each node. What
an entry has to be depends on its node, on its place among the siblings, and on the id of the entry
of its parent. The recursion is that of the forest, so the entries of a subtree stand together, the
one of its root first.

**Entries** (`Frame.Lists`). An entry matches its node (`Frame.Block.Matches`), and the entry of a
block has its slot written out.

Numbered forests are listed whatever is made from their spots (`Forest.listed_numbered`), and a
frame that was flattened is made from spots.

Main result: `Frame.lists_of_flattened`.
-/

namespace FrameTree

variable {ι α β : Type}

/-! ## Listing a forest -/

namespace Forest

/-- The entries of sibling trees in pre-order, the first tree at `place`. `Entry parent place a b`
tells that `b` is the entry of a node with the label `a` at its place below the entry with the id
`parent`. -/
inductive Listed (Entry : ι → Nat → α → β → Prop) (id : β → ι) :
    (parent : ι) → (place : Nat) → Forest α → List β → Prop
  | nil {parent : ι} {place : Nat} : Listed Entry id parent place [] []
  | cons {parent : ι} {place : Nat} {a : α} {ts rest : Forest α} {b : β} {below later : List β} :
      Entry parent place a b → Listed Entry id (id b) 0 ts below →
      Listed Entry id parent (place + 1) rest later →
      Listed Entry id parent place (.node a ts :: rest) (b :: (below ++ later))

/-- **Spots make a listing**, if each makes the entry of its label. -/
theorem listed_numbered {Entry : ι → Nat → α → β → Prop} {id : β → ι} {I : Issuer ι}
    {make : Spot α → β} (hentry : ∀ s, Entry (I.link s.parent) s.place s.label (make s))
    (hid : ∀ s, id (make s) = I.id s.index) (cost : α → Nat) (p : Option Nat) (k n : Nat)
    (ts : Forest α) :
    Listed Entry id (I.link p) k ts ((labels (numbered cost p k n ts)).map make) := by
  induction ts using Forest.induction generalizing p k n with
  | nil => exact .nil
  | cons a ts rest ih ih' =>
    rw [numbered_cons, labels_cons, List.map_cons, List.map_append]
    refine .cons (hentry ⟨a, n, k, p⟩) ?_ (ih' p (k + 1) _)
    rw [hid]
    exact ih (some n) 0 (n + cost a)

end Forest

/-! ## Entries -/

namespace Frame

/-- The entry of a trigger. -/
structure Trigger.EntryOf (parent : String) (_place : Nat) (t : Document.Trigger)
    (e : Trigger String) : Prop where
  parentId : e.parentId = parent
  content : e.Matches t

/-- The entry of an action of the block with a key. -/
structure Action.EntryOf (key : String) (a : Document.Action) (e : Action String) : Prop where
  key : e.key = key
  event : e.event = a.event
  triggers : Forest.Listed Trigger.EntryOf Trigger.id "" 0 a.triggers e.triggers

/-- The entry of a block. -/
structure Block.EntryOf (settings : Settings) (parent : String) (place : Nat) (b : Document.Block)
    (e : Block String) : Prop where
  parentId : e.parentId = parent
  position : e.position = place
  slot : e.slot = b.slot.getD settings.defaultSlot
  content : e.Matches b

/-- The lists of a frame go along the trees of a document: its blocks are in pre-order, and so are
the triggers of each action. The actions are those of one block after the other, in the same
order. -/
structure Lists (settings : Settings) (d : Document) (F : Frame String) : Prop where
  blocks : Forest.Listed (Block.EntryOf settings) Block.id "" 0 d.blocks F.blocks
  actions : ∃ groups : List (List (Action String)), F.actions = groups.flatten ∧
    List.Forall₂ (fun b group => List.Forall₂ (Action.EntryOf b.key) b.actions group)
      (Forest.labels d.blocks) groups
  vars : List.Forall₂ Variable.Matches F.vars d.vars

section

variable {I : Issuer String}

theorem Trigger.entryOf_placed (actionId : String) (s : Spot Document.Trigger) :
    Trigger.EntryOf (I.link s.parent) s.place s.label (Document.Trigger.placed I actionId s) where
  parentId := rfl
  content := Trigger.matches_placed I actionId s

theorem Action.entryOf_placed (hI : I.absent = "") (frameId key : String) (n : Nat)
    (a : Document.Action) : Action.EntryOf key a (a.placed I frameId key n) where
  key := rfl
  event := rfl
  triggers := by
    rw [← hI]
    exact Forest.listed_numbered (Trigger.entryOf_placed (I.id n)) (fun _ => rfl) _ none 0 _ _

theorem Block.entryOf_placed (settings : Settings) (frameId : String) (s : Spot Document.Block) :
    Block.EntryOf settings (I.link s.parent) s.place s.label
      (Document.Block.placed I settings frameId s) where
  parentId := rfl
  position := rfl
  slot := rfl
  content := Block.matches_placed I settings frameId s

/-- The frame of a document lists its trees, whatever the ids are. -/
theorem lists_placed (hI : I.absent = "") (settings : Settings) (n : Nat) (d : Document) :
    (d.placed I settings n).Lists settings d where
  blocks := by
    rw [← hI]
    exact Forest.listed_numbered (Block.entryOf_placed settings (I.id n)) (fun _ => rfl) _ none 0
      _ _
  actions := by
    refine ⟨(Forest.labels (d.spots n)).map (Document.Block.placedActions I (I.id n)),
      List.flatMap_def, ?_⟩
    rw [← Document.labels_spots n d, List.forall₂_map_left_iff, List.forall₂_map_right_iff,
      List.forall₂_same]
    exact fun s _ => forall₂_consecutive (Action.entryOf_placed hI (I.id n) s.label.key) _ _
  vars := I.forall₂_parts (fun _ _ => ⟨rfl, rfl, rfl⟩) _ _

/-- Fresh ids are given out once. -/
theorem nodup_ids_placed {settings : Settings} {n : Nat} {d : Document}
    (hI : I.Fresh n (n + d.idCount)) : (d.placed I settings n).ids.Nodup := by
  rw [(Document.ids_placed I settings n d).nodup_iff, Issuer.stretch]
  refine List.Nodup.map_on (fun i hi j hj hij => ?_) List.nodup_range'
  rw [List.mem_range'_1] at hi hj
  exact hI.injective i j hi.1 hi.2 hj.1 hj.2 hij

end

/-- **Flat lists are pre-orders.** What a document was flattened to lists its blocks, its actions
and the triggers of each action in the order of the document, one entry for each of them, and its
variables in order. An entry tells its parent by the id of the parent's entry, and no other entity
has that id. -/
theorem lists_of_flattened {f : Flattener String} {d : Document} {ledger ledger' : Ledger}
    {F : Frame String} (h : f.flatten d ledger = .ok (.flattened F) ledger')
    (hI : f.issuer.Fresh ledger.issued ledger'.issued) :
    F.Lists f.settings d ∧ F.ids.Nodup := by
  obtain ⟨-, rfl, hissued⟩ := Flattener.eq_of_flattened h
  rw [hissued] at hI
  exact ⟨lists_placed hI.absent f.settings ledger.issued d, nodup_ids_placed hI⟩

theorem lists_of_flattened_profile :
    Flattener.standard.flatten .profile .empty =
        .ok (.flattened (Document.placed (.sequential "id") .standard 0 .profile))
          { Flattener.standard.asked .profile .empty with issued := 13 } ∧
      (Issuer.sequential "id").Fresh 0 13 ∧
      (Document.placed (.sequential "id") .standard 0 .profile).Lists .standard .profile ∧
      (Document.placed (.sequential "id") .standard 0 .profile).ids.Nodup :=
  have hflatten := Flattener.flatten_of_no_faults .empty Flattener.faults_profile
  have hfresh := Issuer.fresh_sequential "id" 0 13
  have hlists := lists_of_flattened hflatten hfresh
  ⟨hflatten, hfresh, hlists⟩

end Frame

end FrameTree

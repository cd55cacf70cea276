import FrameTree.Proofs.Anchored
import FrameTree.Proofs.Reordered

/-!
# Rebuilding without an index

Rebuilding groups the entities of a frame by what they point at and then looks the groups up. The
plain way needs no index: at every node it scans the lists of the frame again (`Scan.document`). It
counts the levels from the top, and it is told of each block whether it started from it.

**Roots.** Rebuilding takes a block for a root if it points at nothing, wherever it comes to it.
The two ways differ below a block with an empty id: what points at that block points at nothing. But
then a chain that leads to the block can be started anew below it, again and again
(`Anchored.overlong_of_id_eq_empty`), so both ways refuse the frame.

**Failing.** A mark on the roots does not change how far a way goes, so both fail at the same blocks
(`Scan.block_failsIff`). Where no block that can be reached has an empty id, both ways agree block
by block (`Scan.block_eq`).

**Stability** (`StablySorted`). A look-up in a sorted index has the entities that a scan finds, in
the order of their keys, and those with one key as they are in the list.

Main result: `Rebuild.document_eq_scan`.
-/

namespace FrameTree

variable {α β : Type}

/-! ## Scanning -/

namespace Scan

open FrameTree.Frame

/-- A trigger at some depth, with the triggers below it. -/
def trigger (limit : Nat) (a : Action String) (depth : Nat) (t : Trigger String) :
    Except Error (Tree Document.Trigger) :=
  if limit < depth then .error (.depthExceeded limit)
  else do
    let below ← (a.childrenOf t.id).mapM fun u => trigger limit a (depth + 1) u
    return .node t.toDocument below
termination_by limit + 1 - depth

def action (limit : Nat) (a : Action String) : Except Error Document.Action := do
  return { key := a.key, event := a.event, triggers := ← a.rootTriggers.mapM (trigger limit a 1) }

/-- Blocks in the order of their positions, those with one position in list order. -/
def byPosition (bs : List (Block String)) : List (Block String) :=
  bs.mergeSort fun a b => a.position ≤ b.position

/-- A block at some depth, with its actions and the blocks inside it. -/
def block (limit : Nat) (F : Frame String) (isRoot : Bool) (depth : Nat) (b : Block String) :
    Except Error (Tree Document.Block) :=
  if limit < depth then .error (.depthExceeded limit)
  else do
    let actions ← (F.actionsOf b.key).mapM (action limit)
    let inside ← (byPosition (F.childrenOf b.id)).mapM fun c => block limit F false (depth + 1) c
    return .node (b.toDocument isRoot actions) inside
termination_by limit + 1 - depth

/-- The document of a frame, by scans alone. -/
def document (settings : Settings) (F : Frame String) (schema : String) :
    Except Error Document := do
  let blocks ← (byPosition F.rootBlocks).mapM (block settings.maxDepth F true 1)
  return {
    schema
    name := F.name
    route := F.route
    kind := F.kind
    isStarter := F.isStarter
    vars := F.vars.map Variable.toDocument
    blocks }

/-! ## Triggers -/

theorem trigger_eq (limit : Nat) (a : Action String) (depth : Nat) (t : Trigger String) :
    trigger limit a depth t =
      Tree.grow (fun t => .ok t.toDocument) (fun t => a.childrenOf t.id) (.depthExceeded limit)
        (limit + 1 - depth) t := by
  induction hroom : limit + 1 - depth generalizing depth t with
  | zero =>
    rw [trigger, if_pos (by omega)]
    rfl
  | succ room ih =>
    have hbelow : trigger limit a (depth + 1) =
        Tree.grow (fun t => .ok t.toDocument) (fun t => a.childrenOf t.id) (.depthExceeded limit)
          room := funext fun u => ih (depth + 1) u (by omega)
    rw [trigger, if_neg (by omega), hbelow]
    rfl

theorem action_eq (limit : Nat) (a : Action String) : action limit a = Rebuild.action limit a := by
  let index := LinkIndex.ofList Trigger.parentId a.triggers
  have hget (target : String) : index.get target = a.childrenOf target := LinkIndex.get_ofList _ _ _
  have htrigger : trigger limit a 1 = Rebuild.trigger limit index := by
    funext t
    rw [trigger_eq, Nat.add_sub_cancel, Rebuild.trigger]
    simp only [hget]
  show (a.rootTriggers.mapM (trigger limit a 1) >>= fun ts => _) =
    (index.roots.mapM (Rebuild.trigger limit index) >>= fun ts => _)
  rw [htrigger, LinkIndex.roots, hget]
  rfl

/-! ## Blocks -/

theorem get_blockIndex (F : Frame String) (target : String) :
    (Rebuild.blockIndex F).get target = byPosition (F.childrenOf target) := by
  rw [Rebuild.blockIndex, LinkIndex.get_sortedBy, LinkIndex.get_ofList]
  rfl

/-- Rebuilding from a block, with some levels left. -/
def rebuilt (limit : Nat) (F : Frame String) (room : Nat) :
    Block String → Except Error (Tree Document.Block) :=
  Tree.grow (Rebuild.label limit (.ofList Action.key F.actions))
    (fun b => (Rebuild.blockIndex F).get b.id) (.depthExceeded limit) room

section

variable {limit : Nat} {F : Frame String}

theorem rebuilt_succ (room : Nat) (b : Block String) :
    rebuilt limit F (room + 1) b = do
      let b' ← Rebuild.label limit (.ofList Action.key F.actions) b
      let inside ← ((Rebuild.blockIndex F).get b.id).mapM (rebuilt limit F room)
      return .node b' inside := rfl

/-- A block within the limit, by the look-ups of rebuilding. -/
theorem block_of_le {depth : Nat} (h : depth ≤ limit) (isRoot : Bool) (b : Block String) :
    block limit F isRoot depth b = do
      let actions ← ((LinkIndex.ofList Action.key F.actions).get b.key).mapM (Rebuild.action limit)
      let inside ← ((Rebuild.blockIndex F).get b.id).mapM (block limit F false (depth + 1))
      return .node (b.toDocument isRoot actions) inside := by
  have hactions : (F.actionsOf b.key).mapM (action limit) =
      ((LinkIndex.ofList Action.key F.actions).get b.key).mapM (Rebuild.action limit) := by
    rw [LinkIndex.get_ofList, funext (action_eq limit)]
    rfl
  rw [block, if_neg (by omega), hactions, get_blockIndex]

/-- Both ways fail at the same blocks, whether these are marked as roots or not. -/
theorem block_failsIff (limit : Nat) (F : Frame String) (room : Nat) :
    ∃ p : Block String → Prop, ∀ b,
      FailsIff (.depthExceeded limit) (p b) (rebuilt limit F room b) ∧
        ∀ isRoot depth, limit + 1 - depth = room →
          FailsIff (.depthExceeded limit) (p b) (block limit F isRoot depth b) := by
  induction room with
  | zero =>
    refine ⟨fun _ => True, fun b => ⟨.error, fun isRoot depth hdepth => ?_⟩⟩
    rw [block, if_pos (by omega)]
    exact .error
  | succ room ih =>
    obtain ⟨p, hp⟩ := ih
    let actionsFail (b : Block String) : Prop :=
      ∃ a ∈ (LinkIndex.ofList Action.key F.actions).get b.key,
        Overlong Trigger.id Trigger.parentId a.triggers limit
    have hactions (b : Block String) : FailsIff (.depthExceeded limit) (actionsFail b)
        (((LinkIndex.ofList Action.key F.actions).get b.key).mapM (Rebuild.action limit)) :=
      FailsIff.mapM (Rebuild.action_failsIff limit) _
    refine ⟨fun b => actionsFail b ∨ ∃ c ∈ (Rebuild.blockIndex F).get b.id, p c,
      fun b => ⟨?_, fun isRoot depth hdepth => ?_⟩⟩
    · rw [rebuilt_succ]
      exact ((hactions b).map _).bind fun b' =>
        (FailsIff.mapM (fun c => (hp c).1) _).map (Tree.node b')
    · rw [block_of_le (by omega)]
      exact (hactions b).bind fun actions =>
        (FailsIff.mapM (fun c => (hp c).2 false (depth + 1) (by omega)) _).map
          (Tree.node (b.toDocument isRoot actions))

/-- Where no block that can be reached has an empty id, both ways agree. -/
theorem block_eq (hid : ∀ a, Anchored Block.id Block.parentId F.blocks a → a.id ≠ "")
    {b : Block String} (hb : Anchored Block.id Block.parentId F.blocks b) (depth : Nat) :
    block limit F (b.parentId == "") depth b = rebuilt limit F (limit + 1 - depth) b := by
  induction hroom : limit + 1 - depth generalizing depth b with
  | zero =>
    rw [block, if_pos (by omega)]
    rfl
  | succ room ih =>
    have hinside : ((Rebuild.blockIndex F).get b.id).mapM (block limit F false (depth + 1)) =
        ((Rebuild.blockIndex F).get b.id).mapM (rebuilt limit F room) := by
      refine mapM_congr fun c hc => ?_
      obtain ⟨hmem, hlink⟩ := Rebuild.mem_get_blockIndex.1 hc
      have hroot : (c.parentId == "") = false := by
        rw [hlink, beq_eq_false_iff_ne]
        exact hid b hb
      rw [← hroot]
      exact ih (hb.child hmem hlink) (depth + 1) (by omega)
    rw [block_of_le (by omega), hinside, rebuilt_succ, Rebuild.label]
    cases ((LinkIndex.ofList Action.key F.actions).get b.key).mapM (Rebuild.action limit) <;> rfl

end

end Scan

/-- A chain that leads to an entity with an empty id can be started anew at its end, whatever the
limit. -/
theorem Anchored.overlong_of_id_eq_empty {id link : β → String} {entities : List β} {b : β}
    (h : Anchored id link entities b) (hid : id b = "") (limit : Nat) :
    Overlong id link entities limit := by
  obtain ⟨chain, hchain, hlast⟩ := h
  have hmem : b ∈ chain := List.mem_of_getLast? hlast
  have hcycle : Cycle id link entities chain := by
    refine ⟨hchain.subset, List.ne_nil_of_mem hmem, hchain.linked, fun a ha c hc => ?_⟩
    cases hlast.symm.trans ha
    rw [hchain.root c hc, hid]
  exact hcycle.overlong ⟨b, hmem, chain, hchain, hlast⟩ limit

/-! ## Stable sorting -/

/-- The entries of `xs` in the order of their keys, and those with one key in the order in which
they were. -/
structure StablySorted (key : β → Nat) (xs ys : List β) : Prop where
  perm : ys.Perm xs
  sorted : ys.Pairwise fun a b => key a ≤ key b
  stable : ∀ k, (ys.filter fun b => key b == k) = xs.filter fun b => key b == k

theorem stablySorted_mergeSort (key : β → Nat) (xs : List β) :
    StablySorted key xs (xs.mergeSort fun a b => key a ≤ key b) where
  perm := List.mergeSort_perm xs _
  sorted := pairwise_mergeSort xs
  stable k := filter_mergeSort xs k

/-- There is one way to sort a list stably. -/
theorem mergeSort_eq_iff {key : β → Nat} {xs ys : List β} :
    (xs.mergeSort fun a b => key a ≤ key b) = ys ↔ StablySorted key xs ys := by
  constructor
  · rintro rfl
    exact stablySorted_mergeSort key xs
  · intro h
    refine eq_of_pairwise_of_filter (pairwise_mergeSort xs) h.sorted fun k => ?_
    rw [filter_mergeSort, h.stable]

namespace Rebuild

/-- **Rebuilding needs no index.** Whatever the links of a frame are, scanning its lists at every
node gives the document that rebuilding gives, or the same error. An index gives for every text the
entities of its list that point at it, in list order; one that has been sorted gives them stably
sorted. -/
theorem document_eq_scan :
    (∀ (settings : Settings) (F : Frame String) (schema : String),
      document settings F schema = Scan.document settings F schema) ∧
    ∀ (β : Type) (link : β → String) (bs : List β) (target : String),
      ((LinkIndex.ofList link bs).get target = bs.filter fun b => link b == target) ∧
      ∀ (key : β → Nat) (found : List β),
        ((LinkIndex.ofList link bs).sortedBy key).get target = found ↔
          StablySorted key (bs.filter fun b => link b == target) found := by
  refine ⟨fun settings F schema => ?_, fun β link bs target =>
    ⟨LinkIndex.get_ofList link bs target, fun key found => ?_⟩⟩
  · let limit := settings.maxDepth
    obtain ⟨p, hp⟩ := Scan.block_failsIff limit F limit
    have hroots : (blockIndex F).roots = Scan.byPosition F.rootBlocks := Scan.get_blockIndex F ""
    have hrebuild : FailsIff (.depthExceeded limit) (∃ b ∈ (blockIndex F).roots, p b)
        (document settings F schema) :=
      (FailsIff.mapM (fun b => (hp b).1) (blockIndex F).roots).map _
    have hscan : FailsIff (.depthExceeded limit) (∃ b ∈ (blockIndex F).roots, p b)
        (Scan.document settings F schema) := by
      rw [hroots]
      exact (FailsIff.mapM (fun b => (hp b).2 true 1 (by omega)) _).map _
    by_cases hempty : ∃ a, Anchored Frame.Block.id Frame.Block.parentId F.blocks a ∧ a.id = ""
    · obtain ⟨a, ha, hid⟩ := hempty
      have hdeep : TooDeep F limit := .inl (ha.overlong_of_id_eq_empty hid limit)
      have herror : document settings F schema = .error (.depthExceeded limit) :=
        ((document_failsIff settings F schema).eq_error_iff _).2 ⟨rfl, hdeep⟩
      rw [herror, (hscan.eq_error_iff _).2 ((hrebuild.eq_error_iff _).1 herror)]
    · have hid : ∀ a, Anchored Frame.Block.id Frame.Block.parentId F.blocks a → a.id ≠ "" :=
        fun a ha hid => hempty ⟨a, ha, hid⟩
      have hblocks : (blockIndex F).roots.mapM (Scan.rebuilt limit F limit) =
          (Scan.byPosition F.rootBlocks).mapM (Scan.block limit F true 1) := by
        rw [← hroots]
        refine mapM_congr fun b hb => ?_
        obtain ⟨hmem, hlink⟩ := mem_get_blockIndex.1 hb
        have hblock : Scan.block limit F (b.parentId == "") 1 b =
            Scan.rebuilt limit F (limit + 1 - 1) b :=
          Scan.block_eq hid (.of_root hmem hlink) 1
        rw [hlink, Nat.add_sub_cancel] at hblock
        exact hblock.symm
      show ((blockIndex F).roots.mapM (Scan.rebuilt limit F limit) >>= fun bs => _) = _
      rw [hblocks]
      rfl
  · rw [LinkIndex.get_sortedBy, LinkIndex.get_ofList, mergeSort_eq_iff]

end Rebuild

end FrameTree

import FrameTree.Proofs.Lossless
import FrameTree.Proofs.RoundTrip
import Mathlib.Data.List.FinRange
import Mathlib.Data.List.NodupEquivFin

/-!
# The order of the lists

The lists of a frame from elsewhere may come in any order. Rebuilding only looks at the order of
entities that it could not tell apart otherwise: blocks with the same parent and the same position,
actions with the same key, and triggers of one action with the same parent.

**Orders** (`Reordered`). A list in another order, in which entries with the same key stay as they
were among themselves. Where the entries come from is a bijection of places. Such a list has the
same entries with each key, in the same order (`Reordered.forall₂_filter`), so a stable sort by a
part of the key comes to the same list (`mergeSort_of_filter`).

**Rebuilding** (`Rebuild.document_of_shuffled`). Frames that differ in their orders in this way have
the same document, or the same error. The blocks of a flattened frame all differ in parent or
position, so they may come in any order.

Main result: `Rebuild.document_of_shuffled`.
-/

namespace FrameTree

variable {α β κ : Type}

/-! ## Orders -/

/-- The entries of `ys` come from those of `xs`, changed as `R` says and in another order. Entries
with the same key stay in order. -/
def Reordered (R : α → α → Prop) (key : α → κ) (xs ys : List α) : Prop :=
  ∃ origin : Fin ys.length ≃ Fin xs.length,
    (∀ i, R (xs.get (origin i)) (ys.get i)) ∧
      ∀ i j, i < j → key (ys.get i) = key (ys.get j) → origin i < origin j

namespace Reordered

variable {R : α → α → Prop} {key : α → κ} {xs ys : List α}

theorem refl (hR : ∀ x, R x x) (xs : List α) : Reordered R key xs xs :=
  ⟨.refl _, fun i => hR (xs.get i), fun _ _ hij _ => hij⟩

/-- A filter picks places. -/
theorem filter_eq_map_finRange (p : α → Bool) (xs : List α) :
    xs.filter p = ((List.finRange xs.length).filter fun i => p (xs.get i)).map xs.get := by
  conv_lhs => rw [← List.ofFn_get xs, List.ofFn_eq_map, List.filter_map]
  rfl

/-- **The entries with a key** are the same in both lists, and in the same order. -/
theorem forall₂_filter [BEq κ] [LawfulBEq κ] (h : Reordered R key xs ys)
    (hkey : ∀ x y, R x y → key x = key y) (k : κ) :
    List.Forall₂ R (xs.filter fun x => key x == k) (ys.filter fun y => key y == k) := by
  obtain ⟨origin, hR, horder⟩ := h
  let old : List (Fin xs.length) := (List.finRange _).filter fun i => key (xs.get i) == k
  let new : List (Fin ys.length) := (List.finRange _).filter fun i => key (ys.get i) == k
  have hold : xs.filter (fun x => key x == k) = old.map xs.get := filter_eq_map_finRange _ xs
  have hnew : ys.filter (fun y => key y == k) = new.map ys.get := filter_eq_map_finRange _ ys
  have hmem (i : Fin xs.length) : i ∈ old ↔ key (xs.get i) = k := by simp [old]
  have hmem' (i : Fin ys.length) : i ∈ new ↔ key (ys.get i) = k := by simp [new]
  -- The places that the new ones come from increase, and they are all the old ones.
  have hsorted : (new.map origin).Pairwise (· < ·) := by
    rw [List.pairwise_map]
    refine ((List.sortedLT_finRange _).pairwise.filter _).imp_of_mem fun {i j} hi hj hij => ?_
    exact horder i j hij (((hmem' i).1 hi).trans ((hmem' j).1 hj).symm)
  have hsorted' : old.Pairwise (· < ·) := (List.sortedLT_finRange _).pairwise.filter _
  have hperm : (new.map origin).Perm old := by
    rw [List.perm_ext_iff_of_nodup (hsorted.imp ne_of_lt) (hsorted'.imp ne_of_lt)]
    intro i
    rw [hmem, List.mem_map]
    constructor
    · rintro ⟨j, hj, rfl⟩
      rw [hkey _ _ (hR j), (hmem' j).1 hj]
    · intro hi
      refine ⟨origin.symm i, (hmem' _).2 ?_, origin.apply_symm_apply i⟩
      rw [← hkey _ _ (hR (origin.symm i)), origin.apply_symm_apply, hi]
  have hsame : new.map origin = old :=
    hperm.eq_of_pairwise (fun i j _ _ hij hji => absurd hji (lt_asymm hij)) hsorted hsorted'
  rw [hold, hnew, ← hsame, List.map_map, List.forall₂_map_left_iff, List.forall₂_map_right_iff,
    List.forall₂_same]
  exact fun i _ => hR i

theorem filter_eq [BEq κ] [LawfulBEq κ] (h : Reordered Eq key xs ys) (k : κ) :
    (ys.filter fun y => key y == k) = xs.filter fun x => key x == k :=
  (List.forall₂_eq_eq_eq ▸ h.forall₂_filter (fun _ _ hxy => congrArg key hxy) k).symm

/-- Where all keys are different, every order is allowed. -/
theorem of_perm [DecidableEq α] (hperm : ys.Perm xs) (hnodup : (xs.map key).Nodup) :
    Reordered Eq key xs ys := by
  have hxs : xs.Nodup := .of_map key hnodup
  have hys : ys.Nodup := hperm.nodup_iff.2 hxs
  let origin : Fin ys.length ≃ Fin xs.length :=
    (hys.getEquiv ys).trans
      ((Equiv.subtypeEquivRight fun _ => hperm.mem_iff).trans (hxs.getEquiv xs).symm)
  have horigin (i : Fin ys.length) : xs.get (origin i) = ys.get i := by
    have happly : hxs.getEquiv xs (origin i) = ⟨ys.get i, hperm.mem_iff.1 (ys.get_mem i)⟩ :=
      (hxs.getEquiv xs).apply_symm_apply _
    exact congrArg Subtype.val happly
  refine ⟨origin, horigin, fun i j hij hkey => ?_⟩
  have hnodup' : (ys.map key).Nodup := (hperm.map key).nodup_iff.2 hnodup
  have hget : ys.get i = ys.get j :=
    List.inj_on_of_nodup_map hnodup' (ys.get_mem i) (ys.get_mem j) hkey
  exact absurd (hys.injective_get hget) hij.ne

end Reordered

/-! ## Stable sorting -/

section

variable {key : α → Nat}

theorem pairwise_mergeSort (xs : List α) :
    (xs.mergeSort fun a b => key a ≤ key b).Pairwise fun a b => key a ≤ key b :=
  (List.pairwise_mergeSort (by simp only [decide_eq_true_eq]; omega)
    (by simp only [Bool.or_eq_true, decide_eq_true_eq]; omega) xs).imp of_decide_eq_true

/-- Sorting keeps the entries with one key as they are. -/
theorem filter_mergeSort (xs : List α) (k : Nat) :
    ((xs.mergeSort fun a b => key a ≤ key b).filter fun a => key a == k) =
      xs.filter fun a => key a == k := by
  have hequal : (xs.filter fun a => key a == k).Pairwise fun a b => decide (key a ≤ key b) := by
    refine List.pairwise_of_forall_mem_list fun a ha b hb => ?_
    rw [List.mem_filter, beq_iff_eq] at ha hb
    simp [ha.2, hb.2]
  have hsub : (xs.filter fun a => key a == k).Sublist (xs.mergeSort fun a b => key a ≤ key b) :=
    List.sublist_mergeSort (by simp only [decide_eq_true_eq]; omega)
      (by simp only [Bool.or_eq_true, decide_eq_true_eq]; omega) hequal List.filter_sublist
  have hsub' := hsub.filter fun a => key a == k
  rw [List.filter_filter] at hsub'
  simp only [Bool.and_self] at hsub'
  refine (hsub'.eq_of_length ?_).symm
  exact ((List.mergeSort_perm xs _).filter _).length_eq.symm

/-- Two sorted lists with the same entries for each key are equal. -/
theorem eq_of_pairwise_of_filter {xs ys : List α} (hxs : xs.Pairwise fun a b => key a ≤ key b)
    (hys : ys.Pairwise fun a b => key a ≤ key b)
    (h : ∀ k, (xs.filter fun a => key a == k) = ys.filter fun a => key a == k) : xs = ys := by
  have hmem : ∀ {a : α} {xs ys : List α}, (∀ k, (xs.filter fun a => key a == k) =
      ys.filter fun a => key a == k) → a ∈ xs → a ∈ ys := by
    intro a xs ys h ha
    have ha' : a ∈ ys.filter fun b => key b == key a := by
      rw [← h, List.mem_filter]
      exact ⟨ha, beq_self_eq_true _⟩
    exact List.mem_of_mem_filter ha'
  induction xs generalizing ys with
  | nil =>
    cases ys with
    | nil => rfl
    | cons b ys => cases hmem (fun k => (h k).symm) List.mem_cons_self
  | cons a xs ih =>
    cases ys with
    | nil => cases hmem h List.mem_cons_self
    | cons b ys =>
      rw [List.pairwise_cons] at hxs hys
      -- Each of the two first entries is somewhere in the other list, so their keys are equal.
      have hab : key a ≤ key b := by
        rcases List.mem_cons.1 (hmem (fun k => (h k).symm) List.mem_cons_self) with rfl | hb
        · exact Nat.le_refl _
        · exact hxs.1 b hb
      have hba : key b ≤ key a := by
        rcases List.mem_cons.1 (hmem h List.mem_cons_self) with rfl | ha
        · exact Nat.le_refl _
        · exact hys.1 a ha
      have hkey : key a = key b := Nat.le_antisymm hab hba
      have hfirst := h (key a)
      rw [List.filter_cons_of_pos (by simp), List.filter_cons_of_pos (by simp [hkey])] at hfirst
      obtain ⟨rfl, -⟩ := List.cons.inj hfirst
      rw [ih hxs.2 hys.2 fun k => ?_]
      have hrest := h k
      by_cases hk : key a = k
      · rw [List.filter_cons_of_pos (by simpa using hk),
          List.filter_cons_of_pos (by simpa using hk)] at hrest
        exact (List.cons.inj hrest).2
      · rwa [List.filter_cons_of_neg (by simpa using hk),
          List.filter_cons_of_neg (by simpa using hk)] at hrest

/-- **Stability.** Lists with the same entries for each key, in the same order, are sorted to the
same list. -/
theorem mergeSort_of_filter {xs ys : List α}
    (h : ∀ k, (xs.filter fun a => key a == k) = ys.filter fun a => key a == k) :
    (xs.mergeSort fun a b => key a ≤ key b) = ys.mergeSort fun a b => key a ≤ key b := by
  refine eq_of_pairwise_of_filter (pairwise_mergeSort xs) (pairwise_mergeSort ys) fun k => ?_
  rw [filter_mergeSort, filter_mergeSort, h]

end

/-! ## Frames -/

namespace Frame

/-- The action with its triggers in another order; triggers with the same parent stay in order. -/
def Action.Shuffled (a a' : Action String) : Prop :=
  ∃ triggers, Reordered Eq Trigger.parentId a.triggers triggers ∧ a' = { a with triggers }

/-- The frame with its lists in another order. Blocks with the same parent and position stay in
order, and so do actions with the same key and, in each action, triggers with the same parent.
Whatever a document does not show may be different. -/
structure Shuffled (F F' : Frame String) : Prop where
  name : F'.name = F.name
  route : F'.route = F.route
  kind : F'.kind = F.kind
  isStarter : F'.isStarter = F.isStarter
  vars : F'.vars = F.vars
  blocks : Reordered Eq (fun b => (b.parentId, b.position)) F.blocks F'.blocks
  actions : Reordered Action.Shuffled Action.key F.actions F'.actions

end Frame

/-- No two blocks that were flattened have the same parent and the same position. -/
theorem nodup_blocks_of_flattened {f : Flattener String} {d : Document} {ledger ledger' : Ledger}
    {F : Frame String} (h : f.flatten d ledger = .ok (.flattened F) ledger')
    (hI : f.issuer.Fresh ledger.issued ledger'.issued) :
    (F.blocks.map fun b => (b.parentId, b.position)).Nodup := by
  obtain ⟨-, rfl, hissued⟩ := Flattener.eq_of_flattened h
  rw [hissued] at hI
  have hbounds : ∀ s ∈ Forest.labels (d.spots ledger.issued), ∀ i, s.parent = some i →
      _ ≤ i ∧ i < _ :=
    fun s hs i hi => Forest.parent_bounds Document.Block.idCount_pos hs hi
  have hplaces : ((Forest.labels (d.spots ledger.issued)).map fun s => (s.parent, s.place)).Nodup :=
    Forest.nodup_places _ _ _ Document.Block.idCount_pos d.blocks
  show (((Forest.labels (d.spots ledger.issued)).map _).map _).Nodup
  rw [List.map_map]
  refine List.Nodup.map_on (fun s hs t ht hst => ?_) (.of_map _ hplaces)
  obtain ⟨hlink, hplace⟩ := Prod.mk.inj hst
  refine List.inj_on_of_nodup_map hplaces hs ht (Prod.ext ?_ hplace)
  exact hI.blocks.link_injective (hbounds s hs) (hbounds t ht) hlink

namespace Rebuild

open FrameTree.Frame

theorem action_shuffled (limit : Nat) {a a' : Action String} (h : a.Shuffled a') :
    action limit a' = action limit a := by
  obtain ⟨ts, hts, rfl⟩ := h
  let index := LinkIndex.ofList Trigger.parentId a.triggers
  let index' := LinkIndex.ofList Trigger.parentId ts
  have hget (target : String) : index'.get target = index.get target := by
    rw [LinkIndex.get_ofList, LinkIndex.get_ofList]
    exact hts.filter_eq target
  have htrigger : trigger limit index' = trigger limit index := by
    unfold trigger
    simp only [hget]
  show (index'.roots.mapM (trigger limit index') >>= fun ts => _) =
    (index.roots.mapM (trigger limit index) >>= fun ts => _)
  rw [htrigger, LinkIndex.roots, LinkIndex.roots, hget]

/-- Blocks in another order are the same blocks below each block. -/
theorem get_blockIndex_shuffled {F F' : Frame String}
    (h : Reordered Eq (fun b => (b.parentId, b.position)) F.blocks F'.blocks) (target : String) :
    (blockIndex F').get target = (blockIndex F).get target := by
  rw [blockIndex, blockIndex, LinkIndex.get_sortedBy, LinkIndex.get_sortedBy,
    LinkIndex.get_ofList, LinkIndex.get_ofList]
  refine mergeSort_of_filter fun k => ?_
  have hpair (b : Block String) : (b.position == k && b.parentId == target) =
      ((b.parentId, b.position) == (target, k)) := by
    rw [Bool.and_comm]
    rfl
  simp only [List.filter_filter, hpair]
  exact h.filter_eq (target, k)

/-- A block takes the same actions from both frames. -/
theorem label_shuffled (limit : Nat) {actions actions' : List (Action String)}
    (h : Reordered Action.Shuffled Action.key actions actions') (b : Block String) :
    label limit (.ofList Action.key actions') b = label limit (.ofList Action.key actions) b := by
  have hkey : ∀ a a' : Action String, a.Shuffled a' → a.key = a'.key := by
    rintro a _ ⟨ts, -, rfl⟩
    rfl
  have hactions : ((LinkIndex.ofList Action.key actions').get b.key).mapM (action limit) =
      ((LinkIndex.ofList Action.key actions).get b.key).mapM (action limit) := by
    rw [LinkIndex.get_ofList, LinkIndex.get_ofList]
    refine (mapM_eq_of_forall₂ (fun a a' ha => ?_) (h.forall₂_filter hkey b.key)).symm
    exact (action_shuffled limit ha).symm
  unfold label
  rw [hactions]

/-- **The order of the lists does not matter**, beyond ties. Frames with their lists in different
orders, but for blocks with the same parent and position, actions with the same key and triggers
with the same parent, are rebuilt to the same document or refused with the same error. In a frame
that was flattened, with ids that are distinct and not empty, the blocks can come in any order at
all. -/
theorem document_of_shuffled (settings : Settings) (schema : String) :
    (∀ F F' : Frame String, F.Shuffled F' →
      document settings F' schema = document settings F schema) ∧
    ∀ (f : Flattener String) (d : Document) (ledger ledger' : Ledger) (F : Frame String)
      (blocks : List (Block String)), f.flatten d ledger = .ok (.flattened F) ledger' →
      f.issuer.Fresh ledger.issued ledger'.issued → blocks.Perm F.blocks →
      document settings { F with blocks } schema = document settings F schema := by
  have hshuffled : ∀ F F' : Frame String, F.Shuffled F' →
      document settings F' schema = document settings F schema := by
    intro F F' h
    have hget := get_blockIndex_shuffled h.blocks
    have hblock : block settings.maxDepth (blockIndex F') (.ofList Action.key F'.actions) =
        block settings.maxDepth (blockIndex F) (.ofList Action.key F.actions) := by
      unfold block
      simp only [hget, funext (label_shuffled settings.maxDepth h.actions)]
    show ((blockIndex F').roots.mapM (block settings.maxDepth (blockIndex F') _) >>= fun bs => _) =
      ((blockIndex F).roots.mapM (block settings.maxDepth (blockIndex F) _) >>= fun bs => _)
    rw [hblock, LinkIndex.roots, LinkIndex.roots, hget, h.name, h.route, h.kind, h.isStarter,
      h.vars]
  refine ⟨hshuffled, ?_⟩
  intro f d ledger ledger' F blocks hflatten hfresh hperm
  refine hshuffled F { F with blocks } ⟨rfl, rfl, rfl, rfl, rfl, ?_, ?_⟩
  · exact .of_perm hperm (nodup_blocks_of_flattened hflatten hfresh)
  · exact .refl (fun a => ⟨a.triggers, .refl (fun _ => rfl) _, rfl⟩) F.actions

/-- Two blocks with the same position in a third one, and a chain of two triggers. -/
def outerFirst : Frame String :=
  ofLists [box "a" "" "outer", box "b" "a" "first", box "c" "a" "second"]
    [⟨"click", "frame", "outer", "onClick", [log "s" "" "first", log "t" "s" "second"]⟩]

/-- The same with the outer block and the first trigger one place later. -/
def outerLater : Frame String :=
  ofLists [box "b" "a" "first", box "a" "" "outer", box "c" "a" "second"]
    [⟨"click", "frame", "outer", "onClick", [log "t" "s" "second", log "s" "" "first"]⟩]

theorem shuffled_outerFirst : outerFirst.Shuffled outerLater where
  name := rfl
  route := rfl
  kind := rfl
  isStarter := rfl
  vars := rfl
  blocks := ⟨Equiv.swap (0 : Fin 3) (1 : Fin 3), by decide, by decide⟩
  actions := by
    refine ⟨.refl _, ?_, by decide⟩
    intro i
    obtain rfl : i = ⟨0, Nat.one_pos⟩ := Fin.eq_zero i
    exact ⟨_, .of_perm (.swap _ _ _) (by decide), rfl⟩

theorem document_of_shuffled_profile :
    (outerFirst.Shuffled outerLater ∧
      document .standard outerLater "" = document .standard outerFirst "") ∧
    (Flattener.standard.flatten .profile .empty =
        .ok (.flattened (Document.placed (.sequential "id") .standard 0 .profile))
          { Flattener.standard.asked .profile .empty with issued := 13 } ∧
      (Issuer.sequential "id").Fresh 0 13 ∧
      let F := Document.placed (.sequential "id") .standard 0 .profile
      F.blocks.reverse.Perm F.blocks ∧
        document .standard { F with blocks := F.blocks.reverse } "frame.json" =
          document .standard F "frame.json") := by
  have hflatten := Flattener.flatten_of_no_faults .empty Flattener.faults_profile
  have hfresh := Issuer.fresh_sequential "id" 0 13
  have hperm := List.reverse_perm (Document.placed (.sequential "id") .standard 0 .profile).blocks
  refine ⟨⟨shuffled_outerFirst, ?_⟩, hflatten, hfresh, hperm, ?_⟩
  · exact (document_of_shuffled .standard "").1 _ _ shuffled_outerFirst
  · exact (document_of_shuffled .standard "frame.json").2 _ _ _ _ _ _ hflatten hfresh hperm

end Rebuild

end FrameTree

import FrameTree.Rebuild

/-!
# Looking up links is filtering

An index groups the entities of a list by what they point at. A look-up gives the entities that a
scan of the list would give, in list order (`get_ofList`); in an index that has been sorted, the
same entities stably sorted (`get_sortedBy`).

**Keys.** Where no two entities have the same key, a scan for the key of one of them finds that one
alone (`filter_key`), and a scan for what was made from an entity finds what was made from it
(`filter_flatMap_key`).
-/

namespace FrameTree

variable {α β κ : Type}

/-! ## Keys -/

section

variable [BEq κ] [LawfulBEq κ]

theorem filter_key {key : α → κ} {xs : List α} (h : (xs.map key).Nodup) {x : α} (hx : x ∈ xs) :
    (xs.filter fun y => key y == key x) = [x] := by
  induction xs with
  | nil => cases hx
  | cons y ys ih =>
    rw [List.map_cons, List.nodup_cons] at h
    rcases List.mem_cons.1 hx with rfl | hx
    · rw [List.filter_cons_of_pos (by simp), List.filter_eq_nil_iff.2]
      intro y hy hyx
      exact h.1 (List.mem_map.2 ⟨y, hy, beq_iff_eq.1 hyx⟩)
    · rw [List.filter_cons_of_neg, ih h.2 hx]
      intro hyx
      exact h.1 (List.mem_map.2 ⟨x, hx, (beq_iff_eq.1 hyx).symm⟩)

theorem filter_flatMap {key : α → κ} {key' : β → κ} {make : α → List β}
    (hmake : ∀ x, ∀ y ∈ make x, key' y = key x) (xs : List α) (k : κ) :
    ((xs.flatMap make).filter fun y => key' y == k) =
      (xs.filter fun x => key x == k).flatMap make := by
  induction xs with
  | nil => rfl
  | cons x xs ih =>
    rw [List.flatMap_cons, List.filter_append, ih]
    by_cases hk : key x = k
    · rw [List.filter_eq_self.2 fun y hy => by simp [hmake x y hy, hk],
        List.filter_cons_of_pos (by simp [hk]), List.flatMap_cons]
    · rw [List.filter_eq_nil_iff.2 fun y hy => by simp [hmake x y hy, hk],
        List.filter_cons_of_neg (by simp [hk]), List.nil_append]

theorem filter_flatMap_key {key : α → κ} {key' : β → κ} {make : α → List β}
    (hmake : ∀ x, ∀ y ∈ make x, key' y = key x) {xs : List α} (h : (xs.map key).Nodup) {x : α}
    (hx : x ∈ xs) : ((xs.flatMap make).filter fun y => key' y == key x) = make x := by
  rw [filter_flatMap hmake, filter_key h hx, List.flatMap_singleton]

end

/-! ## Look-ups -/

namespace LinkIndex

theorem getD_foldr_add (link : β → String) (bs : List β) (target : String) :
    (bs.foldr (add link) ∅).getD target [] = bs.filter fun b => link b == target := by
  induction bs with
  | nil => exact Std.HashMap.getD_empty
  | cons b bs ih =>
    rw [List.foldr_cons, add, Std.HashMap.getD_alter, ← Std.HashMap.getD_eq_getD_getElem?]
    by_cases h : link b = target
    · rw [if_pos (beq_iff_eq.2 h), List.filter_cons_of_pos (by simpa using h), ← ih, h]
      rfl
    · rw [if_neg (by simpa using h), List.filter_cons_of_neg (by simpa using h), ih]

@[simp] theorem get_ofList (link : β → String) (bs : List β) (target : String) :
    (ofList link bs).get target = bs.filter fun b => link b == target :=
  getD_foldr_add link bs target

@[simp] theorem get_sortedBy (key : β → Nat) (index : LinkIndex β) (target : String) :
    (index.sortedBy key).get target =
      (index.get target).mergeSort fun a b => key a ≤ key b := by
  rw [get, sortedBy, get, Std.HashMap.getD_map, Std.HashMap.getD_eq_getD_getElem?]
  cases index.groups[target]? with
  | none => exact List.mergeSort_nil.symm
  | some group => rfl

theorem mem_get_ofList {link : β → String} {bs : List β} {target : String} {b : β} :
    b ∈ (ofList link bs).get target ↔ b ∈ bs ∧ link b = target := by
  rw [get_ofList, List.mem_filter, beq_iff_eq]

theorem mem_get_sortedBy {key : β → Nat} {index : LinkIndex β} {target : String} {b : β} :
    b ∈ (index.sortedBy key).get target ↔ b ∈ index.get target := by
  rw [get_sortedBy, List.mem_mergeSort]

/-- Entities that are in order already stay as they are. -/
theorem get_sortedBy_of_pairwise {key : β → Nat} {index : LinkIndex β} {target : String}
    (h : (index.get target).Pairwise fun a b => key a ≤ key b) :
    (index.sortedBy key).get target = index.get target := by
  rw [get_sortedBy]
  exact List.mergeSort_of_pairwise (h.imp fun hab => decide_eq_true hab)

end LinkIndex

/-- The blocks of a frame by the block that they are inside of, as rebuilding looks them up. -/
def Rebuild.blockIndex (F : Frame String) : LinkIndex (Frame.Block String) :=
  (LinkIndex.ofList Frame.Block.parentId F.blocks).sortedBy Frame.Block.position

theorem Rebuild.mem_get_blockIndex {F : Frame String} {target : String} {b : Frame.Block String} :
    b ∈ (blockIndex F).get target ↔ b ∈ F.blocks ∧ b.parentId = target := by
  rw [blockIndex, LinkIndex.mem_get_sortedBy, LinkIndex.mem_get_ofList]

end FrameTree

import FrameTree.Nesting
import FrameTree.Proofs.Forest

/-!
# The nesting check is exact

The check takes pending nodes from a list one by one. It accepts just if every pending tree, hung in
at the depth it comes with, ends within the limit (`Tree.allWithin_iff`); which node is taken first
makes no difference. For the blocks of a document this bounds the depth of the blocks and, counted
anew under every action, of the triggers (`Nesting.check_eq`).
-/

namespace FrameTree

variable {α : Type}

namespace Forest

theorem depth_le_iff {ts : Forest α} {k : Nat} : depth ts ≤ k ↔ ∀ t ∈ ts, t.depth ≤ k := by
  induction ts with
  | nil => simp
  | cons t ts ih =>
    rw [List.forall_mem_cons, ← ih]
    show max t.depth (depth ts) ≤ k ↔ _
    omega

theorem mem_labels {ts : Forest α} {a : α} : a ∈ labels ts ↔ ∃ t ∈ ts, a ∈ t.labels := by
  induction ts with
  | nil => simp
  | cons t ts ih =>
    simp only [List.mem_cons, exists_eq_or_imp, ← ih]
    exact List.mem_append

end Forest

theorem Tree.allWithin_iff (limit : Nat) (good : α → Bool) (pending : List (Tree α × Nat)) :
    Tree.allWithin limit good pending = true ↔
      ∀ p ∈ pending, p.1.depth + p.2 ≤ limit + 1 ∧ ∀ a ∈ p.1.labels, good a = true := by
  fun_induction Tree.allWithin limit good pending with
  | case1 => simp
  | case2 a ts depth pending ih =>
    -- The children one level deeper stand for the trees below the node.
    have hbelow : (∀ p ∈ ts.map (·, depth + 1), p.1.depth + p.2 ≤ limit + 1 ∧
        ∀ a ∈ p.1.labels, good a = true) ↔
        (∀ t ∈ ts, t.depth + depth ≤ limit) ∧ ∀ b ∈ Forest.labels ts, good b = true := by
      simp only [List.forall_mem_map, Forest.mem_labels]
      constructor
      · intro h
        refine ⟨fun t ht => ?_, fun b ⟨t, ht, hb⟩ => (h t ht).2 b hb⟩
        have := (h t ht).1
        omega
      · rintro ⟨hd, hg⟩ t ht
        have := hd t ht
        exact ⟨by omega, fun b hb => hg b ⟨t, ht, hb⟩⟩
    have hdepth : 1 + Forest.depth ts + depth ≤ limit + 1 ↔
        depth ≤ limit ∧ ∀ t ∈ ts, t.depth + depth ≤ limit := by
      constructor
      · intro h
        refine ⟨by omega, fun t ht => ?_⟩
        have := Forest.depth_le_iff.1 (Nat.le_refl (Forest.depth ts)) t ht
        omega
      · rintro ⟨h, hts⟩
        have : Forest.depth ts ≤ limit - depth :=
          Forest.depth_le_iff.2 fun t ht => by have := hts t ht; omega
        omega
    rw [Bool.and_eq_true, Bool.and_eq_true, decide_eq_true_iff, ih, Tree.descend,
      List.forall_mem_append, hbelow, List.forall_mem_cons, Tree.depth_node, hdepth,
      Tree.labels_node, List.forall_mem_cons]
    constructor
    · rintro ⟨⟨h, ha⟩, ⟨hts, hts'⟩, hrest⟩
      exact ⟨⟨⟨h, hts⟩, ha, hts'⟩, hrest⟩
    · rintro ⟨⟨⟨h, hts⟩, ha, hts'⟩, hrest⟩
      exact ⟨⟨h, ha⟩, ⟨hts, hts'⟩, hrest⟩

/-- From the top, the check bounds the depth of the forest and judges its labels. -/
theorem Tree.allWithin_top_iff (limit : Nat) (good : α → Bool) (ts : Forest α) :
    Tree.allWithin limit good (ts.map (·, 1)) = true ↔
      Forest.depth ts ≤ limit ∧ ∀ a ∈ Forest.labels ts, good a = true := by
  rw [Tree.allWithin_iff]
  simp only [List.forall_mem_map, Forest.depth_le_iff, Forest.mem_labels, Nat.add_le_add_iff_right]
  constructor
  · intro h
    exact ⟨fun t ht => (h t ht).1, fun a ⟨t, ht, ha⟩ => (h t ht).2 a ha⟩
  · rintro ⟨hd, hg⟩ t ht
    exact ⟨hd t ht, fun a ha => hg a ⟨t, ht, ha⟩⟩

namespace Nesting

/-- The blocks nest within the limit, and so do the triggers of every action. -/
def Within (limit : Nat) (blocks : Forest Document.Block) : Prop :=
  Forest.depth blocks ≤ limit ∧
    ∀ b ∈ Forest.labels blocks, ∀ a ∈ b.actions, Forest.depth a.triggers ≤ limit

instance (limit : Nat) (blocks : Forest Document.Block) : Decidable (Within limit blocks) :=
  inferInstanceAs (Decidable (_ ∧ _))

theorem actionsWithin_iff (limit : Nat) (b : Document.Block) :
    actionsWithin limit b = true ↔ ∀ a ∈ b.actions, Forest.depth a.triggers ≤ limit := by
  simp only [actionsWithin, actionWithin, List.all_eq_true, Tree.allWithin_top_iff, implies_true,
    and_true]

theorem check_eq (limit : Nat) (blocks : Forest Document.Block) :
    check limit blocks = if Within limit blocks then .ok () else .error (.depthExceeded limit) := by
  have hiff : Tree.allWithin limit (actionsWithin limit) (blocks.map (·, 1)) = true ↔
      Within limit blocks := by
    simp only [Tree.allWithin_top_iff, actionsWithin_iff, Within]
  rw [check]
  by_cases h : Within limit blocks
  · rw [if_pos h, if_pos (hiff.2 h)]
  · rw [if_neg h, if_neg fun h' => h (hiff.1 h')]

theorem check_eq_ok_iff {limit : Nat} {blocks : Forest Document.Block} :
    check limit blocks = .ok () ↔ Within limit blocks := by
  rw [check_eq]
  split
  · exact iff_of_true rfl ‹_›
  · exact iff_of_false nofun ‹_›

theorem check_eq_error_iff {limit : Nat} {blocks : Forest Document.Block} :
    check limit blocks = .error (.depthExceeded limit) ↔ ¬Within limit blocks := by
  rw [check_eq]
  split
  · exact iff_of_false nofun (not_not_intro ‹_›)
  · exact iff_of_true rfl ‹_›

end Nesting

end FrameTree

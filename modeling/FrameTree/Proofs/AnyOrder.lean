import FrameTree.Proofs.Nesting
import FrameTree.Proofs.Numbered

/-!
# Visiting in any order

The nesting check goes through all blocks and triggers. It is told here in terms of single nodes and
their depths, and without an order: a search may take any pending block or trigger as its next one.

**Depths** (`Forest.At`). A root lies one deep and a child one deeper than the node above it. The
depth of a forest is that of its deepest node (`Forest.depth_le_iff_at`).

**Searches** (`Nesting.Step`). A step visits one pending node, which puts what is right below it
among the pending ones, or ends the search: with the error at a node that lies too deep, and well
when nothing is pending. A step leaves the answer that is to be expected as it is
(`Nesting.answer_of_step`) and lessens the work that is left (`Nesting.work_of_step`).

**Stacks** (`Nesting.drain`). Two stacks, with the triggers of a block always before the next block
and the last node that was put there first, make one of these searches.

Main result: `Nesting.check_exact`.
-/

namespace FrameTree

variable {α : Type}

/-! ## Depths -/

/-- A node with the label `a` lies `k` deep: a root one deep, and a child one deeper than the node
above it. -/
inductive Forest.At : Forest α → (k : Nat) → (a : α) → Prop
  | root {ts us : Forest α} {a : α} : .node a us ∈ ts → At ts 1 a
  | inside {ts us : Forest α} {a b : α} {k : Nat} : .node a us ∈ ts → At us k b → At ts (k + 1) b

namespace Forest

theorem At.mono {ss ts : Forest α} (hsub : ∀ t ∈ ss, t ∈ ts) {k : Nat} {a : α} (h : At ss k a) :
    At ts k a := by
  cases h with
  | root hmem => exact .root (hsub _ hmem)
  | inside hmem hb => exact .inside (hsub _ hmem) hb

theorem exists_at_iff {ts : Forest α} {a : α} : (∃ k, At ts k a) ↔ a ∈ labels ts := by
  constructor
  · rintro ⟨k, h⟩
    induction h with
    | root hmem => exact mem_labels.2 ⟨_, hmem, by simp⟩
    | inside hmem _ ih => exact mem_labels.2 ⟨_, hmem, by simp [ih]⟩
  · intro h
    induction ts using Forest.induction with
    | nil => cases h
    | cons b ts rest ih ih' =>
      rw [labels_cons, List.mem_cons, List.mem_append] at h
      rcases h with rfl | h | h
      · exact ⟨1, .root List.mem_cons_self⟩
      · obtain ⟨k, hk⟩ := ih h
        exact ⟨k + 1, .inside List.mem_cons_self hk⟩
      · obtain ⟨k, hk⟩ := ih' h
        exact ⟨k, hk.mono fun t => List.mem_cons_of_mem _⟩

/-- The depth of a forest is that of its deepest node. -/
theorem depth_le_iff_at {ts : Forest α} {limit : Nat} :
    depth ts ≤ limit ↔ ∀ k a, At ts k a → k ≤ limit := by
  constructor
  · intro h k a hk
    induction hk generalizing limit with
    | root hmem =>
      have := depth_le_iff.1 h _ hmem
      rw [Tree.depth_node] at this
      omega
    | inside hmem _ ih =>
      have htree := depth_le_iff.1 h _ hmem
      rw [Tree.depth_node] at htree
      have hbelow := ih (Nat.le_sub_of_add_le' htree)
      omega
  · intro h
    induction ts using Forest.induction generalizing limit with
    | nil => exact Nat.zero_le limit
    | cons a ts rest ih ih' =>
      have hroot : 1 ≤ limit := h 1 a (.root List.mem_cons_self)
      have hts : depth ts ≤ limit - 1 := ih fun k b hk => by
        have := h (k + 1) b (.inside List.mem_cons_self hk)
        omega
      have hrest : depth rest ≤ limit := ih' fun k b hk =>
        h k b (hk.mono fun t => List.mem_cons_of_mem _)
      rw [depth_cons]
      omega

theorem labels_eq_flatMap (ts : Forest α) : labels ts = ts.flatMap Tree.labels := by
  induction ts with
  | nil => rfl
  | cons t ts ih =>
    rw [List.flatMap_cons, ← ih]
    rfl

@[simp] theorem weight_append (cost : α → Nat) (ss ts : Forest α) :
    weight cost (ss ++ ts) = weight cost ss + weight cost ts := by
  simp [weight, labels_eq_flatMap]

theorem weight_of_perm (cost : α → Nat) {ss ts : Forest α} (h : ss.Perm ts) :
    weight cost ss = weight cost ts := by
  rw [weight, weight, labels_eq_flatMap, labels_eq_flatMap]
  exact ((h.flatMap_right _).map cost).sum_nat

end Forest

/-! ## Pending nodes -/

/-- Nodes that are still to be visited, each with its depth. -/
abbrev Pending (α : Type) := List (Tree α × Nat)

theorem Forest.weight_descend (f : α → Nat) (ts : Forest α) (depth : Nat) (rest : Pending α) :
    weight f ((Tree.descend ts depth rest).map Prod.fst) =
      weight f ts + weight f (rest.map Prod.fst) := by
  simp [Tree.descend, Function.comp_def]

namespace Tree

variable {limit : Nat}

theorem allWithin_of_perm {good : α → Bool} {ps qs : Pending α} (h : ps.Perm qs) :
    allWithin limit good ps = allWithin limit good qs := by
  rw [Bool.eq_iff_iff, allWithin_iff, allWithin_iff]
  simp only [h.mem_iff]

theorem allWithin_append (good : α → Bool) (ps qs : Pending α) :
    allWithin limit good (ps ++ qs) = (allWithin limit good ps && allWithin limit good qs) := by
  rw [Bool.eq_iff_iff, Bool.and_eq_true, allWithin_iff, allWithin_iff, allWithin_iff,
    List.forall_mem_append]

theorem allWithin_cons (good : α → Bool) (a : α) (ts : Forest α) (depth : Nat) (rest : Pending α) :
    allWithin limit good ((.node a ts, depth) :: rest) =
      (decide (depth ≤ limit) && good a && allWithin limit good (descend ts depth rest)) := by
  rw [allWithin]

theorem allWithin_of_deep {good : α → Bool} {t : Tree α} {depth : Nat} {pending : Pending α}
    (ht : (t, depth) ∈ pending) (hdeep : limit < depth) :
    allWithin limit good pending = false := by
  rw [Bool.eq_false_iff]
  intro h
  have hdepth : t.depth + depth ≤ limit + 1 := ((allWithin_iff _ _ _).1 h _ ht).1
  cases t with
  | node a ts =>
    rw [depth_node] at hdepth
    omega

end Tree

namespace Nesting

open Document

variable {limit : Nat}

/-- The check in terms of single nodes. -/
theorem within_iff_at {blocks : Forest Block} :
    Within limit blocks ↔ ∀ k b, Forest.At blocks k b →
      k ≤ limit ∧ ∀ a ∈ b.actions, ∀ j t, Forest.At a.triggers j t → j ≤ limit := by
  simp only [Within, Forest.depth_le_iff_at, ← Forest.exists_at_iff]
  constructor
  · rintro ⟨hblocks, htriggers⟩ k b hb
    exact ⟨hblocks k b hb, htriggers b ⟨k, hb⟩⟩
  · intro h
    refine ⟨fun k b hb => (h k b hb).1, ?_⟩
    rintro b ⟨k, hb⟩
    exact (h k b hb).2

/-! ## Searches -/

/-- A search that is still going on, with the blocks and triggers that are pending and their depths,
or one that is over. -/
inductive Search where
  | going (blocks : Pending Block) (triggers : Pending Trigger)
  | ended (result : Except Error Unit)

/-- The search before anything has been visited. -/
def Search.start (blocks : Forest Block) : Search := .going (blocks.map (·, 1)) []

/-- The triggers at the start of a chain in any action of a block. -/
def chainStarts (b : Block) : Pending Trigger :=
  b.actions.flatMap fun a => a.triggers.map (·, 1)

/-- One step of a search. The pending nodes are in no order. -/
inductive Step (limit : Nat) : Search → Search → Prop
  | block {blocks blocks' rest : Pending Block} {triggers triggers' : Pending Trigger} {b : Block}
      {bs : Forest Block} {depth : Nat} :
      blocks.Perm ((.node b bs, depth) :: rest) → depth ≤ limit →
      blocks'.Perm (Tree.descend bs depth rest) → triggers'.Perm (chainStarts b ++ triggers) →
      Step limit (.going blocks triggers) (.going blocks' triggers')
  | trigger {blocks : Pending Block} {triggers triggers' rest : Pending Trigger} {t : Trigger}
      {ts : Forest Trigger} {depth : Nat} :
      triggers.Perm ((.node t ts, depth) :: rest) → depth ≤ limit →
      triggers'.Perm (Tree.descend ts depth rest) →
      Step limit (.going blocks triggers) (.going blocks triggers')
  | deepBlock {blocks : Pending Block} {triggers : Pending Trigger} {b : Tree Block} {depth : Nat} :
      (b, depth) ∈ blocks → limit < depth →
      Step limit (.going blocks triggers) (.ended (.error (.depthExceeded limit)))
  | deepTrigger {blocks : Pending Block} {triggers : Pending Trigger} {t : Tree Trigger}
      {depth : Nat} :
      (t, depth) ∈ triggers → limit < depth →
      Step limit (.going blocks triggers) (.ended (.error (.depthExceeded limit)))
  | finish : Step limit (.going [] []) (.ended (.ok ()))

/-- A run of so many steps. -/
inductive Run (limit : Nat) : Nat → Search → Search → Prop
  | refl (s : Search) : Run limit 0 s s
  | step {n : Nat} {s s' s'' : Search} : Step limit s s' → Run limit n s' s'' →
      Run limit (n + 1) s s''

/-- What the answer of a search is going to be. -/
def answer (limit : Nat) : Search → Except Error Unit
  | .going blocks triggers =>
    if Tree.allWithin limit (actionsWithin limit) blocks &&
        Tree.allWithin limit (fun _ => true) triggers then .ok ()
    else .error (.depthExceeded limit)
  | .ended result => result

/-- What a block costs a search: a step for the block and one for each trigger in its actions. -/
def cost (b : Block) : Nat :=
  1 + Forest.weight (fun _ => 1) ((chainStarts b).map Prod.fst)

/-- The number of steps that are left at most: one for each node, and the last one. -/
def work : Search → Nat
  | .going blocks triggers =>
    Forest.weight cost (blocks.map Prod.fst) +
      Forest.weight (fun _ => 1) (triggers.map Prod.fst) + 1
  | .ended _ => 0

/-! ### Steps -/

theorem allWithin_chainStarts (b : Block) :
    Tree.allWithin limit (fun _ => true) (chainStarts b) = actionsWithin limit b := by
  rw [actionsWithin, chainStarts]
  induction b.actions with
  | nil => rw [List.flatMap_nil, Tree.allWithin, List.all_nil]
  | cons a as ih => rw [List.flatMap_cons, Tree.allWithin_append, ih, List.all_cons, actionWithin]

/-- A step does not change the answer. -/
theorem answer_of_step {s s' : Search} (h : Step limit s s') :
    answer limit s' = answer limit s := by
  cases h with
  | block hblocks hdepth hblocks' htriggers' =>
    rw [answer, answer, Tree.allWithin_of_perm hblocks, Tree.allWithin_of_perm hblocks',
      Tree.allWithin_of_perm htriggers', Tree.allWithin_append, allWithin_chainStarts,
      Tree.allWithin_cons, decide_eq_true hdepth, Bool.true_and, Bool.and_assoc, Bool.and_left_comm]
  | trigger htriggers hdepth htriggers' =>
    rw [answer, answer, Tree.allWithin_of_perm htriggers, Tree.allWithin_of_perm htriggers',
      Tree.allWithin_cons, decide_eq_true hdepth, Bool.true_and, Bool.true_and]
  | deepBlock hb hdeep => simp [answer, Tree.allWithin_of_deep hb hdeep]
  | deepTrigger ht hdeep => simp [answer, Tree.allWithin_of_deep ht hdeep]
  | finish => simp [answer, Tree.allWithin]

/-- A step lessens the work. -/
theorem work_of_step {s s' : Search} (h : Step limit s s') : work s' < work s := by
  cases h with
  | block hblocks _ hblocks' htriggers' =>
    rw [work, work, Forest.weight_of_perm _ (hblocks.map Prod.fst),
      Forest.weight_of_perm _ (hblocks'.map Prod.fst),
      Forest.weight_of_perm _ (htriggers'.map Prod.fst), Forest.weight_descend, List.map_cons,
      Forest.weight_cons, cost, List.map_append, Forest.weight_append]
    omega
  | trigger htriggers _ htriggers' =>
    rw [work, work, Forest.weight_of_perm _ (htriggers.map Prod.fst),
      Forest.weight_of_perm _ (htriggers'.map Prod.fst), Forest.weight_descend, List.map_cons,
      Forest.weight_cons]
    omega
  | deepBlock => exact Nat.succ_pos _
  | deepTrigger => exact Nat.succ_pos _
  | finish => exact Nat.succ_pos _

/-- A search that is going on can go on. -/
theorem exists_step (blocks : Pending Block) (triggers : Pending Trigger) :
    ∃ s, Step limit (.going blocks triggers) s := by
  cases blocks with
  | cons p rest =>
    obtain ⟨⟨b, bs⟩, depth⟩ := p
    by_cases hdepth : depth ≤ limit
    · exact ⟨_, .block (.refl _) hdepth (.refl _) (.refl _)⟩
    · exact ⟨_, .deepBlock List.mem_cons_self (Nat.lt_of_not_le hdepth)⟩
  | nil =>
    cases triggers with
    | cons p rest =>
      obtain ⟨⟨t, ts⟩, depth⟩ := p
      by_cases hdepth : depth ≤ limit
      · exact ⟨_, .trigger (.refl _) hdepth (.refl _)⟩
      · exact ⟨_, .deepTrigger List.mem_cons_self (Nat.lt_of_not_le hdepth)⟩
    | nil => exact ⟨_, .finish⟩

/-! ### Runs -/

theorem answer_start (blocks : Forest Block) :
    answer limit (.start blocks) = check limit blocks := by
  simp [answer, Search.start, check, Tree.allWithin]

/-- A run has no more steps than there is work, and keeps the answer. -/
theorem Run.spec {n : Nat} {s s' : Search} (h : Run limit n s s') :
    n + work s' ≤ work s ∧ answer limit s' = answer limit s := by
  induction h with
  | refl s => exact ⟨by omega, rfl⟩
  | step hstep _ ih =>
    have := work_of_step hstep
    exact ⟨by omega, ih.2.trans (answer_of_step hstep)⟩

/-! ## Stacks -/

/-- The children, one level deeper, on top of a stack. The last child lies on top. -/
def pile (ts : Forest α) (depth : Nat) (stack : Pending α) : Pending α :=
  (ts.map (·, depth + 1)).reverse ++ stack

theorem pile_perm (ts : Forest α) (depth : Nat) (stack : Pending α) :
    (pile ts depth stack).Perm (Tree.descend ts depth stack) :=
  (List.reverse_perm _).append_right stack

/-- Goes through two stacks, the tops of which come first in the lists. All triggers of a block are
visited before the next block is. -/
def drain (limit : Nat) : Pending Block → Pending Trigger → Except Error Unit
  | blocks, (.node _ ts, depth) :: triggers =>
    if _h : depth ≤ limit then drain limit blocks (pile ts depth triggers)
    else .error (.depthExceeded limit)
  | (.node b bs, depth) :: blocks, [] =>
    if _h : depth ≤ limit then drain limit (pile bs depth blocks) (chainStarts b).reverse
    else .error (.depthExceeded limit)
  | [], [] => .ok ()
termination_by blocks triggers => work (.going blocks triggers)
decreasing_by
  · exact work_of_step (.trigger (.refl _) _h (pile_perm ts depth triggers))
  · exact work_of_step (.block (.refl _) _h (pile_perm bs depth blocks)
      ((List.reverse_perm _).trans (by simp)))

/-- The check with two stacks. The first block lies deepest in its stack. -/
def drainAll (limit : Nat) (blocks : Forest Block) : Except Error Unit :=
  drain limit (blocks.map (·, 1)).reverse []

/-- Two stacks make a search. -/
theorem run_drain (limit : Nat) (blocks : Pending Block) (triggers : Pending Trigger) :
    ∃ n, Run limit n (.going blocks triggers) (.ended (drain limit blocks triggers)) := by
  fun_induction drain limit blocks triggers with
  | case1 blocks t ts depth triggers hdepth ih =>
    obtain ⟨n, hrun⟩ := ih
    exact ⟨n + 1, .step (.trigger (.refl _) hdepth (pile_perm ts depth triggers)) hrun⟩
  | case2 blocks t ts depth triggers hdepth =>
    exact ⟨1, .step (.deepTrigger List.mem_cons_self (Nat.lt_of_not_le hdepth)) (.refl _)⟩
  | case3 b bs depth blocks hdepth ih =>
    obtain ⟨n, hrun⟩ := ih
    refine ⟨n + 1, .step (.block (.refl _) hdepth (pile_perm bs depth blocks) ?_) hrun⟩
    rw [List.append_nil]
    exact List.reverse_perm _
  | case4 b bs depth blocks hdepth =>
    exact ⟨1, .step (.deepBlock List.mem_cons_self (Nat.lt_of_not_le hdepth)) (.refl _)⟩
  | case5 => exact ⟨1, .step .finish (.refl _)⟩

theorem drainAll_eq (limit : Nat) (blocks : Forest Block) :
    drainAll limit blocks = check limit blocks := by
  obtain ⟨n, hrun⟩ := run_drain limit (blocks.map (·, 1)).reverse []
  have hanswer := hrun.spec.2
  rw [← answer_start, Search.start, answer, ← Tree.allWithin_of_perm (List.reverse_perm _)]
  exact hanswer

/-- **The nesting check is exact.** It accepts just if no block and no trigger lies too deep, where
triggers are counted anew in every action, and there is one error otherwise. Every search ends,
whatever it visits next: it has no more steps than there are nodes, and one; and a search that
cannot go on is over with the answer of the check. Two stacks give this answer too. -/
theorem check_exact (limit : Nat) (blocks : Forest Block) :
    (check limit blocks = .ok () ↔ ∀ k b, Forest.At blocks k b →
      k ≤ limit ∧ ∀ a ∈ b.actions, ∀ j t, Forest.At a.triggers j t → j ≤ limit) ∧
      (check limit blocks ≠ .ok () → check limit blocks = .error (.depthExceeded limit)) ∧
      (∀ n s, Run limit n (.start blocks) s → n ≤ work (.start blocks) ∧
        ((∃ s', Step limit s s') ∨ s = .ended (check limit blocks))) ∧
      drainAll limit blocks = check limit blocks := by
  refine ⟨check_eq_ok_iff.trans within_iff_at, ?_, ?_, drainAll_eq limit blocks⟩
  · intro h
    exact check_eq_error_iff.2 fun hwithin => h (check_eq_ok_iff.2 hwithin)
  · intro n s hrun
    obtain ⟨hwork, hanswer⟩ := hrun.spec
    refine ⟨by omega, ?_⟩
    cases s with
    | going blocks' triggers => exact .inl (exists_step blocks' triggers)
    | ended result =>
      rw [answer_start] at hanswer
      exact .inr (congrArg Search.ended hanswer)

end Nesting

end FrameTree

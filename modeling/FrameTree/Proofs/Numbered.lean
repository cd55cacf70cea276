import FrameTree.Proofs.Forest
import Mathlib.Algebra.Ring.Nat
import Mathlib.Data.List.Nodup

/-!
# Numbered forests

A walk in pre-order uses up numbers: at every label as many as the label costs, the first of them
for the label itself. A spot is a label together with what such a walk knows of it: its number, its
place among its siblings, and the number of its parent.

**Links.** From the pre-order list of the spots alone, the parent numbers give back the roots and
the children of every node in order (`Forest.roots_numbered`, `Forest.children_numbered`). The
numbers increase along the list, so no two spots share one (`Forest.pairwise_numbered`).

**Later numbers** (`Forest.numbered_add`). Numbered from a later number on, a forest has the same
spots but for their numbers.

**Lists** (`consecutive`). The same for the members of a list, one after the other.
-/

namespace FrameTree

variable {α β γ : Type}

/-- A label where a walk comes to it. -/
structure Spot (α : Type) where
  label : α
  /-- The first of its numbers. -/
  index : Nat
  /-- The place among the siblings. -/
  place : Nat
  /-- The index of the parent. -/
  parent : Option Nat

/-- What the labels of a forest cost together. -/
def Forest.weight (cost : α → Nat) (ts : Forest α) : Nat := ((labels ts).map cost).sum

/-- The tree with its spots, if the walk comes to it at `place` with the next number `n`. -/
def Tree.numbered (cost : α → Nat) :
    (parent : Option Nat) → (place n : Nat) → Tree α → Tree (Spot α)
  | parent, place, n, .node a ts => .node ⟨a, n, place, parent⟩ (forest (some n) 0 (n + cost a) ts)
where
  forest : (parent : Option Nat) → (place n : Nat) → Forest α → Forest (Spot α)
    | _, _, _, [] => []
    | parent, place, n, t :: ts =>
      numbered cost parent place n t ::
        forest parent (place + 1) (n + (t.labels.map cost).sum) ts

namespace Forest

/-- The forest with its spots, its first tree at `place`. -/
abbrev numbered (cost : α → Nat) (parent : Option Nat) (place n : Nat) (ts : Forest α) :
    Forest (Spot α) :=
  Tree.numbered.forest cost parent place n ts

variable (cost : α → Nat) (p : Option Nat) (k n : Nat)

@[simp] theorem weight_nil : weight cost ([] : Forest α) = 0 := rfl

@[simp] theorem weight_cons (a : α) (ts rest : Forest α) :
    weight cost (.node a ts :: rest) = cost a + weight cost ts + weight cost rest := by
  simp [weight, Nat.add_assoc]

@[simp] theorem numbered_nil : numbered cost p k n [] = [] := rfl

@[simp] theorem numbered_cons (a : α) (ts rest : Forest α) :
    numbered cost p k n (.node a ts :: rest) =
      .node ⟨a, n, k, p⟩ (numbered cost (some n) 0 (n + cost a) ts) ::
        numbered cost p (k + 1) (n + (cost a + weight cost ts)) rest := by
  rfl

@[simp] theorem relabel_numbered (ts : Forest α) :
    relabel Spot.label (numbered cost p k n ts) = ts := by
  induction ts using Forest.induction generalizing p k n with
  | nil => rfl
  | cons a ts rest ih ih' => rw [numbered_cons, relabel_cons, ih, ih']

theorem labels_numbered (ts : Forest α) :
    (labels (numbered cost p k n ts)).map Spot.label = labels ts := by
  rw [← labels_relabel, relabel_numbered]

section

variable {cost} {g : Spot α → α} (hg : ∀ s, cost (g s) = cost s.label)

include hg

theorem weight_relabel_numbered (ts : Forest α) :
    weight cost (relabel g (numbered cost p k n ts)) = weight cost ts := by
  rw [weight, labels_relabel, List.map_map, weight, ← labels_numbered cost p k n ts, List.map_map]
  exact congrArg List.sum (List.map_congr_left fun s _ => hg s)

/-- Labels of the same cost in place of the old ones leave the rest of every spot as it is. -/
theorem numbered_relabel_numbered (ts : Forest α) :
    numbered cost p k n (relabel g (numbered cost p k n ts)) =
      relabel (fun s => { s with label := g s }) (numbered cost p k n ts) := by
  induction ts using Forest.induction generalizing p k n with
  | nil => rfl
  | cons a ts rest ih ih' =>
    have ha : cost (g ⟨a, n, k, p⟩) = cost a := hg _
    rw [numbered_cons, relabel_cons, numbered_cons, relabel_cons, ha,
      weight_relabel_numbered _ _ _ hg, ih, ih']

end

/-- A property that every numbered tree has at its top holds of all nodes. -/
theorem all_numbered {P : Spot α → Forest (Spot α) → Prop}
    (h : ∀ p k n a ts, P ⟨a, n, k, p⟩ (numbered cost (some n) 0 (n + cost a) ts)) (ts : Forest α) :
    All P (numbered cost p k n ts) := by
  induction ts using Forest.induction generalizing p k n with
  | nil => trivial
  | cons a ts rest ih ih' => exact ⟨⟨h p k n a ts, ih _ _ _⟩, ih' _ _ _⟩

/-! ## Numbers -/

theorem index_numbered (ts : Forest α) :
    ∀ s ∈ labels (numbered cost p k n ts),
      n ≤ s.index ∧ s.index + cost s.label ≤ n + weight cost ts := by
  induction ts using Forest.induction generalizing p k n with
  | nil => simp
  | cons a ts rest ih ih' =>
    simp only [numbered_cons, labels_cons, weight_cons, List.mem_cons, List.mem_append]
    rintro s (rfl | hs | hs)
    · dsimp only; omega
    · have := ih _ _ _ s hs; omega
    · have := ih' _ _ _ s hs; omega

/-- Along the pre-order, each spot comes after all numbers of those before it. -/
theorem pairwise_numbered (ts : Forest α) :
    (labels (numbered cost p k n ts)).Pairwise fun s t => s.index + cost s.label ≤ t.index := by
  induction ts using Forest.induction generalizing p k n with
  | nil => exact .nil
  | cons a ts rest ih ih' =>
    rw [numbered_cons, labels_cons, List.pairwise_cons, List.pairwise_append]
    refine ⟨fun t ht => ?_, ih _ _ _, ih' _ _ _, fun s hs t ht => ?_⟩
    · rcases List.mem_append.1 ht with ht | ht
      · exact (index_numbered cost _ _ _ _ t ht).1
      · have := (index_numbered cost _ _ _ _ t ht).1
        dsimp only; omega
    · have hs := (index_numbered cost _ _ _ _ s hs).2
      have ht := (index_numbered cost _ _ _ _ t ht).1
      omega

/-! ## Links -/

/-- The spots at the top have the given parent. -/
theorem parent_roots_numbered (ts : Forest α) :
    ∀ s ∈ roots (numbered cost p k n ts), s.parent = p := by
  induction ts using Forest.induction generalizing k n with
  | nil => simp
  | cons a ts rest _ ih' =>
    rw [numbered_cons, roots_cons, List.forall_mem_cons]
    exact ⟨rfl, ih' _ _⟩

/-- The spots at the top have consecutive places. -/
theorem place_roots_numbered (ts : Forest α) :
    (roots (numbered cost p k n ts)).map Spot.place =
      List.range' k (numbered cost p k n ts).length := by
  induction ts using Forest.induction generalizing k n with
  | nil => rfl
  | cons a ts rest _ ih' =>
    rw [numbered_cons, roots_cons, List.map_cons, ih', List.length_cons, List.range'_succ]

/-- The children of every spot have its number as their parent. -/
theorem all_parent_numbered (ts : Forest α) :
    All (fun s us => ∀ t ∈ roots us, t.parent = some s.index) (numbered cost p k n ts) :=
  all_numbered cost p k n (fun _ _ n _ ts => parent_roots_numbered cost (some n) _ _ ts) ts

/-- The children of every spot have consecutive places. -/
theorem all_place_numbered (ts : Forest α) :
    All (fun _ us => (roots us).map Spot.place = List.range us.length)
      (numbered cost p k n ts) := by
  refine all_numbered cost p k n (fun p k n a ts => ?_) ts
  rw [place_roots_numbered, List.range_eq_range']

/-- The parent of a spot is the given one, or has a number of the forest. -/
theorem parent_numbered (hcost : ∀ a, 0 < cost a) (ts : Forest α) {s : Spot α}
    (hs : s ∈ labels (numbered cost p k n ts)) :
    s.parent = p ∨ ∃ i, s.parent = some i ∧ n ≤ i ∧ i < n + weight cost ts := by
  rcases parent_of_mem_labels (all_parent_numbered cost p k n ts) hs with hs | ⟨t, us, ht, ht', hs⟩
  · exact .inl (parent_roots_numbered cost p k n ts s hs)
  · have hi := index_numbered cost p k n ts t ht'
    have := hcost t.label
    exact .inr ⟨t.index, ht s hs, hi.1, by omega⟩

section

variable {cost} {p : Option Nat} {k n : Nat} {ts : Forest α} {s : Spot α}

theorem index_bounds (hcost : ∀ a, 0 < cost a) (hs : s ∈ labels (numbered cost p k n ts)) :
    n ≤ s.index ∧ s.index < n + weight cost ts := by
  have hindex := index_numbered cost p k n ts s hs
  have := hcost s.label
  exact ⟨hindex.1, by omega⟩

/-- A parent has a number of the forest. -/
theorem parent_bounds (hcost : ∀ a, 0 < cost a) (hs : s ∈ labels (numbered cost none k n ts))
    {i : Nat} (hi : s.parent = some i) : n ≤ i ∧ i < n + weight cost ts := by
  rcases parent_numbered cost none k n hcost ts hs with hnone | ⟨j, hj, hbounds⟩
  · cases hi.symm.trans hnone
  · cases hi.symm.trans hj
    exact hbounds

/-- A place is less than the first one and the number of nodes together. -/
theorem place_lt (hs : s ∈ labels (numbered cost p k n ts)) : s.place < k + (labels ts).length := by
  induction ts using Forest.induction generalizing p k n with
  | nil => cases hs
  | cons a ts rest ih ih' =>
    rw [numbered_cons, labels_cons, List.mem_cons, List.mem_append] at hs
    rw [labels_cons, List.length_cons, List.length_append]
    rcases hs with rfl | hs | hs
    · dsimp only
      omega
    · have := ih hs
      omega
    · have := ih' hs
      omega

theorem mem_labels_of_mem_numbered (hs : s ∈ labels (numbered cost p k n ts)) :
    s.label ∈ labels ts := by
  rw [← labels_numbered cost p k n ts]
  exact List.mem_map_of_mem hs

/-- A spot has no parent, or its label is below the top. -/
theorem parent_eq_none_or (hs : s ∈ labels (numbered cost none k n ts)) :
    s.parent = none ∨ ∃ t ∈ ts, s.label ∈ labels t.children := by
  induction ts using Forest.induction generalizing k n with
  | nil => cases hs
  | cons a ts rest _ ih' =>
    rw [numbered_cons, labels_cons, List.mem_cons, List.mem_append] at hs
    rcases hs with rfl | hs | hs
    · exact .inl rfl
    · exact .inr ⟨.node a ts, List.mem_cons_self, mem_labels_of_mem_numbered hs⟩
    · rcases ih' hs with hs | ⟨t, ht, hs⟩
      · exact .inl hs
      · exact .inr ⟨t, List.mem_cons_of_mem _ ht, hs⟩

end

/-- The spots with a given parent, in pre-order. -/
def childrenOf (spots : List (Spot α)) (q : Option Nat) : List (Spot α) :=
  spots.filter fun s => s.parent = q

theorem childrenOf_append (ss ts : List (Spot α)) (q : Option Nat) :
    childrenOf (ss ++ ts) q = childrenOf ss q ++ childrenOf ts q :=
  List.filter_append ss ts

theorem childrenOf_cons (s : Spot α) (ts : List (Spot α)) (q : Option Nat) :
    childrenOf (s :: ts) q = if s.parent = q then s :: childrenOf ts q else childrenOf ts q := by
  by_cases h : s.parent = q <;> simp [childrenOf, h]

/-- No spot has a parent from outside but the given one. -/
theorem childrenOf_numbered_eq_nil (hcost : ∀ a, 0 < cost a) (ts : Forest α) {q : Option Nat}
    (hp : p ≠ q) (hq : ∀ i, q = some i → i < n ∨ n + weight cost ts ≤ i) :
    childrenOf (labels (numbered cost p k n ts)) q = [] := by
  refine List.filter_eq_nil_iff.2 fun s hs => ?_
  rw [decide_eq_true_iff]
  intro hsq
  rcases parent_numbered cost p k n hcost ts hs with h | ⟨i, h, hi⟩
  · exact hp (h.symm.trans hsq)
  · have := hq i (hsq.symm.trans h)
    omega

/-- **The roots from the list.** The spots with the given parent are those at the top. -/
theorem roots_numbered (hcost : ∀ a, 0 < cost a) (hp : ∀ i, p = some i → i < n) (ts : Forest α) :
    childrenOf (labels (numbered cost p k n ts)) p = roots (numbered cost p k n ts) := by
  induction ts using Forest.induction generalizing k n with
  | nil => rfl
  | cons a ts rest _ ih' =>
    have hbelow : childrenOf (labels (numbered cost (some n) 0 (n + cost a) ts)) p = [] := by
      refine childrenOf_numbered_eq_nil cost _ _ _ hcost ts ?_ fun i hi => .inl ?_
      · rintro rfl
        exact absurd (hp n rfl) (Nat.lt_irrefl n)
      · have := hp i hi; omega
    rw [numbered_cons, labels_cons, childrenOf_cons, if_pos rfl, childrenOf_append, hbelow,
      ih' _ _ fun i hi => by have := hp i hi; omega]
    rfl

/-- The children of every node, from a list that has the same children for all numbers of the
forest. -/
theorem children_numbered_of_list (hcost : ∀ a, 0 < cost a) (hp : ∀ i, p = some i → i < n)
    (ts : Forest α) (spots : List (Spot α))
    (h : ∀ i, n ≤ i → i < n + weight cost ts →
      childrenOf spots (some i) = childrenOf (labels (numbered cost p k n ts)) (some i)) :
    All (fun s us => childrenOf spots (some s.index) = roots us) (numbered cost p k n ts) := by
  induction ts using Forest.induction generalizing p k n with
  | nil => trivial
  | cons a ts rest ih ih' =>
    have ha := hcost a
    have hne : ∀ i, n ≤ i → p ≠ some i := fun i hi hpi => by have := hp i hpi; omega
    -- Up to the numbers of the label itself, nothing but its children points at it.
    have hsplit : ∀ i, n ≤ i → i < n + weight cost (.node a ts :: rest) →
        childrenOf spots (some i) =
          childrenOf (labels (numbered cost (some n) 0 (n + cost a) ts)) (some i) ++
            childrenOf (labels (numbered cost p (k + 1) (n + (cost a + weight cost ts)) rest))
              (some i) := by
      intro i hi hi'
      rw [h i hi hi', numbered_cons, labels_cons, childrenOf_cons, if_neg (hne i hi),
        childrenOf_append]
    rw [weight_cons] at hsplit
    have hrest : ∀ i, n ≤ i → i < n + (cost a + weight cost ts) →
        childrenOf (labels (numbered cost p (k + 1) (n + (cost a + weight cost ts)) rest))
          (some i) = [] := fun i hi hi' =>
      childrenOf_numbered_eq_nil cost _ _ _ hcost rest (hne i hi) fun j hj => by
        cases hj; omega
    rw [numbered_cons, all_cons]
    refine ⟨⟨?_, ?_⟩, ?_⟩
    · show childrenOf spots (some n) = _
      rw [hsplit n (Nat.le_refl n) (by omega), hrest n (Nat.le_refl n) (by omega), List.append_nil]
      exact roots_numbered cost (some n) 0 (n + cost a) hcost (fun i hi => by cases hi; omega) ts
    · refine ih _ _ _ (fun i hi => by cases hi; omega) fun i hi hi' => ?_
      rw [hsplit i (by omega) (by omega), hrest i (by omega) (by omega), List.append_nil]
    · refine ih' _ _ _ (fun i hi => by have := hp i hi; omega) fun i hi hi' => ?_
      rw [hsplit i (by omega) (by omega), childrenOf_numbered_eq_nil cost (some n) _ _ hcost ts
        (fun hni => by cases hni; omega) (fun j hj => by cases hj; omega), List.nil_append]

/-- **The children from the list.** The spots whose parent is a node are its children. -/
theorem children_numbered (hcost : ∀ a, 0 < cost a) (hp : ∀ i, p = some i → i < n)
    (ts : Forest α) :
    All (fun s us => childrenOf (labels (numbered cost p k n ts)) (some s.index) = roots us)
      (numbered cost p k n ts) :=
  children_numbered_of_list cost p k n hcost hp ts _ fun _ _ _ => rfl

/-- No two spots have the same parent and the same place. -/
theorem nodup_places (hcost : ∀ a, 0 < cost a) (ts : Forest α) :
    ((labels (numbered cost none k n ts)).map fun s => (s.parent, s.place)).Nodup := by
  have hnone : ∀ i, (none : Option Nat) = some i → i < n := fun _ h => nomatch h
  have hinj : ∀ us : Forest (Spot α), ((roots us).map Spot.place).Nodup →
      ∀ s ∈ roots us, ∀ t ∈ roots us, s.place = t.place → s = t :=
    fun us hus s hs t ht hst => List.inj_on_of_nodup_map hus hs ht hst
  have hchildren := (children_numbered cost none k n hcost hnone ts).and
    ((all_parent_numbered cost none k n ts).and (all_place_numbered cost none k n ts))
  refine List.Nodup.map_on (fun s hs t ht hst => ?_) ?_
  · obtain ⟨hparent, hplace⟩ := Prod.mk.inj hst
    rcases parent_of_mem_labels hchildren hs with hs | ⟨u, us, ⟨hus, hup, hrange⟩, -, hs⟩
    · have hroot := parent_roots_numbered cost none k n ts s hs
      have ht' : t ∈ roots (numbered cost none k n ts) := by
        rw [← roots_numbered cost none k n hcost hnone ts, childrenOf, List.mem_filter]
        exact ⟨ht, by simp [← hparent, hroot]⟩
      refine hinj _ ?_ s hs t ht' hplace
      rw [place_roots_numbered]
      exact List.nodup_range'
    · have ht' : t ∈ roots us := by
        rw [← hus, childrenOf, List.mem_filter]
        exact ⟨ht, by simp [← hparent, hup s hs]⟩
      refine hinj us ?_ s hs t ht' hplace
      rw [hrange]
      exact List.nodup_range
  · refine (pairwise_numbered cost none k n ts).imp fun {s t} hst heq => ?_
    have := hcost s.label
    rw [heq] at hst this
    omega

end Forest

/-! ## Later numbers -/

/-- The spot if all numbers are greater by `c`. -/
def Spot.later (c : Nat) (s : Spot α) : Spot α :=
  { s with index := c + s.index, parent := s.parent.map (c + ·) }

/-- A forest that is numbered from a later number on. -/
theorem Forest.numbered_add (cost : α → Nat) (c : Nat) (p : Option Nat) (k n : Nat)
    (ts : Forest α) :
    numbered cost (p.map (c + ·)) k (c + n) ts =
      relabel (Spot.later c) (numbered cost p k n ts) := by
  induction ts using Forest.induction generalizing p k n with
  | nil => rfl
  | cons a ts rest ih ih' =>
    have hts := ih (some n) 0 (n + cost a)
    have hrest := ih' p (k + 1) (n + (cost a + weight cost ts))
    rw [← Nat.add_assoc] at hts hrest
    rw [numbered_cons, numbered_cons, relabel_cons, ← hts, ← hrest]
    rfl

/-- What is made of a forest from a later number on. -/
theorem Forest.map_labels_numbered_add {cost : α → Nat} {c n : Nat} {ts : Forest α}
    {make : Spot α → β} {make' : Spot α → γ} {f : β → γ}
    (h : ∀ s ∈ labels (numbered cost none 0 n ts), make' (s.later c) = f (make s)) :
    (labels (numbered cost none 0 (c + n) ts)).map make' =
      ((labels (numbered cost none 0 n ts)).map make).map f := by
  have hlater := numbered_add cost c none 0 n ts
  rw [Option.map_none] at hlater
  rw [hlater, labels_relabel, List.map_map, List.map_map]
  exact List.map_congr_left h

/-! ## Lists -/

/-- The members of a list, made one after the other with the next number `n`. -/
def consecutive (cost : α → Nat) (make : Nat → α → β) : (n : Nat) → List α → List β
  | _, [] => []
  | n, x :: xs => make n x :: consecutive cost make (n + cost x) xs

/-- Members in place of the old ones, from which the same is made at the same cost. -/
theorem consecutive_map {cost : α → Nat} {make : Nat → α → β} {f : α → α}
    (hcost : ∀ x, cost (f x) = cost x) (hmake : ∀ m x, make m (f x) = make m x) (n : Nat)
    (xs : List α) : consecutive cost make n (xs.map f) = consecutive cost make n xs := by
  induction xs generalizing n with
  | nil => rfl
  | cons x xs ih => rw [List.map_cons, consecutive, consecutive, hmake, hcost, ih]

theorem map_consecutive {cost : α → Nat} {make : Nat → α → β} {f : β → γ} {g : α → γ}
    {n : Nat} {xs : List α} (h : ∀ m, ∀ x ∈ xs, n ≤ m → m + cost x ≤ n + (xs.map cost).sum →
      f (make m x) = g x) :
    (consecutive cost make n xs).map f = xs.map g := by
  induction xs generalizing n with
  | nil => rfl
  | cons x xs ih =>
    rw [List.map_cons, List.sum_cons] at h
    rw [consecutive, List.map_cons, List.map_cons, h n x List.mem_cons_self (Nat.le_refl n)
      (by omega), ih fun m y hy hm hm' => h m y (List.mem_cons_of_mem x hy) (by omega) (by omega)]

theorem mem_consecutive {cost : α → Nat} {make : Nat → α → β} {n : Nat} {xs : List α} {y : β}
    (h : y ∈ consecutive cost make n xs) :
    ∃ m, ∃ x ∈ xs, n ≤ m ∧ m + cost x ≤ n + (xs.map cost).sum ∧ y = make m x := by
  induction xs generalizing n with
  | nil => cases h
  | cons x xs ih =>
    rw [consecutive] at h
    rw [List.map_cons, List.sum_cons]
    rcases List.mem_cons.1 h with rfl | h
    · exact ⟨n, x, List.mem_cons_self, Nat.le_refl n, by omega, rfl⟩
    · obtain ⟨m, y, hy, hm, hm', rfl⟩ := ih h
      exact ⟨m, y, List.mem_cons_of_mem x hy, by omega, by omega, rfl⟩

/-- What is made from the members of a list, side by side with them. -/
theorem forall₂_consecutive {R : α → β → Prop} {cost : α → Nat} {make : Nat → α → β}
    (h : ∀ m x, R x (make m x)) (n : Nat) (xs : List α) :
    List.Forall₂ R xs (consecutive cost make n xs) := by
  induction xs generalizing n with
  | nil => exact .nil
  | cons x xs ih => exact .cons (h n x) (ih (n + cost x))

/-- What is made of the members of a list from a later number on. -/
theorem consecutive_add {cost : α → Nat} {make : Nat → α → β} {make' : Nat → α → γ} {f : β → γ}
    {c n : Nat} {xs : List α}
    (h : ∀ m, ∀ x ∈ xs, n ≤ m → m + cost x ≤ n + (xs.map cost).sum →
      make' (c + m) x = f (make m x)) :
    consecutive cost make' (c + n) xs = (consecutive cost make n xs).map f := by
  induction xs generalizing n with
  | nil => rfl
  | cons x xs ih =>
    rw [List.map_cons, List.sum_cons] at h
    have hxs := ih (n := n + cost x) fun m y hy hm hm' =>
      h m y (List.mem_cons_of_mem x hy) (by omega) (by omega)
    rw [consecutive, consecutive, List.map_cons, Nat.add_assoc, hxs,
      h n x List.mem_cons_self (Nat.le_refl n) (by omega)]

end FrameTree

import FrameTree.Tree

/-!
# Forests, one tree at a time

A list of sibling trees is empty, or a first tree and the trees after it; the first tree is a label
and the trees below it. Proofs about forests go by this shape (`Forest.induction`).

**All** (`Forest.All`). A property of every label together with the trees right below it.

**Visits** (`Forest.visits`). The nodes in pre-order, each with the label of its parent and the
number of its children. This is all that a walk from parents to children gets to see.

Main results: `Forest.all_relabel`, `Forest.parent_of_mem_labels`, `Forest.forall_visits_iff`.
-/

namespace FrameTree

variable {α β : Type}

namespace Tree

/-- The tree with every label replaced. -/
def relabel (f : α → β) : Tree α → Tree β
  | .node a ts => .node (f a) (forest ts)
where
  forest : Forest α → Forest β
    | [] => []
    | t :: ts => relabel f t :: forest ts

/-- A property of every label together with the trees right below it. -/
def All (P : α → Forest α → Prop) : Tree α → Prop
  | .node a ts => P a ts ∧ forest ts
where
  forest : Forest α → Prop
    | [] => True
    | t :: ts => All P t ∧ forest ts

@[simp] theorem label_node (a : α) (ts : Forest α) : (node a ts).label = a := rfl
@[simp] theorem children_node (a : α) (ts : Forest α) : (node a ts).children = ts := rfl

end Tree

/-- A node as a walk comes to it. -/
structure Visit (α : Type) where
  parent : Option α
  label : α
  /-- The number of children. -/
  below : Nat

/-- The nodes in pre-order. -/
def Tree.visits : (parent : Option α) → Tree α → List (Visit α)
  | parent, .node a ts => ⟨parent, a, ts.length⟩ :: forest (some a) ts
where
  forest : (parent : Option α) → Forest α → List (Visit α)
    | _, [] => []
    | parent, t :: ts => visits parent t ++ forest parent ts

namespace Forest

abbrev relabel (f : α → β) (ts : Forest α) : Forest β := Tree.relabel.forest f ts

abbrev All (P : α → Forest α → Prop) (ts : Forest α) : Prop := Tree.All.forest P ts

abbrev visits (parent : Option α) (ts : Forest α) : List (Visit α) := Tree.visits.forest parent ts

/-- The labels at the top. -/
abbrev roots (ts : Forest α) : List α := List.map Tree.label ts

/-- Induction on the first tree: what holds of the trees below its label and of the trees after it
holds of the forest. -/
@[elab_as_elim]
theorem induction {motive : Forest α → Prop} (nil : motive [])
    (cons : ∀ a ts rest, motive ts → motive rest → motive (.node a ts :: rest)) :
    ∀ ts, motive ts
  | [] => nil
  | .node a ts :: rest => cons a ts rest (induction nil cons ts) (induction nil cons rest)

/-! ## By the first tree -/

section

variable (a : α) (ts rest : Forest α)

@[simp] theorem depth_nil : depth ([] : Forest α) = 0 := rfl

@[simp] theorem depth_cons :
    depth (.node a ts :: rest) = max (1 + depth ts) (depth rest) := rfl

@[simp] theorem labels_nil : labels ([] : Forest α) = [] := rfl

@[simp] theorem labels_cons : labels (.node a ts :: rest) = a :: (labels ts ++ labels rest) := rfl

@[simp] theorem roots_nil : roots ([] : Forest α) = [] := rfl

@[simp] theorem roots_cons : roots (.node a ts :: rest) = a :: roots rest := rfl

@[simp] theorem relabel_nil (f : α → β) : relabel f [] = [] := rfl

@[simp] theorem relabel_cons (f : α → β) :
    relabel f (.node a ts :: rest) = .node (f a) (relabel f ts) :: relabel f rest := rfl

@[simp] theorem all_nil (P : α → Forest α → Prop) : All P [] := trivial

@[simp] theorem all_cons (P : α → Forest α → Prop) :
    All P (.node a ts :: rest) ↔ (P a ts ∧ All P ts) ∧ All P rest := Iff.rfl

@[simp] theorem visits_nil (p : Option α) : visits p [] = [] := rfl

@[simp] theorem visits_cons (p : Option α) :
    visits p (.node a ts :: rest) = ⟨p, a, ts.length⟩ :: (visits (some a) ts ++ visits p rest) :=
  rfl

end

/-! ## Labels -/

@[simp] theorem length_relabel (f : α → β) (ts : Forest α) : (relabel f ts).length = ts.length := by
  induction ts with
  | nil => rfl
  | cons t ts ih => simp [Tree.relabel.forest, ih]

@[simp] theorem labels_relabel (f : α → β) (ts : Forest α) :
    labels (relabel f ts) = (labels ts).map f := by
  induction ts using Forest.induction with
  | nil => rfl
  | cons a ts rest ih ih' => simp [ih, ih']

theorem relabel_relabel {γ : Type} (f : α → β) (g : β → γ) (ts : Forest α) :
    relabel g (relabel f ts) = relabel (fun a => g (f a)) ts := by
  induction ts using Forest.induction with
  | nil => rfl
  | cons a ts rest ih ih' => simp only [relabel_cons, ih, ih']

theorem relabel_congr {f g : α → β} {ts : Forest α} (h : ∀ a ∈ labels ts, f a = g a) :
    relabel f ts = relabel g ts := by
  induction ts using Forest.induction with
  | nil => rfl
  | cons a ts rest ih ih' =>
    simp only [labels_cons, List.mem_cons, List.mem_append] at h
    rw [relabel_cons, relabel_cons, h a (.inl rfl), ih fun b hb => h b (.inr (.inl hb)),
      ih' fun b hb => h b (.inr (.inr hb))]

theorem relabel_id (ts : Forest α) : relabel id ts = ts := by
  induction ts using Forest.induction with
  | nil => rfl
  | cons a ts rest ih ih' => rw [relabel_cons, ih, ih', id]

@[simp] theorem depth_relabel (f : α → β) (ts : Forest α) : depth (relabel f ts) = depth ts := by
  induction ts using Forest.induction with
  | nil => rfl
  | cons a ts rest ih ih' => simp [ih, ih']

@[simp] theorem roots_relabel (f : α → β) (ts : Forest α) :
    roots (relabel f ts) = (roots ts).map f := by
  induction ts using Forest.induction with
  | nil => rfl
  | cons a ts rest ih ih' => simp [ih']

/-! ## What holds of all nodes -/

theorem All.imp {P Q : α → Forest α → Prop} {ts : Forest α} (hPQ : ∀ a ts, P a ts → Q a ts)
    (h : All P ts) : All Q ts := by
  induction ts using Forest.induction with
  | nil => trivial
  | cons a ts rest ih ih' => exact ⟨⟨hPQ a ts h.1.1, ih h.1.2⟩, ih' h.2⟩

theorem All.and {P Q : α → Forest α → Prop} {ts : Forest α} (hP : All P ts) (hQ : All Q ts) :
    All (fun a ts => P a ts ∧ Q a ts) ts := by
  induction ts using Forest.induction with
  | nil => trivial
  | cons a ts rest ih ih' =>
    exact ⟨⟨⟨hP.1.1, hQ.1.1⟩, ih hP.1.2 hQ.1.2⟩, ih' hP.2 hQ.2⟩

theorem all_of_labels {P : α → Prop} {ts : Forest α} (h : ∀ a ∈ labels ts, P a) :
    All (fun a _ => P a) ts := by
  induction ts using Forest.induction with
  | nil => trivial
  | cons a ts rest ih ih' =>
    simp only [labels_cons, List.mem_cons, List.mem_append] at h
    exact ⟨⟨h a (.inl rfl), ih fun b hb => h b (.inr (.inl hb))⟩,
      ih' fun b hb => h b (.inr (.inr hb))⟩

theorem all_relabel (f : α → β) (P : β → Forest β → Prop) (ts : Forest α) :
    All P (relabel f ts) ↔ All (fun a ts => P (f a) (relabel f ts)) ts := by
  induction ts using Forest.induction with
  | nil => exact Iff.rfl
  | cons a ts rest ih ih' => simp only [relabel_cons, all_cons, ih, ih']

theorem mem_labels_of_mem_roots {ts : Forest α} {a : α} (ha : a ∈ roots ts) : a ∈ labels ts := by
  induction ts using Forest.induction with
  | nil => cases ha
  | cons b ts rest _ ih =>
    rw [roots_cons, List.mem_cons] at ha
    rw [labels_cons, List.mem_cons, List.mem_append]
    rcases ha with rfl | ha
    · exact .inl rfl
    · exact .inr (.inr (ih ha))

/-- Every label is at the top, or right below another label. -/
theorem parent_of_mem_labels {P : α → Forest α → Prop} {ts : Forest α} (h : All P ts) {a : α}
    (ha : a ∈ labels ts) :
    a ∈ roots ts ∨ ∃ b us, P b us ∧ b ∈ labels ts ∧ a ∈ roots us := by
  induction ts using Forest.induction with
  | nil => cases ha
  | cons c ts rest ih ih' =>
    obtain ⟨⟨hc, hts⟩, hrest⟩ := h
    simp only [labels_cons, roots_cons, List.mem_cons, List.mem_append] at ha ⊢
    rcases ha with rfl | ha | ha
    · exact .inl (.inl rfl)
    · rcases ih hts ha with ha | ⟨b, us, hb, hb', ha⟩
      · exact .inr ⟨c, ts, hc, .inl rfl, ha⟩
      · exact .inr ⟨b, us, hb, .inr (.inl hb'), ha⟩
    · rcases ih' hrest ha with ha | ⟨b, us, hb, hb', ha⟩
      · exact .inl (.inr ha)
      · exact .inr ⟨b, us, hb, .inr (.inr hb'), ha⟩

/-- Every label is that of a node, and what is right below the node is in the forest too. -/
theorem children_of_mem_labels {P : α → Forest α → Prop} {ts : Forest α} (h : All P ts) {a : α}
    (ha : a ∈ labels ts) : ∃ us, P a us ∧ ∀ b ∈ roots us, b ∈ labels ts := by
  induction ts using Forest.induction with
  | nil => cases ha
  | cons c ts rest ih ih' =>
    obtain ⟨⟨hc, hts⟩, hrest⟩ := h
    simp only [labels_cons, List.mem_cons, List.mem_append] at ha ⊢
    rcases ha with rfl | ha | ha
    · exact ⟨ts, hc, fun b hb => .inr (.inl (mem_labels_of_mem_roots hb))⟩
    · obtain ⟨us, hus, hsub⟩ := ih hts ha
      exact ⟨us, hus, fun b hb => .inr (.inl (hsub b hb))⟩
    · obtain ⟨us, hus, hsub⟩ := ih' hrest ha
      exact ⟨us, hus, fun b hb => .inr (.inr (hsub b hb))⟩

/-- What holds of all visits holds at the top and of the children of every node. -/
theorem forall_visits_iff (P : Visit α → Prop) (p : Option α) (ts : Forest α) :
    (∀ v ∈ visits p ts, P v) ↔
      (∀ t ∈ ts, P ⟨p, t.label, t.children.length⟩) ∧
        All (fun a us => ∀ t ∈ us, P ⟨some a, t.label, t.children.length⟩) ts := by
  induction ts using Forest.induction generalizing p with
  | nil => simp
  | cons a ts rest ih ih' =>
    simp only [visits_cons, List.forall_mem_cons, List.forall_mem_append, ih, ih', all_cons,
      Tree.label_node, Tree.children_node]
    constructor
    · rintro ⟨ha, ⟨hts, hts'⟩, hrest, hrest'⟩
      exact ⟨⟨ha, hrest⟩, ⟨hts, hts'⟩, hrest'⟩
    · rintro ⟨⟨ha, hrest⟩, ⟨hts, hts'⟩, hrest'⟩
      exact ⟨ha, ⟨hts, hts'⟩, hrest, hrest'⟩

/-- Every node is visited, together with the number of the trees right below it. -/
theorem all_of_visits {P : Visit α → Prop} {p : Option α} {ts : Forest α}
    (h : ∀ v ∈ visits p ts, P v) : All (fun a us => ∃ q, P ⟨q, a, us.length⟩) ts := by
  induction ts using Forest.induction generalizing p with
  | nil => trivial
  | cons a ts rest ih ih' =>
    simp only [visits_cons, List.forall_mem_cons, List.forall_mem_append] at h
    obtain ⟨ha, hts, hrest⟩ := h
    exact ⟨⟨⟨p, ha⟩, ih hts⟩, ih' hrest⟩

/-- Every child is visited with its parent. -/
theorem all_of_visits_below {P : Visit α → Prop} {p : Option α} {ts : Forest α}
    (h : ∀ v ∈ visits p ts, P v) : All (fun a us => ∀ b ∈ roots us, ∃ k, P ⟨some a, b, k⟩) ts := by
  refine ((forall_visits_iff P p ts).1 h).2.imp fun a us hus b hb => ?_
  obtain ⟨t, ht, rfl⟩ := List.mem_map.1 hb
  exact ⟨t.children.length, hus t ht⟩

theorem labels_eq_visits (p : Option α) (ts : Forest α) :
    labels ts = (visits p ts).map Visit.label := by
  induction ts using Forest.induction generalizing p with
  | nil => rfl
  | cons a ts rest ih ih' =>
    simp only [labels_cons, visits_cons, List.map_cons, List.map_append, ← ih, ← ih']

theorem forall_labels_of_visits {P : Visit α → Prop} {p : Option α} {ts : Forest α}
    (h : ∀ v ∈ visits p ts, P v) {a : α} (ha : a ∈ labels ts) : ∃ q k, P ⟨q, a, k⟩ := by
  rw [labels_eq_visits p] at ha
  obtain ⟨v, hv, rfl⟩ := List.mem_map.1 ha
  exact ⟨v.parent, v.below, h v hv⟩

end Forest

end FrameTree

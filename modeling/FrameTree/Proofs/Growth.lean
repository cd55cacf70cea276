import FrameTree.Proofs.Forest
import Mathlib.Data.List.Chain

/-!
# Growing trees

`Tree.grow` asks for the children of each node and goes down a given number of levels. Which
children there are is up to the caller, so nothing but the number of levels makes it end.

**Failing** (`FailsIff`). A computation that fails with one error, just if something is the case.
Conditions of this kind compose, and they say in one what a computation fails with and when it
gives a result.

**Paths.** Growing fails just if a path that starts at the seed and goes from each node to one of
its children is longer than the levels there are, or ends in a node without a label
(`Tree.grow_failsIff`).

**Forests.** Where asking for children follows a forest, growing gives that forest back
(`Forest.mapM_grow`). The other way round, whatever was grown comes from a forest of seeds in which
asking for children leads from each seed to those below it (`Forest.of_mapM_grow`).
-/

namespace FrameTree

variable {α β γ ε : Type}

/-! ## Failing -/

/-- The computation fails with the error `e` just if `p`, and gives a result otherwise. -/
def FailsIff (e : ε) (p : Prop) (x : Except ε α) : Prop :=
  (x = .error e ∧ p) ∨ ((∃ a, x = .ok a) ∧ ¬p)

namespace FailsIff

variable {e : ε} {p q : Prop}

theorem ok (a : α) : FailsIff e False (.ok a : Except ε α) := .inr ⟨⟨a, rfl⟩, id⟩

theorem error : FailsIff e True (.error e : Except ε α) := .inl ⟨rfl, trivial⟩

theorem of_iff {x : Except ε α} (h : FailsIff e p x) (hpq : p ↔ q) : FailsIff e q x := by
  rwa [← hpq]

theorem bind {x : Except ε α} {f : α → Except ε β} (hx : FailsIff e p x)
    (hf : ∀ a, FailsIff e q (f a)) : FailsIff e (p ∨ q) (x >>= f) := by
  rcases hx with ⟨rfl, hp⟩ | ⟨⟨a, rfl⟩, hp⟩
  · exact .inl ⟨rfl, .inl hp⟩
  · rcases hf a with ⟨hfa, hq⟩ | ⟨hfa, hq⟩
    · exact .inl ⟨hfa, .inr hq⟩
    · exact .inr ⟨hfa, fun h => h.elim hp hq⟩

theorem map {x : Except ε α} (hx : FailsIff e p x) (f : α → β) :
    FailsIff e p (x >>= fun a => Pure.pure (f a)) :=
  (hx.bind fun a => .ok (f a)).of_iff (iff_of_eq (or_false p))

theorem mapM {f : α → Except ε β} {p : α → Prop} (hf : ∀ a, FailsIff e (p a) (f a))
    (xs : List α) : FailsIff e (∃ x ∈ xs, p x) (xs.mapM f) := by
  induction xs with
  | nil => exact (FailsIff.ok []).of_iff (by simp)
  | cons x xs ih =>
    rw [List.mapM_cons]
    exact ((hf x).bind fun b => ih.map (b :: ·)).of_iff (by simp)

theorem eq_error_iff {x : Except ε α} (hx : FailsIff e p x) (e' : ε) :
    x = .error e' ↔ e' = e ∧ p := by
  rcases hx with ⟨rfl, hp⟩ | ⟨⟨a, rfl⟩, hp⟩
  · simp [hp, eq_comm]
  · simp [hp]

theorem exists_ok_iff {x : Except ε α} (hx : FailsIff e p x) : (∃ a, x = .ok a) ↔ ¬p := by
  rcases hx with ⟨rfl, hp⟩ | ⟨hx, hp⟩
  · simp [hp]
  · simp [hx, hp]

end FailsIff

/-! ## Growing along paths -/

namespace Tree

variable {label : β → Except ε α} {e : ε} {bad : β → Prop}

/-- **Growing fails** just if a path from the seed has more nodes than there are levels, or ends in
a node whose label fails. -/
theorem grow_failsIff (children : β → List β) (hlabel : ∀ b, FailsIff e (bad b) (label b))
    (room : Nat) (b : β) :
    FailsIff e
      (∃ path, List.IsChain (fun a b => b ∈ children a) (b :: path) ∧
        (room ≤ path.length ∨ bad ((b :: path).getLast (List.cons_ne_nil b path))))
      (grow label children e room b) := by
  induction room generalizing b with
  | zero => exact FailsIff.error.of_iff (by simpa using ⟨[], .singleton b⟩)
  | succ room ih =>
    refine ((hlabel b).bind fun a => (FailsIff.mapM ih (children b)).map (Tree.node a)).of_iff ?_
    constructor
    · rintro (hb | ⟨c, hc, path, hpath, h⟩)
      · exact ⟨[], .singleton b, .inr hb⟩
      · refine ⟨c :: path, hpath.cons_cons hc, ?_⟩
        rwa [List.length_cons, Nat.add_le_add_iff_right, List.getLast_cons_cons]
    · rintro ⟨_ | ⟨c, path⟩, hpath, h⟩
      · exact .inl (h.resolve_left (by simp))
      · obtain ⟨hc, hpath⟩ := List.isChain_cons_cons.1 hpath
        rw [List.length_cons, Nat.add_le_add_iff_right, List.getLast_cons_cons] at h
        exact .inr ⟨c, hc, path, hpath, h⟩

end Tree

/-! ## Growing along forests -/

/-- Where every node of a forest gives its label and the seeds of its children, growing from the
seeds at the top gives the forest, if there are enough levels. -/
theorem Forest.mapM_grow {label : β → Except ε α} {children : β → List β} {e : ε} {seed : γ → β}
    {name : γ → α} {ts : Forest γ}
    (h : All (fun c us => label (seed c) = .ok (name c) ∧ children (seed c) = (roots us).map seed)
      ts) {room : Nat} (hroom : depth ts ≤ room) :
    ((roots ts).map seed).mapM (Tree.grow label children e room) = .ok (relabel name ts) := by
  induction ts using Forest.induction generalizing room with
  | nil => rfl
  | cons c us rest ih ih' =>
    obtain ⟨⟨⟨hlabel, hchildren⟩, hus⟩, hrest⟩ := h
    rw [depth_cons] at hroom
    obtain ⟨room, rfl⟩ : ∃ r, room = r + 1 := ⟨room - 1, by omega⟩
    have hgrow : Tree.grow label children e (room + 1) (seed c) =
        .ok (.node (name c) (relabel name us)) := by
      have hbelow : ((roots us).map seed).mapM (Tree.grow label children e room) =
          .ok (relabel name us) := ih hus (by omega)
      rw [Tree.grow, hlabel, hchildren]
      simp only [bind, Except.bind, hbelow]
      rfl
    rw [roots_cons, List.map_cons, List.mapM_cons, hgrow, ih' hrest (by omega)]
    rfl

/-! ## What growing depends on -/

theorem mapM_congr {f g : α → Except ε β} {xs : List α} (h : ∀ x ∈ xs, f x = g x) :
    xs.mapM f = xs.mapM g := by
  induction xs with
  | nil => rfl
  | cons x xs ih =>
    rw [List.mapM_cons, List.mapM_cons, h x List.mem_cons_self,
      ih fun y hy => h y (List.mem_cons_of_mem x hy)]

theorem mapM_eq_of_forall₂ {R : α → γ → Prop} {f : α → Except ε β} {g : γ → Except ε β}
    (hR : ∀ x y, R x y → f x = g y) {xs : List α} {ys : List γ} (h : List.Forall₂ R xs ys) :
    xs.mapM f = ys.mapM g := by
  induction h with
  | nil => rfl
  | cons hxy _ ih => rw [List.mapM_cons, List.mapM_cons, hR _ _ hxy, ih]

/-- Growing depends only on the labels and the children of what is reached from the seed. -/
theorem Tree.grow_congr {label label' : β → Except ε α} {children children' : β → List β} {e : ε}
    {P : β → Prop} (hlabel : ∀ b, P b → label b = label' b)
    (hchildren : ∀ b, P b → children b = children' b) (hP : ∀ b, P b → ∀ c ∈ children b, P c)
    (room : Nat) {b : β} (hb : P b) :
    grow label children e room b = grow label' children' e room b := by
  induction room generalizing b with
  | zero => rfl
  | succ room ih =>
    have hbelow : (children b).mapM (grow label children e room) =
        (children b).mapM (grow label' children' e room) :=
      mapM_congr fun c hc => ih (hP b hb c hc)
    rw [grow, grow, hlabel b hb, hbelow, hchildren b hb]

/-! ## Where results come from -/

theorem bind_eq_ok_iff {x : Except ε α} {f : α → Except ε β} {b : β} :
    x >>= f = .ok b ↔ ∃ a, x = .ok a ∧ f a = .ok b := by
  constructor
  · intro h
    cases x with
    | error e => cases h
    | ok a => exact ⟨a, rfl, h⟩
  · rintro ⟨a, rfl, h⟩
    exact h

theorem bind_pure_eq_ok_iff {x : Except ε α} {f : α → β} {b : β} :
    (x >>= fun a => pure (f a)) = .ok b ↔ ∃ a, x = .ok a ∧ b = f a := by
  rw [bind_eq_ok_iff]
  refine exists_congr fun a => and_congr_right fun _ => ⟨fun h => ?_, fun h => ?_⟩
  · exact (Except.ok.inj h).symm
  · rw [h]
    rfl

theorem mapM_cons_eq_ok_iff {f : α → Except ε β} {x : α} {xs : List α} {ys : List β} :
    (x :: xs).mapM f = .ok ys ↔ ∃ y zs, f x = .ok y ∧ xs.mapM f = .ok zs ∧ ys = y :: zs := by
  rw [List.mapM_cons, bind_eq_ok_iff]
  constructor
  · rintro ⟨y, hy, h⟩
    obtain ⟨zs, hzs, h⟩ := bind_eq_ok_iff.1 h
    cases h
    exact ⟨y, zs, hy, hzs, rfl⟩
  · rintro ⟨y, zs, hy, hzs, rfl⟩
    exact ⟨y, hy, bind_eq_ok_iff.2 ⟨zs, hzs, rfl⟩⟩

/-- Each result of a list comes from the member at its place. -/
theorem forall₂_of_mapM {f : α → Except ε β} {xs : List α} {ys : List β}
    (h : xs.mapM f = .ok ys) : List.Forall₂ (fun x y => x ∈ xs ∧ f x = .ok y) xs ys := by
  induction xs generalizing ys with
  | nil =>
    cases h
    exact .nil
  | cons x xs ih =>
    obtain ⟨y, zs, hy, hzs, rfl⟩ := mapM_cons_eq_ok_iff.1 h
    refine .cons ⟨List.mem_cons_self, hy⟩ ((ih hzs).imp fun x' y' h => ?_)
    exact ⟨List.mem_cons_of_mem x h.1, h.2⟩

theorem forall_mem_of_mapM {f : α → Except ε β} {Q : β → Prop} {xs : List α} {ys : List β}
    (h : xs.mapM f = .ok ys) (hf : ∀ x y, f x = .ok y → Q y) : ∀ y ∈ ys, Q y := by
  induction xs generalizing ys with
  | nil =>
    cases h
    simp
  | cons x xs ih =>
    obtain ⟨y, zs, hy, hzs, rfl⟩ := mapM_cons_eq_ok_iff.1 h
    exact List.forall_mem_cons.2 ⟨hf x y hy, ih hzs⟩

theorem Tree.grow_succ_eq_ok_iff {label : β → Except ε α} {children : β → List β} {e : ε}
    {room : Nat} {b : β} {t : Tree α} :
    grow label children e (room + 1) b = .ok t ↔
      ∃ a ts, label b = .ok a ∧ (children b).mapM (grow label children e room) = .ok ts ∧
        t = .node a ts := by
  rw [grow, bind_eq_ok_iff]
  simp only [bind_pure_eq_ok_iff, ← exists_and_left]

/-- What was grown comes from a forest of seeds, each of which gives its label and the seeds right
below it. -/
theorem Forest.of_mapM_grow {label : β → Except ε α} {children : β → List β} {e : ε} {name : β → α}
    (hname : ∀ b a, label b = .ok a → name b = a) {room : Nat} {bs : List β} {ts : Forest α}
    (h : bs.mapM (Tree.grow label children e room) = .ok ts) :
    ∃ us : Forest β, ts = relabel name us ∧ roots us = bs ∧
      All (fun b vs => label b = .ok (name b) ∧ roots vs = children b) us := by
  induction room generalizing bs ts with
  | zero =>
    cases bs with
    | nil =>
      cases h
      exact ⟨[], rfl, rfl, trivial⟩
    | cons b bs =>
      obtain ⟨t, ts, ht, -⟩ := mapM_cons_eq_ok_iff.1 h
      cases ht
  | succ room ih =>
    induction bs generalizing ts with
    | nil =>
      cases h
      exact ⟨[], rfl, rfl, trivial⟩
    | cons b bs ihbs =>
      obtain ⟨t, ts, ht, hts, rfl⟩ := mapM_cons_eq_ok_iff.1 h
      obtain ⟨a, vs, ha, hvs, rfl⟩ := Tree.grow_succ_eq_ok_iff.1 ht
      obtain ⟨below, rfl, hbelow, hall⟩ := ih hvs
      obtain ⟨rest, rfl, hrest, hallrest⟩ := ihbs hts
      have hab : name b = a := hname b a ha
      refine ⟨.node b below :: rest, ?_, ?_, ⟨⟨?_, hbelow⟩, hall⟩, hallrest⟩
      · rw [relabel_cons, hab]
      · rw [roots_cons, hrest]
      · rw [ha, hab]

end FrameTree

import FrameTree.Proofs.Links
import FrameTree.Proofs.Walk

/-!
# Fresh ids

A run of an issuer is fresh if its ids are distinct and not empty (`Issuer.Fresh`). Then the ids
that stand for links tell as much as the numbers do: in the list of what was made from the spots of
a forest, the entities that point at nothing are those at the top (`filter_roots`), those that point
at an id are the children of its entity (`filter_children`), and there is one entity with each id
(`filter_id`) and for each link that is not empty (`filter_parent`).

**Sequential ids** are fresh in every run (`Issuer.fresh_sequential`).
-/

namespace FrameTree

variable {α β : Type}

/-- The ids issued after at least `lo` and fewer than `hi` others are distinct, and none is empty,
which is what marks an absent parent. -/
structure Issuer.Fresh (I : Issuer String) (lo hi : Nat) : Prop where
  absent : I.absent = ""
  ne_empty : ∀ i, lo ≤ i → i < hi → I.id i ≠ ""
  injective : ∀ i j, lo ≤ i → i < hi → lo ≤ j → j < hi → I.id i = I.id j → i = j

namespace Issuer.Fresh

variable {I : Issuer String} {lo hi : Nat}

theorem mono (h : I.Fresh lo hi) {lo' hi' : Nat} (hlo : lo ≤ lo') (hhi : hi' ≤ hi) :
    I.Fresh lo' hi' where
  absent := h.absent
  ne_empty i hi hi' := h.ne_empty i (by omega) (by omega)
  injective i j hi hi' hj hj' := h.injective i j (by omega) (by omega) (by omega) (by omega)

/-- The ids of an action leave fresh ones for its triggers. -/
theorem triggers {n : Nat} {a : Document.Action} (h : I.Fresh n (n + a.idCount)) :
    I.Fresh (n + 1) (n + 1 + Forest.weight Document.Trigger.idCount a.triggers) :=
  h.mono (by omega) (by rw [Document.Action.idCount]; omega)

/-- The ids of a document leave fresh ones for its blocks. -/
theorem blocks {n : Nat} {d : Document} (h : I.Fresh n (n + d.idCount)) :
    I.Fresh (n + 1 + d.vars.length)
      (n + 1 + d.vars.length + Forest.weight Document.Block.idCount d.blocks) :=
  h.mono (by omega) (by rw [Document.idCount]; omega)

/-! ## Links -/

theorem link_eq_empty_iff (h : I.Fresh lo hi) {p : Option Nat}
    (hp : ∀ i, p = some i → lo ≤ i ∧ i < hi) : I.link p = "" ↔ p = none := by
  cases p with
  | none => exact iff_of_true h.absent rfl
  | some i =>
    obtain ⟨hlo, hhi⟩ := hp i rfl
    exact iff_of_false (h.ne_empty i hlo hhi) (Option.some_ne_none i)

theorem link_eq_id_iff (h : I.Fresh lo hi) {p : Option Nat}
    (hp : ∀ i, p = some i → lo ≤ i ∧ i < hi) {j : Nat} (hj : lo ≤ j) (hj' : j < hi) :
    I.link p = I.id j ↔ p = some j := by
  cases p with
  | none =>
    refine iff_of_false (fun hlink => h.ne_empty j hj hj' ?_) (Option.some_ne_none j).symm
    exact hlink.symm.trans h.absent
  | some i =>
    obtain ⟨hlo, hhi⟩ := hp i rfl
    constructor
    · intro hlink
      rw [h.injective i j hlo hhi hj hj' hlink]
    · rintro ⟨⟩
      rfl

/-- Links with equal texts are equal. -/
theorem link_injective (h : I.Fresh lo hi) {p q : Option Nat}
    (hp : ∀ i, p = some i → lo ≤ i ∧ i < hi) (hq : ∀ i, q = some i → lo ≤ i ∧ i < hi)
    (hlink : I.link p = I.link q) : p = q := by
  cases q with
  | none => exact (h.link_eq_empty_iff hp).1 (hlink.trans h.absent)
  | some j =>
    obtain ⟨hlo, hhi⟩ := hq j rfl
    exact (h.link_eq_id_iff hp hlo hhi).1 hlink

/-! ## What is made from spots -/

section

variable {cost : α → Nat} {k n : Nat} {ts : Forest α} (make : Spot α → β) (id link : β → String)

variable (h : I.Fresh n (n + Forest.weight cost ts)) (hcost : ∀ a, 0 < cost a)
  (hid : ∀ s, id (make s) = I.id s.index) (hlink : ∀ s, link (make s) = I.link s.parent)

include h hcost hlink

/-- What points at nothing was made from a root. -/
theorem filter_roots :
    (((Forest.labels (Forest.numbered cost none k n ts)).map make).filter fun b => link b == "") =
      (Forest.roots (Forest.numbered cost none k n ts)).map make := by
  have hscan : ∀ s ∈ Forest.labels (Forest.numbered cost none k n ts),
      (link (make s) == "") = decide (s.parent = none) := by
    intro s hs
    rw [hlink, Bool.eq_iff_iff, beq_iff_eq, decide_eq_true_iff]
    exact h.link_eq_empty_iff fun i hi => Forest.parent_bounds hcost hs hi
  rw [List.filter_map, ← Forest.roots_numbered cost none k n hcost (fun _ hi => nomatch hi) ts]
  exact congrArg _ (List.filter_congr hscan)

include hid

/-- What points at an id was made from a child. -/
theorem filter_children :
    Forest.All (fun s us =>
        (((Forest.labels (Forest.numbered cost none k n ts)).map make).filter
          fun b => link b == id (make s)) = (Forest.roots us).map make)
      (Forest.numbered cost none k n ts) := by
  have hbounds : Forest.All (fun s _ => n ≤ s.index ∧ s.index < n + Forest.weight cost ts)
      (Forest.numbered cost none k n ts) :=
    Forest.all_of_labels fun s hs => Forest.index_bounds hcost hs
  have hchildren := Forest.children_numbered cost none k n hcost (fun _ hi => nomatch hi) ts
  refine Forest.All.imp (fun s us hs => ?_) (hbounds.and hchildren)
  obtain ⟨⟨hlo, hhi⟩, hus⟩ := hs
  have hscan : ∀ t ∈ Forest.labels (Forest.numbered cost none k n ts),
      (link (make t) == id (make s)) = decide (t.parent = some s.index) := by
    intro t ht
    rw [hlink, hid, Bool.eq_iff_iff, beq_iff_eq, decide_eq_true_iff]
    exact h.link_eq_id_iff (fun i hi => Forest.parent_bounds hcost ht hi) hlo hhi
  rw [List.filter_map, ← hus]
  exact congrArg _ (List.filter_congr hscan)

omit hlink

/-- One entity has the id of a spot. -/
theorem filter_id {s : Spot α} (hs : s ∈ Forest.labels (Forest.numbered cost none k n ts)) :
    (((Forest.labels (Forest.numbered cost none k n ts)).map make).filter
      fun b => id b == id (make s)) = [make s] := by
  refine filter_key ?_ (List.mem_map_of_mem hs)
  rw [List.map_map, List.Nodup, List.pairwise_map]
  refine (Forest.pairwise_numbered cost none k n ts).imp_of_mem fun {s t} hs ht hst heq => ?_
  have hs' := Forest.index_bounds hcost hs
  have ht' := Forest.index_bounds hcost ht
  have hindex := h.injective s.index t.index hs'.1 hs'.2 ht'.1 ht'.2 (by
    rw [← hid, ← hid]
    exact heq)
  have := hcost s.label
  omega

include hlink

/-- What points at an id was made from a child of the one spot whose entity has it. -/
theorem filter_parent {Q : Spot α → Forest (Spot α) → Prop}
    (hQ : Forest.All Q (Forest.numbered cost none k n ts)) {s : Spot α}
    (hs : s ∈ Forest.labels (Forest.numbered cost none k n ts)) (hne : link (make s) ≠ "") :
    ∃ p us, Q p us ∧ s ∈ Forest.roots us ∧
      (((Forest.labels (Forest.numbered cost none k n ts)).map make).filter
        fun b => id b == link (make s)) = [make p] := by
  have hparents := hQ.and (Forest.all_parent_numbered cost none k n ts)
  rcases Forest.parent_of_mem_labels hparents hs with hs | ⟨p, us, ⟨hp, hus⟩, hmem, hs⟩
  · refine absurd ?_ hne
    rw [hlink, Forest.parent_roots_numbered cost none k n ts s hs]
    exact h.absent
  · refine ⟨p, us, hp, hs, ?_⟩
    have hid' : link (make s) = id (make p) := by
      rw [hlink, hus s hs, hid]
      rfl
    rw [hid']
    exact h.filter_id make id hcost hid hmem

end

end Issuer.Fresh

/-! ## Sequential ids -/

theorem Json.decimal_eq_toDigits (n : Nat) : Json.decimal n = Nat.toDigits 10 n := by
  have hdigit : ∀ d, d < 10 → Json.digitChar d = Nat.digitChar d := by decide
  fun_induction Json.decimal n with
  | case1 n hn => rw [Nat.toDigits_of_lt_base hn, hdigit n hn]
  | case2 n hn ih =>
    rw [Nat.toDigits_of_base_le (by decide) (Nat.le_of_not_lt hn), ih,
      hdigit _ (Nat.mod_lt n (by decide))]

theorem Json.decimal_injective {m n : Nat} (h : Json.decimal m = Json.decimal n) : m = n := by
  rw [Json.decimal_eq_toDigits, Json.decimal_eq_toDigits] at h
  have hread := congrArg (Nat.ofDigitChars 10 · 0) h
  simpa using hread

namespace Issuer

theorem toList_sequential (stem : String) (n : Nat) :
    ((sequential stem).id n).toList = stem.toList ++ '-' :: Json.decimal (n + 1) := by
  simp [sequential]

theorem fresh_sequential (stem : String) (lo hi : Nat) : (sequential stem).Fresh lo hi where
  absent := rfl
  ne_empty i _ _ hempty := by
    have hlist := congrArg String.toList hempty
    rw [toList_sequential] at hlist
    simp at hlist
  injective i j _ _ _ _ hij := by
    have hlist := congrArg String.toList hij
    rw [toList_sequential, toList_sequential] at hlist
    have hdigits := (List.cons.inj (List.append_cancel_left hlist)).2
    exact Nat.succ.inj (Json.decimal_injective hdigits)

end Issuer

end FrameTree

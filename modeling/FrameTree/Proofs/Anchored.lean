import FrameTree.Proofs.Overlong
import Mathlib.Data.Fintype.Card
import Mathlib.Data.Set.Finite.List

/-!
# Anchored entities

An entity is anchored if a chain leads to it: going up from parent to parent ends at an entity that
points at nothing. What is not anchored hangs on a link that leads nowhere, or on a circle.

**Chains** (`RootChain.unique`). Where ids are distinct and not empty, there is at most one chain to
an entity: an entity that points at nothing has nothing above it, and any other one has only one
parent.

**Circles** (`Cycle`). A circle with an anchored member can be gone round for ever, so it makes
chains of any length (`Cycle.overlong`). Where ids are distinct and not empty no member of a circle
is anchored (`Cycle.not_anchored`). Without circles, and with every link that is not empty leading
to an entity, everything is anchored (`Grounded.anchored`).
-/

namespace FrameTree

variable {β : Type} {id link : β → String} {entities : List β}

/-- No two entities have the same id, and no id is empty. -/
structure Identified (id : β → String) (entities : List β) : Prop where
  nodup : (entities.map id).Nodup
  ne_empty : ∀ b ∈ entities, id b ≠ ""

/-- A chain leads to the entity. -/
def Anchored (id link : β → String) (entities : List β) (b : β) : Prop :=
  ∃ chain, RootChain id link entities chain ∧ chain.getLast? = some b

noncomputable instance : DecidablePred (Anchored id link entities) := Classical.decPred _

/-- Entities that point at each other in a circle: each next one points at the one before it, and
the first one at the last one. -/
structure Cycle (id link : β → String) (entities cycle : List β) : Prop where
  subset : ∀ b ∈ cycle, b ∈ entities
  nonempty : cycle ≠ []
  linked : cycle.IsChain fun a b => link b = id a
  closed : ∀ a ∈ cycle.getLast?, ∀ b ∈ cycle.head?, link b = id a

/-- Every link that is not empty leads to an entity, and no links form a circle. -/
structure Grounded (id link : β → String) (entities : List β) : Prop where
  resolved : ∀ b ∈ entities, link b ≠ "" → ∃ a ∈ entities, link b = id a
  acyclic : ∀ cycle, ¬Cycle id link entities cycle

namespace Identified

instance : Decidable (Identified id entities) :=
  decidable_of_iff ((entities.map id).Nodup ∧ ∀ b ∈ entities, id b ≠ "")
    ⟨fun h => ⟨h.1, h.2⟩, fun h => ⟨h.nodup, h.ne_empty⟩⟩

theorem eq_of_id_eq (h : Identified id entities) {a b : β} (ha : a ∈ entities) (hb : b ∈ entities)
    (hab : id a = id b) : a = b :=
  List.inj_on_of_nodup_map h.nodup ha hb hab

theorem nodup_entities (h : Identified id entities) : entities.Nodup := .of_map id h.nodup

end Identified

/-! ## Chains -/

namespace RootChain

/-- A chain with one more entity: it points at the end of the chain, or at nothing if there is no
chain yet. -/
theorem append_singleton_iff {chain : List β} {b : β} :
    RootChain id link entities (chain ++ [b]) ↔
      b ∈ entities ∧ ((chain = [] ∧ link b = "") ∨
        ∃ a, chain.getLast? = some a ∧ RootChain id link entities chain ∧ link b = id a) := by
  constructor
  · intro h
    have hlinked := List.isChain_append.1 h.linked
    refine ⟨h.subset b (by simp), ?_⟩
    cases hlast : chain.getLast? with
    | none =>
      rw [List.getLast?_eq_none_iff] at hlast
      subst hlast
      exact .inl ⟨rfl, h.root b rfl⟩
    | some a =>
      have hhead : (chain ++ [b]).head? = chain.head? := by
        cases chain with
        | nil => cases hlast
        | cons c chain => rfl
      refine .inr ⟨a, rfl, ⟨fun c hc => h.subset c (List.mem_append_left _ hc), ?_, hlinked.1⟩, ?_⟩
      · intro c hc
        exact h.root c (hhead ▸ hc)
      · exact hlinked.2.2 a hlast b rfl
  · rintro ⟨hb, ⟨rfl, hroot⟩ | ⟨a, hlast, h, hlink⟩⟩
    · refine ⟨by simpa using hb, fun c hc => ?_, .singleton b⟩
      cases hc
      exact hroot
    · refine ⟨?_, fun c hc => ?_, ?_⟩
      · intro c hc
        rcases List.mem_append.1 hc with hc | hc
        · exact h.subset c hc
        · rw [List.mem_singleton.1 hc]
          exact hb
      · refine h.root c ?_
        cases chain with
        | nil => cases hlast
        | cons d chain => exact hc
      · refine List.isChain_append.2 ⟨h.linked, .singleton b, fun c hc d hd => ?_⟩
        cases hc.symm.trans hlast
        cases hd
        exact hlink

/-- **One chain to an entity.** Where ids are distinct and not empty, the end of a chain determines
it. -/
theorem unique (hid : Identified id entities) {chain chain' : List β}
    (h : RootChain id link entities chain) (h' : RootChain id link entities chain')
    (hlast : chain.getLast? = chain'.getLast?) : chain = chain' := by
  induction chain using List.reverseRecOn generalizing chain' with
  | nil => exact (List.getLast?_eq_none_iff.1 hlast.symm).symm
  | append_singleton chain b ih =>
    rw [List.getLast?_concat] at hlast
    obtain ⟨init, rfl⟩ := List.getLast?_eq_some_iff.1 hlast.symm
    obtain ⟨-, ⟨rfl, hb⟩ | ⟨a, ha, hchain, hb⟩⟩ := append_singleton_iff.1 h
    · obtain ⟨-, ⟨rfl, -⟩ | ⟨a, ha, hinit, hb'⟩⟩ := append_singleton_iff.1 h'
      · rfl
      · have hmem := hinit.subset a (List.mem_of_getLast? ha)
        exact absurd (hb'.symm.trans hb) (hid.ne_empty a hmem)
    · have hmem := hchain.subset a (List.mem_of_getLast? ha)
      obtain ⟨-, ⟨rfl, hb'⟩ | ⟨a', ha', hinit, hb'⟩⟩ := append_singleton_iff.1 h'
      · exact absurd (hb.symm.trans hb') (hid.ne_empty a hmem)
      · have hmem' := hinit.subset a' (List.mem_of_getLast? ha')
        have haa' : a = a' := hid.eq_of_id_eq hmem hmem' (hb.symm.trans hb')
        rw [ih hchain hinit (by rw [ha, ha', haa'])]

end RootChain

namespace Anchored

theorem mem {b : β} (h : Anchored id link entities b) : b ∈ entities := by
  obtain ⟨chain, hchain, hlast⟩ := h
  exact hchain.subset b (List.mem_of_getLast? hlast)

theorem of_root {b : β} (hb : b ∈ entities) (hroot : link b = "") :
    Anchored id link entities b :=
  ⟨[b], RootChain.append_singleton_iff.2 ⟨hb, .inl ⟨rfl, hroot⟩⟩, rfl⟩

/-- What points at an anchored entity is anchored. -/
theorem child {a b : β} (h : Anchored id link entities a) (hb : b ∈ entities)
    (hlink : link b = id a) : Anchored id link entities b := by
  obtain ⟨chain, hchain, hlast⟩ := h
  exact ⟨chain ++ [b], RootChain.append_singleton_iff.2 ⟨hb, .inr ⟨a, hlast, hchain, hlink⟩⟩,
    List.getLast?_concat⟩

/-- Every anchored entity is reached from those that point at nothing by going from an anchored
entity to one that points at it. -/
theorem induction {P : β → Prop} (root : ∀ b ∈ entities, link b = "" → P b)
    (child : ∀ a b, Anchored id link entities a → b ∈ entities → link b = id a → P a → P b) {b : β}
    (h : Anchored id link entities b) : P b := by
  obtain ⟨chain, hchain, hlast⟩ := h
  induction chain using List.reverseRecOn generalizing b with
  | nil => cases hlast
  | append_singleton chain c ih =>
    obtain rfl : c = b := by simpa using hlast
    obtain ⟨hc, ⟨-, hroot⟩ | ⟨a, ha, hchain, hlink⟩⟩ := RootChain.append_singleton_iff.1 hchain
    · exact root c hc hroot
    · exact child a c ⟨chain, hchain, ha⟩ hc hlink (ih hchain ha)

theorem root_or_child {b : β} (h : Anchored id link entities b) :
    link b = "" ∨ ∃ a, Anchored id link entities a ∧ link b = id a := by
  refine h.induction (P := fun b => link b = "" ∨ ∃ a, Anchored id link entities a ∧ link b = id a)
    ?_ ?_
  · exact fun c _ hroot => .inl hroot
  · exact fun a c ha _ hlink _ => .inr ⟨a, ha, hlink⟩

end Anchored

/-! ## Circles -/

namespace Cycle

variable {cycle : List β}

instance [DecidableEq β] : Decidable (Cycle id link entities cycle) :=
  decidable_of_iff ((∀ b ∈ cycle, b ∈ entities) ∧ cycle ≠ [] ∧
      (cycle.IsChain fun a b => link b = id a) ∧
      ∀ a ∈ cycle.getLast?, ∀ b ∈ cycle.head?, link b = id a)
    ⟨fun h => ⟨h.1, h.2.1, h.2.2.1, h.2.2.2⟩, fun h => ⟨h.subset, h.nonempty, h.linked, h.closed⟩⟩

/-- Every member of a circle has another one that points at it. -/
theorem exists_next (h : Cycle id link entities cycle) {a : β} (ha : a ∈ cycle) :
    ∃ b ∈ cycle, link b = id a := by
  obtain ⟨before, after, rfl⟩ := List.append_of_mem ha
  cases after with
  | nil =>
    -- The last member is followed by the first one.
    obtain ⟨b, hb⟩ : ∃ b, (before ++ [a]).head? = some b := by
      cases before with
      | nil => exact ⟨a, rfl⟩
      | cons b before => exact ⟨b, rfl⟩
    exact ⟨b, List.mem_of_head? hb, h.closed a List.getLast?_concat b hb⟩
  | cons b after =>
    have hlinked := (List.isChain_append.1 h.linked).2.1
    exact ⟨b, by simp, (List.isChain_cons_cons.1 hlinked).1⟩

/-- Every member of a circle points at another one. -/
theorem exists_previous (h : Cycle id link entities cycle) {b : β} (hb : b ∈ cycle) :
    ∃ a ∈ cycle, link b = id a := by
  obtain ⟨before, after, rfl⟩ := List.append_of_mem hb
  cases hlast : before.getLast? with
  | none =>
    -- The first member points at the last one.
    rw [List.getLast?_eq_none_iff] at hlast
    subst hlast
    have hend := List.getLast?_eq_some_getLast (List.cons_ne_nil b after)
    exact ⟨_, List.mem_of_getLast? hend, h.closed _ hend b rfl⟩
  | some a =>
    have hlinked := (List.isChain_append.1 h.linked).2.2
    exact ⟨a, List.mem_append_left _ (List.mem_of_getLast? hlast), hlinked a hlast b rfl⟩

/-- Where ids are distinct and not empty, a circle hangs on nothing: each member has its parent in
the circle and no other one. -/
theorem not_anchored (h : Cycle id link entities cycle) (hid : Identified id entities) {b : β}
    (hb : b ∈ cycle) : ¬Anchored id link entities b := by
  intro hanchored
  refine hanchored.induction (P := fun b => b ∉ cycle) (fun c _ hroot hc => ?_) ?_ hb
  · obtain ⟨a, ha, hlink⟩ := h.exists_previous hc
    exact hid.ne_empty a (h.subset a ha) (hlink.symm.trans hroot)
  · intro a c hanchored _ hlink hout hc
    obtain ⟨a', ha', hlink'⟩ := h.exists_previous hc
    have hsame : a = a' :=
      hid.eq_of_id_eq hanchored.mem (h.subset a' ha') (hlink.symm.trans hlink')
    exact hout (hsame ▸ ha')

/-- Going round a circle makes the chains to its members longer and longer. -/
theorem exists_chain (h : Cycle id link entities cycle)
    (hanchored : ∃ b ∈ cycle, Anchored id link entities b) (n : Nat) :
    ∃ chain, RootChain id link entities chain ∧ n ≤ chain.length ∧
      ∃ b ∈ cycle, chain.getLast? = some b := by
  induction n with
  | zero =>
    obtain ⟨b, hb, chain, hchain, hlast⟩ := hanchored
    exact ⟨chain, hchain, Nat.zero_le _, b, hb, hlast⟩
  | succ n ih =>
    obtain ⟨chain, hchain, hlength, a, ha, hlast⟩ := ih
    obtain ⟨b, hb, hlink⟩ := h.exists_next ha
    have hnext : RootChain id link entities (chain ++ [b]) :=
      RootChain.append_singleton_iff.2 ⟨h.subset b hb, .inr ⟨a, hlast, hchain, hlink⟩⟩
    refine ⟨chain ++ [b], hnext, ?_, b, hb, List.getLast?_concat⟩
    rw [List.length_append, List.length_singleton]
    omega

/-- **An anchored circle is overlong**, whatever the limit. -/
theorem overlong (h : Cycle id link entities cycle)
    (hanchored : ∃ b ∈ cycle, Anchored id link entities b) (limit : Nat) :
    Overlong id link entities limit := by
  obtain ⟨chain, hchain, hlength, -⟩ := h.exists_chain hanchored (limit + 1)
  exact ⟨chain.take (limit + 1), hchain.take _, by rw [List.length_take]; omega⟩

end Cycle

/-! ## Without circles -/

namespace Grounded

/-- A path from parent to parent that comes back to where it started is a circle. -/
theorem not_transGen (h : Grounded id link entities) (a : {b // b ∈ entities}) :
    ¬Relation.TransGen (fun a b : {b // b ∈ entities} => link b.1 = id a.1) a a := by
  intro hloop
  obtain ⟨b, hab, hba⟩ := Relation.TransGen.head'_iff.1 hloop
  obtain ⟨path, hpath, hlast⟩ := List.exists_isChain_cons_of_relationReflTransGen hba
  refine h.acyclic ((b :: path).map Subtype.val) ⟨?_, by simp, ?_, ?_⟩
  · intro c hc
    obtain ⟨c, -, rfl⟩ := List.mem_map.1 hc
    exact c.2
  · exact (List.isChain_map Subtype.val).2 hpath
  · intro c hc d hd
    rw [List.getLast?_map, List.getLast?_eq_some_getLast (List.cons_ne_nil b path), hlast] at hc
    cases hc
    cases hd
    exact hab

/-- Without circles, going up from parent to parent comes to an end. -/
theorem anchored (h : Grounded id link entities) {b : β} (hb : b ∈ entities) :
    Anchored id link entities b := by
  have : Finite {b // b ∈ entities} := (List.finite_toSet entities).to_subtype
  let above := Relation.TransGen fun a b : {b // b ∈ entities} => link b.1 = id a.1
  have hirrefl : Std.Irrefl above := ⟨h.not_transGen⟩
  have hwf : WellFounded above := Finite.wellFounded_of_trans_of_irrefl above
  suffices ∀ c : {b // b ∈ entities}, Anchored id link entities c.1 from this ⟨b, hb⟩
  intro c
  induction c using hwf.induction with
  | _ c ih =>
    by_cases hroot : link c.1 = ""
    · exact .of_root c.2 hroot
    · obtain ⟨a, ha, hlink⟩ := h.resolved c.1 c.2 hroot
      exact (ih ⟨a, ha⟩ (.single hlink)).child c.2 hlink

/-- Where ids are distinct and not empty, everything is anchored just if all links lead up. -/
theorem iff_anchored (hid : Identified id entities) :
    Grounded id link entities ↔ ∀ b ∈ entities, Anchored id link entities b := by
  refine ⟨fun h b hb => h.anchored hb, fun h => ⟨fun b hb hlink => ?_, fun cycle hcycle => ?_⟩⟩
  · obtain ⟨a, ha, hab⟩ := (h b hb).root_or_child.resolve_left hlink
    exact ⟨a, ha.mem, hab⟩
  · obtain ⟨b, hb⟩ := List.exists_mem_of_ne_nil cycle hcycle.nonempty
    exact hcycle.not_anchored hid hb (h b (hcycle.subset b hb))

end Grounded

end FrameTree

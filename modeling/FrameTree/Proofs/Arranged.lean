import FrameTree.Proofs.Anchored

/-!
# Arranging entities by their links

A list of entities with distinct ids can be laid out as a forest: at the top those that point at
nothing, below each entity those that point at it. The anchored entities are in it, each of them
once, and no other ones (`Arranged`).

**Why once.** Below the end of a chain, every label of the forest is at the end of a longer chain
(`Arranged.exists_chain`). So two places with the same entity would be two ends of the same chain,
and the trees that the chain runs through could not be told apart at the place where they part.

Main results: `Arranged.of_lookup` and, where every link leads up to the top,
`Arranged.perm_of_grounded`.
-/

namespace FrameTree

variable {β : Type} {id link : β → String} {entities : List β}

/-- The anchored entities as a forest, each of them once and below the one it points at. -/
structure Arranged (id link : β → String) (entities : List β) (ts : Forest β) : Prop where
  perm : (Forest.labels ts).Perm (entities.filter (Anchored id link entities))
  root : ∀ b ∈ Forest.roots ts, link b = ""
  linked : Forest.All (fun a us => ∀ b ∈ Forest.roots us, link b = id a) ts

namespace Arranged

/-- Where the trees go on from a chain, a chain leads to every label, and it goes on through one of
the trees. -/
theorem exists_chain {ts : Forest β}
    (hlinked : Forest.All (fun a us => ∀ b ∈ Forest.roots us, b ∈ entities ∧ link b = id a) ts)
    {path : List β} (hroots : ∀ b ∈ Forest.roots ts, RootChain id link entities (path ++ [b]))
    {x : β} (hx : x ∈ Forest.labels ts) :
    ∃ b ∈ Forest.roots ts, ∃ rest,
      RootChain id link entities (path ++ b :: rest) ∧ (b :: rest).getLast? = some x := by
  induction ts using Forest.induction generalizing path with
  | nil => cases hx
  | cons a us others ih ih' =>
    obtain ⟨⟨ha, hus⟩, hothers⟩ := hlinked
    have hpath := hroots a List.mem_cons_self
    simp only [Forest.labels_cons, List.mem_cons, List.mem_append] at hx
    rcases hx with rfl | hx | hx
    · exact ⟨x, List.mem_cons_self, [], hpath, rfl⟩
    · have hbelow : ∀ b ∈ Forest.roots us, RootChain id link entities ((path ++ [a]) ++ [b]) := by
        intro b hb
        obtain ⟨hmem, hlink⟩ := ha b hb
        exact RootChain.append_singleton_iff.2
          ⟨hmem, .inr ⟨a, List.getLast?_concat, hpath, hlink⟩⟩
      obtain ⟨b, -, rest, hchain, hlast⟩ := ih hus hbelow hx
      refine ⟨a, List.mem_cons_self, b :: rest, by simpa using hchain, ?_⟩
      rwa [List.getLast?_cons_cons]
    · have hnext : ∀ b ∈ Forest.roots others, RootChain id link entities (path ++ [b]) :=
        fun b hb => hroots b (List.mem_cons_of_mem a hb)
      obtain ⟨b, hb, h⟩ := ih' hothers hnext hx
      exact ⟨b, List.mem_cons_of_mem a hb, h⟩

/-- Two trees that go on from the same chain have no label in common. -/
theorem disjoint (hid : Identified id entities) {t : Tree β} {others : Forest β} {path : List β}
    (hlinked : Forest.All (fun a us => ∀ b ∈ Forest.roots us, b ∈ entities ∧ link b = id a)
      (t :: others))
    (hroots : ∀ b ∈ Forest.roots (t :: others), RootChain id link entities (path ++ [b]))
    (hnodup : (Forest.roots (t :: others)).Nodup) {x : β} (hx : x ∈ t.labels) :
    x ∉ Forest.labels others := by
  intro hx'
  have hxt : x ∈ Forest.labels [t] := List.mem_append_left _ hx
  have hroot : ∀ b ∈ Forest.roots [t], RootChain id link entities (path ++ [b]) := by
    intro b hb
    exact hroots b (List.mem_cons.2 (.inl (List.mem_singleton.1 hb)))
  have hrest : ∀ b ∈ Forest.roots others, RootChain id link entities (path ++ [b]) :=
    fun b hb => hroots b (List.mem_cons_of_mem _ hb)
  have htree : Forest.All (fun a us => ∀ b ∈ Forest.roots us, b ∈ entities ∧ link b = id a) [t] :=
    ⟨hlinked.1, trivial⟩
  obtain ⟨b, hb, rest, hchain, hlast⟩ := exists_chain htree hroot hxt
  obtain ⟨b', hb', rest', hchain', hlast'⟩ := exists_chain hlinked.2 hrest hx'
  have hsame : path ++ b :: rest = path ++ b' :: rest' := by
    refine RootChain.unique hid hchain hchain' ?_
    rw [List.getLast?_append_of_ne_nil _ (List.cons_ne_nil b rest), hlast,
      List.getLast?_append_of_ne_nil _ (List.cons_ne_nil b' rest'), hlast']
  obtain ⟨rfl, -⟩ := List.cons.inj (List.append_cancel_left hsame)
  rw [List.mem_singleton.1 hb] at hb'
  exact (List.nodup_cons.1 hnodup).1 hb'

/-- Trees that go on from the same chain have every label once. -/
theorem nodup_labels (hid : Identified id entities) {ts : Forest β}
    (hlinked : Forest.All (fun a us => ∀ b ∈ Forest.roots us, b ∈ entities ∧ link b = id a) ts)
    (hbelow : Forest.All (fun _ us => (Forest.roots us).Nodup) ts) {path : List β}
    (hroots : ∀ b ∈ Forest.roots ts, RootChain id link entities (path ++ [b]))
    (hnodup : (Forest.roots ts).Nodup) : (Forest.labels ts).Nodup := by
  induction ts using Forest.induction generalizing path with
  | nil => exact .nil
  | cons a us others ih ih' =>
    have hpath := hroots a List.mem_cons_self
    have hus : ∀ b ∈ Forest.roots us, RootChain id link entities ((path ++ [a]) ++ [b]) := by
      intro b hb
      obtain ⟨hmem, hlink⟩ := hlinked.1.1 b hb
      exact RootChain.append_singleton_iff.2 ⟨hmem, .inr ⟨a, List.getLast?_concat, hpath, hlink⟩⟩
    have hothers : ∀ b ∈ Forest.roots others, RootChain id link entities (path ++ [b]) :=
      fun b hb => hroots b (List.mem_cons_of_mem a hb)
    -- The label of a node is not below it, since its chain would have to go on.
    have hnot : a ∉ Forest.labels us := by
      intro ha
      obtain ⟨b, -, rest, hchain, hlast⟩ := exists_chain hlinked.1.2 hus ha
      have hsame : path ++ [a] = (path ++ [a]) ++ b :: rest := by
        refine RootChain.unique hid hpath hchain ?_
        rw [List.getLast?_concat, List.getLast?_append_of_ne_nil _ (List.cons_ne_nil b rest), hlast]
      have hlength := congrArg List.length hsame
      simp at hlength
    have htree : (a :: Forest.labels us).Nodup :=
      List.nodup_cons.2 ⟨hnot, ih hlinked.1.2 hbelow.1.2 hus hbelow.1.1⟩
    have hrest : (Forest.labels others).Nodup :=
      ih' hlinked.2 hbelow.2 hothers (List.nodup_cons.1 hnodup).2
    exact List.Nodup.append htree hrest fun x hx hx' => disjoint hid hlinked hroots hnodup hx hx'

/-- **Following a look-up** that finds the entities by what they point at lays them out. -/
theorem of_lookup (hid : Identified id entities) (get : String → List β)
    (hmem : ∀ target b, b ∈ get target ↔ b ∈ entities ∧ link b = target)
    (hnodup : ∀ target, (get target).Nodup) {ts : Forest β} (hroots : Forest.roots ts = get "")
    (hbelow : Forest.All (fun a us => Forest.roots us = get (id a)) ts) :
    Arranged id link entities ts := by
  have hlinked : Forest.All (fun a us => ∀ b ∈ Forest.roots us, b ∈ entities ∧ link b = id a)
      ts := by
    refine hbelow.imp fun a us hus b hb => ?_
    rw [hus] at hb
    exact (hmem _ b).1 hb
  have hchains : ∀ b ∈ Forest.roots ts, RootChain id link entities ([] ++ [b]) := by
    intro b hb
    rw [hroots, hmem] at hb
    exact RootChain.append_singleton_iff.2 ⟨hb.1, .inl ⟨rfl, hb.2⟩⟩
  have hlabels : (Forest.labels ts).Nodup := by
    refine nodup_labels hid hlinked (hbelow.imp fun a us hus => ?_) hchains ?_
    · rw [hus]
      exact hnodup _
    · rw [hroots]
      exact hnodup _
  have hanchored : ∀ b, b ∈ Forest.labels ts ↔ Anchored id link entities b := by
    intro b
    constructor
    · intro hb
      obtain ⟨c, -, rest, hchain, hlast⟩ := exists_chain hlinked hchains hb
      exact ⟨c :: rest, hchain, hlast⟩
    · intro hb
      refine hb.induction (fun c hc hroot => ?_) fun a c _ hc hlink ha => ?_
      · refine Forest.mem_labels_of_mem_roots ?_
        rw [hroots, hmem]
        exact ⟨hc, hroot⟩
      · obtain ⟨us, hus, hsub⟩ := Forest.children_of_mem_labels hbelow ha
        refine hsub c ?_
        rw [hus, hmem]
        exact ⟨hc, hlink⟩
  refine ⟨?_, fun b hb => ?_, hlinked.imp fun a us hus b hb => (hus b hb).2⟩
  · refine (List.perm_ext_iff_of_nodup hlabels (hid.nodup_entities.filter _)).2 fun b => ?_
    rw [hanchored, List.mem_filter, decide_eq_true_iff]
    exact ⟨fun hb => ⟨hb.mem, hb⟩, fun hb => hb.2⟩
  · rw [hroots, hmem] at hb
    exact hb.2

variable {ts : Forest β}

/-- Where every link leads up to the top, nothing is left out. -/
theorem perm_of_grounded (h : Arranged id link entities ts) (hg : Grounded id link entities) :
    (Forest.labels ts).Perm entities := by
  have hall : entities.filter (Anchored id link entities) = entities :=
    List.filter_eq_self.2 fun b hb => decide_eq_true (hg.anchored hb)
  rw [← hall]
  exact h.perm

end Arranged

end FrameTree

import FrameTree.Proofs.Rendering
import FrameTree.Proofs.Stable

/-!
# The slots of a document that was read

A document that was read has no slot named by an empty text or by `null`, as both are read as no
slot (`Document.tidy_of_parse`). Such a document can be printed and read again without a change to
its slots (`Document.tidy_eq`), and so can its normal form, unless the default slot is named `null`
(`Document.Tidy.normal`).

Only the readers for the slot and the blocks inside change slots, so the proof is on the room that
is left, and at each depth one `Field.Keeps` per field.

Main results: `Document.tidy_of_parse`, `Document.Tidy.properSlots`, `Document.Tidy.normal`.
-/

namespace FrameTree.Document

open Json (Field Node)
open Json.Node

/-- The slot is one that is read as it is. -/
def Block.Tidy (b : Block) : Prop := tidySlot b.slot = b.slot

theorem tidySlot_idem (slot : Option String) : tidySlot (tidySlot slot) = tidySlot slot := by
  rw [tidySlot, tidySlot, Option.filter_filter]
  simp only [Bool.and_self]

/-! ## Reading -/

/-- All blocks of the tree have a slot that is read as it is. -/
def TidyTree (t : Tree Block) : Prop := ∀ b ∈ t.labels, b.Tidy

theorem TidyTree.relabel {f : Block → Block} (hf : ∀ b, b.Tidy → (f b).Tidy) {t : Tree Block}
    (ht : TidyTree t) : TidyTree (Document.relabel f t) := by
  cases t with
  | node b ts =>
    obtain ⟨hb, hts⟩ := List.forall_mem_cons.1 ht
    exact List.forall_mem_cons.2 ⟨hf b hb, hts⟩

theorem TidyTree.replant {ts : Forest Block} (hts : ∀ t ∈ ts, TidyTree t) {t : Tree Block}
    (ht : TidyTree t) : TidyTree (Document.replant ts t) := by
  cases t with
  | node b us =>
    refine List.forall_mem_cons.2 ⟨ht b List.mem_cons_self, fun c hc => ?_⟩
    obtain ⟨t, ht, hc⟩ := Forest.mem_labels.1 hc
    exact hts t ht c hc

theorem readSlot_tidy {n : Node} {slot : Option String} (h : readSlot n = .ok slot) :
    tidySlot slot = slot := by
  obtain ⟨s, -, h⟩ := bind_eq_ok_iff.1 h
  cases h
  exact tidySlot_idem s

theorem Block.fields_keep {room : Nat} {inside : Node → Json.Reading (Tree Block)}
    (hinside : ∀ n t, inside n = .ok t → TidyTree t) :
    ∀ f ∈ Block.fields room inside, f.Keeps TidyTree := by
  -- Only the slot and the blocks inside have to do with slots.
  have hslot : Field.Keeps TidyTree (.optional "slot" readSlot fun s =>
      Document.relabel fun b : Block => { b with slot := s }) :=
    .optional fun _ _ hread _ ht => ht.relabel fun _ _ => readSlot_tidy hread
  have hblocks : Field.Keeps TidyTree (listOf "blocks" room (fun _ => inside) Document.replant) :=
    .optional fun _ _ hread _ ht => ht.replant (forall_mem_of_readList hread hinside)
  simp only [Block.fields, List.forall_mem_cons, List.not_mem_nil, false_implies, implies_true,
    and_true]
  refine ⟨.mandatory ?_, .mandatory ?_, .optional ?_, hslot, .optional ?_, .optional ?_,
    .optional ?_, .optional ?_, .optional ?_, hblocks⟩
  all_goals
    intro _ _ _ _ ht
    refine ht.relabel ?_
    exact fun _ hb => hb

theorem tidyTree_default : TidyTree default := List.forall_mem_singleton.2 rfl

theorem Block.tidy_of_read {room : Nat} {n : Node} {t : Tree Block} (h : Block.read room n = .ok t) :
    TidyTree t := by
  have hnone : ∀ n t, (noRoom n : Json.Reading (Tree Block)) = .ok t → TidyTree t :=
    fun _ _ h => nomatch h
  match room, h with
  | 0, h => exact readRecord_keeps tidyTree_default (Block.fields_keep hnone) h
  | 1, h => exact readRecord_keeps tidyTree_default (Block.fields_keep hnone) h
  | room + 2, h =>
    refine readRecord_keeps tidyTree_default (Block.fields_keep fun n t ht => ?_) h
    exact Block.tidy_of_read ht

/-- Every block has a slot that is read as it is. -/
def Tidy (d : Document) : Prop := ∀ b ∈ Forest.labels d.blocks, b.Tidy

instance (d : Document) : Decidable d.Tidy :=
  inferInstanceAs (Decidable (∀ b ∈ Forest.labels d.blocks, tidySlot b.slot = b.slot))

theorem tidy_of_read {room : Nat} {n : Node} {d : Document} (h : Document.read room n = .ok d) :
    d.Tidy := by
  have hblocks : Field.Keeps Tidy
      (listOf "blocks" (room - 1) Block.read fun bs (d : Document) => { d with blocks := bs }) := by
    refine .optional fun _ ts hread _ _ b hb => ?_
    obtain ⟨t, ht, hb⟩ := Forest.mem_labels.1 hb
    have htidy := forall_mem_of_readList hread fun _ _ h => Block.tidy_of_read h
    exact htidy t ht b hb
  have hblank : Tidy default := fun _ hb => absurd hb List.not_mem_nil
  refine readRecord_keeps hblank ?_ h
  simp only [List.forall_mem_cons, List.not_mem_nil, false_implies, implies_true, and_true]
  refine ⟨.optional ?_, .optional ?_, .optional ?_, .optional ?_, .optional ?_, .optional ?_,
    hblocks⟩
  all_goals
    intro _ _ _ _ ht
    exact ht

theorem tidy_of_parse {text : String} {d : Document} (h : Document.parse text = .ok d) : d.Tidy := by
  obtain ⟨n, hread⟩ := readText_eq_ok h
  exact tidy_of_read hread

/-! ## What follows -/

theorem Block.Tidy.slot_ne {b : Block} (h : b.Tidy) : b.slot ≠ some "" := by
  intro hempty
  rw [Block.Tidy, hempty] at h
  exact absurd h (by decide)

/-- Written out, the slot of a block is still read as it is. -/
theorem Block.Tidy.normal {defaultSlot : String} (hdefault : defaultSlot ≠ "null") {b : Block}
    (h : b.Tidy) : (b.normal (b.innerSlot defaultSlot)).Tidy := by
  have hnull : b.slot.getD defaultSlot ≠ "null" := by
    cases hslot : b.slot with
    | none => exact hdefault
    | some slot =>
      rw [Block.Tidy, hslot, tidySlot, Option.filter_eq_some_iff] at h
      simpa using (Bool.and_eq_true_iff.1 h.2).2
  show tidySlot (b.innerSlot defaultSlot) = b.innerSlot defaultSlot
  rw [Block.innerSlot]
  split
  · rfl
  · rename_i hfull
    rw [tidySlot, Option.filter_some, if_pos]
    simpa using ⟨hfull, hnull⟩

theorem tidy_eq {d : Document} (h : d.Tidy) : d.tidy = d := by
  have htidy : ∀ b ∈ Forest.labels d.blocks, b.tidy = id b := by
    intro b hb
    rw [Block.tidy, h b hb]
    rfl
  rw [tidy, Forest.relabel_congr htidy, Forest.relabel_id]

theorem Tidy.properSlots {d : Document} (h : d.Tidy) : d.ProperSlots := by
  intro t ht b hb
  have hmem : b ∈ t.labels := by
    cases t
    exact List.mem_cons_of_mem _ hb
  exact (h b (Forest.mem_labels.2 ⟨t, ht, hmem⟩)).slot_ne

theorem Tidy.normal {defaultSlot : String} {d : Document} (hdefault : defaultSlot ≠ "null")
    (h : d.Tidy) : (d.normal defaultSlot).Tidy := by
  intro b hb
  rw [blocks_normal defaultSlot 0 d, Forest.labels_relabel] at hb
  obtain ⟨s, hs, rfl⟩ := List.mem_map.1 hb
  rw [Block.normalAt]
  split
  · rfl
  · exact (h s.label (Forest.mem_labels_of_mem_numbered hs)).normal hdefault

end FrameTree.Document

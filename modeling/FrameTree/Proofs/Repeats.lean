import FrameTree.Rules
import Mathlib.Data.List.Duplicate

/-!
# Keys that occur more than once

**First occurrences.** The members of a list that `distinct` keeps stand in the order in which they
first occur (`pairwise_idxOf_distinct`). What comes later in the list adds members behind them and
changes nothing before (`distinct_append`), and it makes no difference whether members are left out
before or after (`distinct_filter`).

**Repeated keys.** The keys are counted in a table first (`Rules.getD_foldl_tally`). So the keys
that occur more than once are those members of the distinct keys that two blocks carry
(`Rules.duplicateKeys_eq`). More blocks can make more keys repeated, but not fewer.

Main result: `Rules.duplicateKeys_blocks`.
-/

namespace FrameTree

/-! ## First occurrences -/

section

variable {α : Type} [DecidableEq α]

theorem distinct_append (xs ys : List α) :
    distinct (xs ++ ys) = distinct xs ++ (distinct ys).filter (· ∉ xs) := by
  induction xs with
  | nil => simp
  | cons x xs ih =>
    simp only [List.cons_append, distinct, ih, List.filter_append, List.filter_filter]
    congr 2
    apply List.filter_congr
    intro y _
    by_cases h : y = x <;> simp [h]

theorem distinct_filter (p : α → Bool) (xs : List α) :
    distinct (xs.filter p) = (distinct xs).filter p := by
  induction xs with
  | nil => rfl
  | cons x xs ih =>
    by_cases hx : p x
    · rw [List.filter_cons_of_pos hx, distinct, distinct, ih, List.filter_cons_of_pos hx,
        List.filter_comm]
    · -- No member that is kept equals `x`, so nothing more is left out on its account.
      rw [List.filter_cons_of_neg hx, distinct, ih, List.filter_cons_of_neg hx,
        List.filter_filter]
      apply List.filter_congr
      intro y _
      by_cases h : y = x
      · simp [h, hx]
      · simp [h]

/-- What is left of a list stands in the order of the first occurrences. -/
theorem pairwise_idxOf_distinct (xs : List α) :
    (distinct xs).Pairwise fun x y => xs.idxOf x < xs.idxOf y := by
  induction xs with
  | nil => exact .nil
  | cons x xs ih =>
    have hne : ∀ y ∈ (distinct xs).filter (· ≠ x), x ≠ y := by
      intro y hy
      rw [List.mem_filter, decide_eq_true_iff] at hy
      exact hy.2.symm
    rw [distinct, List.pairwise_cons]
    constructor
    · intro y hy
      rw [List.idxOf_cons_self, List.idxOf_cons_ne _ (hne y hy)]
      exact Nat.succ_pos _
    · refine (ih.filter _).imp_of_mem ?_
      intro y z hy hz hlt
      rw [List.idxOf_cons_ne _ (hne y hy), List.idxOf_cons_ne _ (hne z hz)]
      exact Nat.succ_lt_succ hlt

end

/-! ## Repeated keys -/

namespace Rules

variable {ι : Type}

/-- A count goes up by the number of occurrences. -/
theorem getD_foldl_tally (keys : List String) (counts : Std.HashMap String Nat) (key : String) :
    (keys.foldl tally counts).getD key 0 = counts.getD key 0 + keys.count key := by
  induction keys generalizing counts with
  | nil => rfl
  | cons k keys ih =>
    rw [List.foldl_cons, ih, tally, Std.HashMap.getD_alter, List.count_cons,
      ← Std.HashMap.getD_eq_getD_getElem?]
    by_cases h : k = key
    · subst h
      simp only [BEq.rfl, if_true, Option.getD_some]
      omega
    · simp [h]

/-- Looking a count up is counting. -/
theorem any_foldl_tally (keys : List String) (key : String) :
    (keys.foldl tally ∅)[key]?.any (1 < ·) = decide (1 < keys.count key) := by
  have hcount := getD_foldl_tally keys ∅ key
  rw [Std.HashMap.getD_empty, Nat.zero_add, Std.HashMap.getD_eq_getD_getElem?] at hcount
  rw [← hcount]
  cases (keys.foldl tally ∅)[key]? <;> rfl

/-- At least two blocks of a list carry the key. -/
def Repeated (blocks : List (Frame.Block ι)) (key : String) : Prop :=
  ∃ b c, [b, c].Sublist blocks ∧ b.key = key ∧ c.key = key

theorem repeated_iff (blocks : List (Frame.Block ι)) (key : String) :
    Repeated blocks key ↔ 1 < (blocks.map (·.key)).count key := by
  rw [← Nat.succ_le_iff, ← List.duplicate_iff_two_le_count, List.duplicate_iff_sublist,
    List.sublist_map_iff]
  constructor
  · rintro ⟨b, c, hbc, hb, hc⟩
    exact ⟨[b, c], hbc, by simp [hb, hc]⟩
  · rintro ⟨bs, hbs, hkeys⟩
    obtain ⟨b, c, rfl⟩ : ∃ b c, bs = [b, c] := by
      rw [← List.length_eq_two, ← List.length_map, ← hkeys]
      rfl
    obtain ⟨hb, hc⟩ : key = b.key ∧ key = c.key := by simpa using hkeys
    exact ⟨b, c, hbs, hb.symm, hc.symm⟩

theorem duplicateKeys_eq (keys : List String) :
    duplicateKeys keys = (distinct keys).filter fun k => 1 < keys.count k := by
  simp only [duplicateKeys, any_foldl_tally, distinct_filter]

theorem mem_duplicateKeys {keys : List String} {key : String} :
    key ∈ duplicateKeys keys ↔ 1 < keys.count key := by
  rw [duplicateKeys_eq, List.mem_filter, mem_distinct, decide_eq_true_iff, and_iff_right_iff_imp]
  intro h
  exact List.count_pos_iff.1 (Nat.zero_lt_of_lt h)

theorem duplicateKeys_eq_nil_iff (keys : List String) : duplicateKeys keys = [] ↔ keys.Nodup := by
  simp only [List.eq_nil_iff_forall_not_mem, List.nodup_iff_count, mem_duplicateKeys, Nat.not_lt]

/-- Repeated keys stay repeated, and stay in the same order. -/
theorem duplicateKeys_sublist_append (keys more : List String) :
    (duplicateKeys keys).Sublist (duplicateKeys (keys ++ more)) := by
  rw [duplicateKeys_eq, duplicateKeys_eq, distinct_append, List.filter_append]
  refine List.Sublist.trans ?_ (List.sublist_append_left _ _)
  apply List.monotone_filter_right
  intro key hkey
  rw [decide_eq_true_iff] at hkey ⊢
  rw [List.count_append]
  omega

/-- **Repeated keys are found exactly**: each key that at least two blocks carry is listed once, in
the order in which the keys first occur. So none is found just if no two blocks have the same key,
and further blocks only add to what is found. -/
theorem duplicateKeys_blocks (blocks : List (Frame.Block ι)) :
    let keys := blocks.map (·.key)
    (duplicateKeys keys).Nodup ∧
      (∀ key, key ∈ duplicateKeys keys ↔ Repeated blocks key) ∧
      (duplicateKeys keys).Pairwise (fun k l => keys.idxOf k < keys.idxOf l) ∧
      (duplicateKeys keys = [] ↔ keys.Nodup) ∧
      ∀ more : List (Frame.Block ι),
        (duplicateKeys keys).Sublist (duplicateKeys ((blocks ++ more).map (·.key))) := by
  intro keys
  refine ⟨nodup_distinct _, fun key => ?_, ?_, duplicateKeys_eq_nil_iff keys,
    fun more => ?_⟩
  · rw [repeated_iff, mem_duplicateKeys]
  · rw [duplicateKeys_eq]
    exact (pairwise_idxOf_distinct keys).filter _
  · rw [List.map_append]
    exact duplicateKeys_sublist_append keys _

end Rules

end FrameTree

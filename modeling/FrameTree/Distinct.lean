/-!
# First occurrences

`distinct` keeps the first of equal members of a list: the same members (`mem_distinct`), none of
them twice (`nodup_distinct`), in the order in which they first occur.
-/

namespace FrameTree

variable {α : Type} [DecidableEq α]

/-- The members of a list in the order of their first occurrence. -/
def distinct : List α → List α
  | [] => []
  | x :: xs => x :: (distinct xs).filter (· ≠ x)

@[simp] theorem distinct_nil : distinct ([] : List α) = [] := rfl

@[simp] theorem mem_distinct {x : α} {xs : List α} : x ∈ distinct xs ↔ x ∈ xs := by
  induction xs with
  | nil => simp
  | cons y ys ih =>
    by_cases h : x = y
    · simp [distinct, h]
    · simp [distinct, h, ih]

theorem nodup_distinct (xs : List α) : (distinct xs).Nodup := by
  induction xs with
  | nil => simp
  | cons y ys ih =>
    simp only [distinct, List.nodup_cons]
    exact ⟨by simp, ih.filter _⟩

end FrameTree

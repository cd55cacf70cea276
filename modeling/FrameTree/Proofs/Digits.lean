import FrameTree.Json.Numeral
import Mathlib.Data.List.Induction
import Mathlib.Tactic.Ring

/-!
# Digits

The digits of a natural write it (`Json.decimalValue_decimal`), and their number tells how large it
is. A significand is filled with digits from the left; it holds all of them, if they write a number
of 64 bits (`Json.takeDigits_eq`), and otherwise stands for less than they do
(`Json.takeDigits_le`).
-/

namespace FrameTree.Json

open Text (digitValue decimalValue)

/-! ## The digits of a natural -/

theorem isDigit_digitChar {d : Nat} (h : d < 10) : (digitChar d).isDigit = true := by
  have hall : ∀ d < 10, (digitChar d).isDigit = true := by decide
  exact hall d h

theorem digitValue_digitChar {d : Nat} (h : d < 10) : Text.digitValue (digitChar d) = d := by
  have hall : ∀ d < 10, Text.digitValue (digitChar d) = d := by decide
  exact hall d h

theorem isDigit_of_mem_decimal {n : Nat} {c : Char} (h : c ∈ decimal n) : c.isDigit = true := by
  fun_induction decimal n with
  | case1 n hn =>
    rw [List.mem_singleton.1 h]
    exact isDigit_digitChar hn
  | case2 n hn ih =>
    rcases List.mem_append.1 h with h | h
    · exact ih h
    · rw [List.mem_singleton.1 h]
      exact isDigit_digitChar (Nat.mod_lt n (by decide))

/-- Only zero starts with the digit zero, and it has no other digit. -/
theorem decimal_eq_cons (n : Nat) :
    ∃ c ds, decimal n = c :: ds ∧ (c = '0' → n = 0 ∧ ds = []) := by
  fun_induction decimal n with
  | case1 n hn =>
    refine ⟨digitChar n, [], rfl, fun hzero => ⟨?_, rfl⟩⟩
    rw [← digitValue_digitChar hn, hzero]
    rfl
  | case2 n hn ih =>
    obtain ⟨c, ds, hds, hzero⟩ := ih
    refine ⟨c, ds ++ [digitChar (n % 10)], by rw [hds, List.cons_append], fun hc => ?_⟩
    have := (hzero hc).1
    omega

theorem decimal_ne_nil (n : Nat) : decimal n ≠ [] := by
  obtain ⟨c, ds, hds, -⟩ := decimal_eq_cons n
  rw [hds]
  exact List.cons_ne_nil c ds

/-! ## What digits write -/

/-- The number that digits write after a number. -/
def digitsAfter (s : Nat) (ds : List Char) : Nat := ds.foldl (fun n c => 10 * n + digitValue c) s

theorem digitsAfter_eq (s : Nat) (ds : List Char) :
    digitsAfter s ds = s * 10 ^ ds.length + decimalValue ds := by
  induction ds generalizing s with
  | nil => simp [digitsAfter, decimalValue]
  | cons c ds ih =>
    have hcons : decimalValue (c :: ds) = digitValue c * 10 ^ ds.length + decimalValue ds :=
      calc decimalValue (c :: ds)
          = digitsAfter (10 * 0 + digitValue c) ds := rfl
        _ = digitValue c * 10 ^ ds.length + decimalValue ds := by
          rw [ih, Nat.mul_zero, Nat.zero_add]
    rw [hcons, List.length_cons, pow_succ]
    refine (ih (10 * s + digitValue c)).trans ?_
    ring

theorem decimalValue_append (ds es : List Char) :
    decimalValue (ds ++ es) = decimalValue ds * 10 ^ es.length + decimalValue es := by
  rw [← digitsAfter_eq]
  exact List.foldl_append

theorem decimalValue_replicate (k : Nat) : decimalValue (List.replicate k '0') = 0 := by
  induction k with
  | zero => rfl
  | succ k ih =>
    rw [List.replicate_succ', decimalValue_append, ih]
    rfl

theorem digitValue_lt {c : Char} (h : c.isDigit = true) : digitValue c < 10 := by
  rw [Char.isDigit, Bool.and_eq_true, decide_eq_true_iff, decide_eq_true_iff] at h
  have hle : c.val.toNat ≤ 57 := UInt32.le_iff_toNat_le.1 h.2
  show c.val.toNat - 48 < 10
  omega

theorem decimalValue_lt {ds : List Char} (h : ∀ c ∈ ds, c.isDigit = true) :
    decimalValue ds < 10 ^ ds.length := by
  induction ds using List.reverseRecOn with
  | nil => exact Nat.one_pos
  | append_singleton ds c ih =>
    rw [List.forall_mem_append, List.forall_mem_singleton] at h
    have hvalue : decimalValue (ds ++ [c]) = decimalValue ds * 10 + digitValue c := by
      rw [decimalValue_append, List.length_singleton, pow_one]
      simp [decimalValue]
    have hds := ih h.1
    have hc := digitValue_lt h.2
    rw [hvalue, List.length_append, List.length_singleton, pow_succ]
    omega

theorem decimalValue_decimal (n : Nat) : decimalValue (decimal n) = n := by
  fun_induction decimal n with
  | case1 n hn => simpa [decimalValue] using digitValue_digitChar hn
  | case2 n hn ih =>
    have hdigit := digitValue_digitChar (Nat.mod_lt n (by decide : 0 < 10))
    rw [decimalValue_append, ih, List.length_singleton, pow_one]
    simp only [decimalValue, List.foldl_cons, List.foldl_nil, hdigit]
    omega

theorem lt_pow_length_decimal (n : Nat) : n < 10 ^ (decimal n).length := by
  have h : decimalValue (decimal n) < 10 ^ (decimal n).length :=
    decimalValue_lt fun _ => isDigit_of_mem_decimal
  rwa [decimalValue_decimal] at h

theorem pow_length_decimal_le {n : Nat} (hn : n ≠ 0) : 10 ^ ((decimal n).length - 1) ≤ n := by
  fun_induction decimal n with
  | case1 n h => exact Nat.pos_of_ne_zero hn
  | case2 n h ih =>
    have hlength := List.length_pos_iff.2 (decimal_ne_nil (n / 10))
    have hpower := ih (by omega)
    have hsucc : (decimal (n / 10)).length = (decimal (n / 10)).length - 1 + 1 := by omega
    rw [List.length_append, List.length_singleton, Nat.add_sub_cancel, hsucc, pow_succ]
    omega

theorem length_decimal_eq {n k : Nat} (hlow : powerOfTen k ≤ n) (hhigh : n < powerOfTen (k + 1)) :
    (decimal n).length = k + 1 := by
  rw [powerOfTen] at hlow hhigh
  have hpos : n ≠ 0 := fun hzero => absurd (hzero ▸ hlow) (Nat.pow_pos (by decide)).not_ge
  have hlower : k < (decimal n).length :=
    (Nat.pow_lt_pow_iff_right (by decide)).1 (hlow.trans_lt (lt_pow_length_decimal n))
  have hupper : (decimal n).length - 1 < k + 1 :=
    (Nat.pow_lt_pow_iff_right (by decide)).1 ((pow_length_decimal_le hpos).trans_lt hhigh)
  omega

/-! ## Taking digits into a significand -/

theorem takeDigits_le {s v k : Nat} {ds : List Char} (h : takeDigits s ds = (v, k)) :
    k ≤ ds.length ∧ v * 10 ^ k ≤ digitsAfter s ds := by
  induction ds generalizing s with
  | nil =>
    cases h
    exact ⟨Nat.le_refl _, by simp [digitsAfter]⟩
  | cons c ds ih =>
    rw [takeDigits] at h
    split at h
    · obtain ⟨hk, hv⟩ := ih h
      exact ⟨Nat.le_succ_of_le hk, hv⟩
    · cases h
      refine ⟨Nat.le_refl _, ?_⟩
      rw [digitsAfter_eq]
      exact Nat.le_add_right _ _

theorem takeDigits_lt {s v k : Nat} {ds : List Char} (hs : s < powerOfTwo 64)
    (h : takeDigits s ds = (v, k)) : v < powerOfTwo 64 := by
  induction ds generalizing s with
  | nil =>
    cases h
    exact hs
  | cons c ds ih =>
    rw [takeDigits] at h
    split at h
    · rename_i hnext
      exact ih hnext h
    · cases h
      exact hs

/-- Digits that fit are all taken. -/
theorem takeDigits_eq {s : Nat} {ds : List Char} (h : digitsAfter s ds < powerOfTwo 64) :
    takeDigits s ds = (digitsAfter s ds, 0) := by
  induction ds generalizing s with
  | nil => rfl
  | cons c ds ih =>
    have hnext : 10 * s + digitValue c < powerOfTwo 64 := by
      refine lt_of_le_of_lt ?_ h
      show _ ≤ digitsAfter (10 * s + digitValue c) ds
      rw [digitsAfter_eq]
      exact le_add_right (Nat.le_mul_of_pos_right _ (Nat.pow_pos (by decide)))
    rw [takeDigits, if_pos hnext]
    exact ih h

theorem takeDigits_decimal {n : Nat} (h : n < powerOfTwo 64) :
    takeDigits 0 (decimal n) = (n, 0) := by
  have hvalue : digitsAfter 0 (decimal n) = n := decimalValue_decimal n
  rw [takeDigits_eq (by rwa [hvalue]), hvalue]

end FrameTree.Json

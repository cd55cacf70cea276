import FrameTree.Proofs.Numerals
import FrameTree.Proofs.Rounding

/-!
# Doubles are read again

The text of a double is one numeral, and the value of that is in range. What is read need not be the
same double, since reading rounds several times.

**Range** (`Json.Numeral.value_eq_ok`). The digits are taken into a significand, which never stands
for more than the numeral does. So a numeral is read, if its exact value leaves room for the errors.

**Layout** (`Json.Decimal.WrittenAs`). A decimal is laid out in one of four ways, each of which is a
numeral with the value of the decimal.

**Fewest digits.** The decimal that is printed lies in the interval of the double, so it is half a
step larger at most (`Json.Binary64.shortest_spec`). For nearly all doubles this leaves enough room;
the three largest are read one by one.

Main result: `Json.Number.Proper.readable`.
-/

namespace FrameTree.Json

open Text (decimalValue)

/-! ## The value of a numeral -/

namespace Numeral

/-- The power of ten that the exponent stands for. -/
def power (n : Numeral) : Int :=
  match n.exponent with
  | none => 0
  | some (down, ds) => if down then -(decimalValue ds : Int) else decimalValue ds

/-- The exact value without the sign. -/
def magnitude (n : Numeral) : ℚ :=
  decimalValue (n.whole ++ n.fraction.getD []) * 10 ^ (n.power - (n.fraction.getD []).length)

theorem power_eq (negative : Bool) (whole : List Char) (fraction : Option (List Char)) (e : Int) :
    (⟨negative, whole, fraction, some (decide (e < 0), decimal e.natAbs)⟩ : Numeral).power = e := by
  rw [power]
  dsimp only
  rw [decimalValue_decimal]
  by_cases he : e < 0
  · rw [if_pos (decide_eq_true he)]
    omega
  · rw [if_neg (by simpa using he)]
    omega

/-- The significand never stands for more than the digits. -/
theorem scaled_le {w s dropped : Nat} {ds : List Char} (h : takeDigits w ds = (s, dropped))
    (e : Int) : (s : ℚ) * 10 ^ (((0 : Nat) : Int) - ((ds.length - dropped : Nat) : Int) + e) ≤
      digitsAfter w ds * 10 ^ (e - ds.length) := by
  obtain ⟨hdropped, hle⟩ := takeDigits_le h
  have hexponent : ((0 : Nat) : Int) - ((ds.length - dropped : Nat) : Int) + e =
      dropped + (e - ds.length) := by omega
  have hle' : (s : ℚ) * 10 ^ dropped ≤ digitsAfter w ds := by exact_mod_cast hle
  rw [hexponent, zpow_add₀ (by norm_num), zpow_natCast, ← mul_assoc]
  exact mul_le_mul_of_nonneg_right hle' (by positivity)

section

variable {n : Numeral} (hpart : n.fraction.isSome ∨ n.exponent.isSome)
  (hwhole : decimalValue n.whole < powerOfTwo 64) (hpower : n.power ≤ maxExponentDigits)

include hpart hwhole hpower

/-- A numeral with a fraction or an exponent is its significand times a power of ten, or zero. -/
theorem value_eq_ofScaled {s dropped : Nat}
    (hdigits : takeDigits (decimalValue n.whole) (n.fraction.getD []) = (s, dropped)) :
    (∃ x, n.value = .ok (.float x)) ∨ n.value = Binary64.ofScaled n.negative s
      (((0 : Nat) : Int) - (((n.fraction.getD []).length - dropped : Nat) : Int) + n.power) := by
  obtain ⟨negative, whole, fraction, exponent⟩ := n
  have htake : takeDigits 0 whole = (decimalValue whole, 0) := takeDigits_eq hwhole
  dsimp only at hdigits
  cases exponent with
  | none =>
    obtain ⟨ds, rfl⟩ : ∃ ds, fraction = some ds :=
      Option.isSome_iff_exists.1 (hpart.resolve_right Bool.false_ne_true)
    right
    rw [Option.getD_some] at hdigits
    rw [value, power, add_zero]
    simp only [htake, Option.getD_some, hdigits]
  | some exponent =>
    obtain ⟨down, es⟩ := exponent
    have hvalue : (⟨negative, whole, fraction, some (down, es)⟩ : Numeral).value =
        if decimalValue es > maxExponentDigits then
          if s == 0 || down then .ok (.float (Binary64.zero negative))
          else .error .numberOutOfRange
        else
          let scale := ((0 : Nat) : Int) - (((fraction.getD []).length - dropped : Nat) : Int)
          Binary64.ofScaled negative s
            (if down then scale - decimalValue es else scale + decimalValue es) := by
      rw [value]
      cases fraction <;> simp only [htake, hdigits]
    rw [hvalue]
    cases down with
    | true =>
      split
      · exact .inl ⟨_, by rw [Bool.or_true, if_pos rfl]⟩
      · exact .inr rfl
    | false =>
      have hes : decimalValue es ≤ maxExponentDigits := Int.ofNat_le.1 hpower
      rw [if_neg (Nat.not_lt.2 hes)]
      exact .inr rfl

/-- A numeral has a value, if its exact value leaves room for the errors. -/
theorem value_eq_ok (hroof : n.magnitude ≤ Binary64.roof) : ∃ x, n.value = .ok (.float x) := by
  obtain ⟨s, dropped, hdigits⟩ : ∃ s dropped,
      takeDigits (decimalValue n.whole) (n.fraction.getD []) = (s, dropped) := ⟨_, _, rfl⟩
  rw [magnitude, decimalValue_append, ← digitsAfter_eq] at hroof
  rcases value_eq_ofScaled hpart hwhole hpower hdigits with hvalue | hvalue
  · exact hvalue
  · rw [hvalue]
    exact Binary64.ofScaled_eq_ok n.negative (takeDigits_lt hwhole hdigits)
      ((scaled_le hdigits n.power).trans hroof)

/-- If all digits fit into the significand, nothing is lost before the product. -/
theorem value_eq_ok_of_fits {digits : Nat}
    (hdigits : decimalValue (n.whole ++ n.fraction.getD []) = digits)
    (hfits : digits < powerOfTwo 64)
    (hread : ∃ x, Binary64.ofScaled n.negative digits (n.power - (n.fraction.getD []).length) =
      .ok (.float x)) : ∃ x, n.value = .ok (.float x) := by
  rw [decimalValue_append, ← digitsAfter_eq] at hdigits
  have htake : takeDigits (decimalValue n.whole) (n.fraction.getD []) = (digits, 0) := by
    rw [takeDigits_eq (hdigits ▸ hfits), hdigits]
  rcases value_eq_ofScaled hpart hwhole hpower htake with hvalue | hvalue
  · exact hvalue
  · rw [hvalue, Nat.sub_zero]
    convert hread using 4
    omega

end

end Numeral

/-! ## Layout -/

namespace Decimal

/-- The exact value. -/
def magnitude (c : Decimal) : ℚ := c.digits * 10 ^ c.exponent

/-- The power of ten of the first digit, and one more. -/
def point (c : Decimal) : Int := c.exponent + (decimal c.digits).length

/-- The decimal has a layout with a point and no exponent. -/
def Positional (c : Decimal) : Prop := minPositional ≤ c.point - 1 ∧ c.point - 1 ≤ maxPositional

/-- The decimal is written as a numeral, with some zeros after its digits. -/
structure WrittenAs (c : Decimal) (n : Numeral) (zeros : Nat) : Prop where
  text : n.text = (if n.negative then ['-'] else []) ++ c.text
  wellFormed : n.WellFormed
  part : n.fraction.isSome ∨ n.exponent.isSome
  whole : n.whole.length ≤ 16
  power : n.power = 0 ∨ n.power = c.point - 1
  digits : decimalValue (n.whole ++ n.fraction.getD []) = c.digits * 10 ^ zeros
  exponent : n.power - (n.fraction.getD []).length + zeros = c.exponent

variable {c : Decimal}

theorem text_eq (c : Decimal) : c.text =
    if minPositional ≤ c.point - 1 && c.point - 1 ≤ maxPositional then
      if c.exponent ≥ 0 then
        decimal c.digits ++ List.replicate c.exponent.toNat '0' ++ ['.', '0']
      else if c.point > 0 then
        (decimal c.digits).take c.point.toNat ++ '.' :: (decimal c.digits).drop c.point.toNat
      else ['0', '.'] ++ List.replicate (-c.point).toNat '0' ++ decimal c.digits
    else
      (decimal c.digits).take 1 ++
        (if (decimal c.digits).length > 1 then '.' :: (decimal c.digits).drop 1 else []) ++
        'e' :: exponentText (c.point - 1) := rfl

theorem Positional.decide_eq (h : c.Positional) :
    (minPositional ≤ c.point - 1 && c.point - 1 ≤ maxPositional) = true := by
  rw [Bool.and_eq_true, decide_eq_true_iff, decide_eq_true_iff]
  exact h

/-- Digits, zeros and a fraction of zero. -/
theorem written_padded (negative : Bool) (hpositional : c.Positional) (he : 0 ≤ c.exponent)
    (hzero : c.digits = 0 → c.exponent = 0) :
    c.WrittenAs ⟨negative, decimal c.digits ++ List.replicate c.exponent.toNat '0', some ['0'],
      none⟩ (c.exponent.toNat + 1) where
  text := by
    rw [text_eq, if_pos hpositional.decide_eq, if_pos he]
    simp [Numeral.text, Numeral.fractionText, Numeral.exponentText]
  wellFormed := by
    refine ⟨(isRow_decimal c.digits).append fun _ => isDigit_of_mem_replicate, ?_, ?_, ?_⟩
    · by_cases hdigits : c.digits = 0
      · rw [hzero hdigits]
        show ZeroAlone (decimal c.digits ++ [])
        rw [List.append_nil]
        exact zeroAlone_decimal c.digits
      · obtain ⟨d, ds, hds, hd⟩ := exists_head_decimal hdigits
        rw [hds]
        exact zeroAlone_of_head hd _
    · rintro _ ⟨⟩
      exact isRow_zero
    · rintro _ ⟨⟩
  part := .inl rfl
  whole := by
    have hhigh := hpositional.2
    rw [point, maxPositional] at hhigh
    show (decimal c.digits ++ List.replicate c.exponent.toNat '0').length ≤ 16
    rw [List.length_append, List.length_replicate]
    omega
  power := .inl rfl
  digits := by
    show decimalValue (decimal c.digits ++ List.replicate c.exponent.toNat '0' ++ ['0']) = _
    rw [List.append_assoc, ← List.replicate_succ', decimalValue_append, decimalValue_replicate,
      decimalValue_decimal, List.length_replicate, Nat.add_zero]
  exponent := by
    show (0 : Int) - (1 : Nat) + (c.exponent.toNat + 1 : Nat) = c.exponent
    omega

/-- The point among the digits. -/
theorem written_inside (negative : Bool) (hpositional : c.Positional) (he : c.exponent < 0)
    (hpoint : 0 < c.point) (hzero : c.digits = 0 → c.exponent = 0) :
    c.WrittenAs ⟨negative, (decimal c.digits).take c.point.toNat,
      some ((decimal c.digits).drop c.point.toNat), none⟩ 0 where
  text := by
    rw [text_eq, if_pos hpositional.decide_eq, if_neg he.not_ge, if_pos hpoint]
    simp [Numeral.text, Numeral.fractionText, Numeral.exponentText]
  wellFormed := by
    refine ⟨(isRow_decimal c.digits).take (by omega), ?_, ?_, ?_⟩
    · obtain ⟨d, ds, hds, hd⟩ := exists_head_decimal (mt hzero he.ne)
      obtain ⟨k, hk⟩ : ∃ k, c.point.toNat = k + 1 := ⟨c.point.toNat - 1, by omega⟩
      rw [hds, hk, List.take_succ_cons]
      exact zeroAlone_of_head hd _
    · rintro _ ⟨⟩
      refine (isRow_decimal c.digits).drop ?_
      rw [point] at hpoint ⊢
      omega
    · rintro _ ⟨⟩
  part := .inl rfl
  whole := by
    have hhigh := hpositional.2
    rw [maxPositional] at hhigh
    show ((decimal c.digits).take c.point.toNat).length ≤ 16
    rw [List.length_take]
    omega
  power := .inl rfl
  digits := by
    show decimalValue ((decimal c.digits).take c.point.toNat ++
      (decimal c.digits).drop c.point.toNat) = _
    rw [List.take_append_drop, decimalValue_decimal, pow_zero, Nat.mul_one]
  exponent := by
    show (0 : Int) - ((decimal c.digits).drop c.point.toNat).length + (0 : Nat) = c.exponent
    rw [List.length_drop]
    rw [point] at hpoint ⊢
    omega

/-- Zeros between the point and the digits. -/
theorem written_below (negative : Bool) (hpositional : c.Positional) (he : c.exponent < 0)
    (hpoint : c.point ≤ 0) :
    c.WrittenAs ⟨negative, ['0'],
      some (List.replicate (-c.point).toNat '0' ++ decimal c.digits), none⟩ 0 where
  text := by
    rw [text_eq, if_pos hpositional.decide_eq, if_neg he.not_ge, if_neg hpoint.not_gt]
    simp [Numeral.text, Numeral.fractionText, Numeral.exponentText]
  wellFormed := by
    refine ⟨isRow_zero, zeroAlone_singleton '0', ?_, ?_⟩
    · rintro _ ⟨⟩
      refine ⟨List.append_ne_nil_of_right_ne_nil _ (decimal_ne_nil c.digits), ?_⟩
      exact List.forall_mem_append.2
        ⟨fun _ => isDigit_of_mem_replicate, fun _ => isDigit_of_mem_decimal⟩
    · rintro _ ⟨⟩
  part := .inl rfl
  whole := Nat.le_of_ble_eq_true rfl
  power := .inl rfl
  digits := by
    show decimalValue ('0' :: (List.replicate (-c.point).toNat '0' ++ decimal c.digits)) = _
    rw [← List.cons_append, ← List.replicate_succ, decimalValue_append, decimalValue_replicate,
      decimalValue_decimal, Nat.zero_mul, Nat.zero_add, pow_zero, Nat.mul_one]
  exponent := by
    show (0 : Int) - (List.replicate (-c.point).toNat '0' ++ decimal c.digits).length +
      (0 : Nat) = c.exponent
    rw [List.length_append, List.length_replicate]
    rw [point] at hpoint ⊢
    omega

theorem getD_fraction (ds : List Char) :
    (if ds.length > 1 then some (ds.drop 1) else none).getD [] = ds.drop 1 := by
  split
  · rfl
  · exact (List.drop_eq_nil_of_le (by omega)).symm

/-- One digit before the point, and an exponent. -/
theorem written_scientific (negative : Bool) (h : ¬c.Positional) :
    c.WrittenAs ⟨negative, (decimal c.digits).take 1,
      if (decimal c.digits).length > 1 then some ((decimal c.digits).drop 1) else none,
      some (decide (c.point - 1 < 0), decimal (c.point - 1).natAbs)⟩ 0 where
  text := by
    have hlayout : ¬(minPositional ≤ c.point - 1 && c.point - 1 ≤ maxPositional) = true := by
      rw [Bool.and_eq_true, decide_eq_true_iff, decide_eq_true_iff]
      exact h
    rw [text_eq, if_neg hlayout]
    by_cases hlength : (decimal c.digits).length > 1
    · simp [Numeral.text, Numeral.fractionText, Numeral.exponentText, exponentText, hlength]
    · simp [Numeral.text, Numeral.fractionText, Numeral.exponentText, exponentText, hlength]
  wellFormed := by
    obtain ⟨d, ds, hds, -⟩ := decimal_eq_cons c.digits
    refine ⟨(isRow_decimal c.digits).take Nat.one_pos, ?_, ?_, ?_⟩
    · rw [hds]
      exact zeroAlone_singleton d
    · intro fraction hfraction
      dsimp only at hfraction
      split at hfraction
      · rename_i hlength
        cases hfraction
        exact (isRow_decimal c.digits).drop hlength
      · cases hfraction
    · rintro _ ⟨⟩
      exact isRow_decimal _
  part := .inr rfl
  whole := by
    show ((decimal c.digits).take 1).length ≤ 16
    rw [List.length_take]
    omega
  power := .inr (Numeral.power_eq _ _ _ _)
  digits := by
    dsimp only
    rw [getD_fraction, List.take_append_drop, decimalValue_decimal, pow_zero, Nat.mul_one]
  exponent := by
    have hlength := List.length_pos_iff.2 (decimal_ne_nil c.digits)
    dsimp only
    rw [Numeral.power_eq, getD_fraction, List.length_drop, point]
    omega

/-- Every decimal is written as a numeral. Zero has to be written without an exponent. -/
theorem exists_written (negative : Bool) (hzero : c.digits = 0 → c.exponent = 0) :
    ∃ n zeros, n.negative = negative ∧ c.WrittenAs n zeros := by
  by_cases hpositional : c.Positional
  · by_cases he : c.exponent < 0
    · by_cases hpoint : 0 < c.point
      · exact ⟨_, _, rfl, written_inside negative hpositional he hpoint hzero⟩
      · exact ⟨_, _, rfl, written_below negative hpositional he (not_lt.1 hpoint)⟩
    · exact ⟨_, _, rfl, written_padded negative hpositional (not_lt.1 he) hzero⟩
  · exact ⟨_, _, rfl, written_scientific negative hpositional⟩

/-- The first digit alone stands for no more than the decimal. -/
theorem pow_point_le (hdigits : c.digits ≠ 0) : (10 : ℚ) ^ (c.point - 1) ≤ c.magnitude := by
  have hlength := List.length_pos_iff.2 (decimal_ne_nil c.digits)
  have hpoint : c.point - 1 = ((decimal c.digits).length - 1 : Nat) + c.exponent := by
    rw [point]
    omega
  have hlow : (10 : ℚ) ^ ((decimal c.digits).length - 1) ≤ c.digits := by
    exact_mod_cast pow_length_decimal_le hdigits
  rw [hpoint, zpow_add₀ (by norm_num), zpow_natCast, magnitude]
  exact mul_le_mul_of_nonneg_right hlow (by positivity)

theorem point_le (hzero : c.digits = 0 → c.exponent = 0) (hroof : c.magnitude ≤ Binary64.roof) :
    c.point - 1 ≤ Binary64.maxPower := by
  by_cases hdigits : c.digits = 0
  · rw [point, hdigits, hzero hdigits]
    simp [decimal]
  · have hpower : (10 : ℚ) ^ (c.point - 1) < 10 ^ ((Binary64.maxPower + 1 : Nat) : Int) := by
      rw [zpow_natCast, ← powerOfTen_cast]
      exact ((pow_point_le hdigits).trans hroof).trans_lt Binary64.roof_lt_powerOfTen
    rw [zpow_lt_zpow_iff_right₀ (by norm_num)] at hpower
    omega

namespace WrittenAs

variable {n : Numeral} {zeros : Nat}

theorem whole_lt (h : c.WrittenAs n zeros) : decimalValue n.whole < powerOfTwo 64 :=
  calc decimalValue n.whole
      < 10 ^ n.whole.length := decimalValue_lt h.wellFormed.whole.digits
    _ ≤ 10 ^ 16 := Nat.pow_le_pow_right (by decide) h.whole
    _ < powerOfTwo 64 := by decide

theorem power_le (h : c.WrittenAs n zeros) (hpoint : c.point - 1 ≤ Binary64.maxPower) :
    n.power ≤ maxExponentDigits := by
  rw [Binary64.maxPower] at hpoint
  rw [maxExponentDigits]
  rcases h.power with hpower | hpower <;> omega

theorem magnitude_eq (h : c.WrittenAs n zeros) : n.magnitude = c.magnitude := by
  have hdigits : (decimalValue (n.whole ++ n.fraction.getD []) : ℚ) = c.digits * 10 ^ zeros := by
    exact_mod_cast h.digits
  rw [Numeral.magnitude, hdigits, Decimal.magnitude, ← h.exponent, zpow_add₀ (by norm_num),
    zpow_natCast]
  ring

/-- **Reading a decimal.** What it is written as has a value, if there is room for the errors. -/
theorem value_eq_ok (h : c.WrittenAs n zeros) (hzero : c.digits = 0 → c.exponent = 0)
    (hroof : c.magnitude ≤ Binary64.roof) : ∃ x, n.value = .ok (.float x) :=
  Numeral.value_eq_ok h.part h.whole_lt (h.power_le (point_le hzero hroof))
    (h.magnitude_eq ▸ hroof)

theorem value_eq_ok_of_fits (h : c.WrittenAs n 0) (hpoint : c.point - 1 ≤ Binary64.maxPower)
    (hfits : c.digits < powerOfTwo 64)
    (hread : ∃ x, Binary64.ofScaled n.negative c.digits c.exponent = .ok (.float x)) :
    ∃ x, n.value = .ok (.float x) := by
  have hdigits : decimalValue (n.whole ++ n.fraction.getD []) = c.digits := by
    rw [h.digits, pow_zero, Nat.mul_one]
  have hexponent : n.power - (n.fraction.getD []).length = c.exponent := by
    have := h.exponent
    omega
  exact Numeral.value_eq_ok_of_fits h.part h.whole_lt (h.power_le hpoint) hdigits hfits
    (hexponent ▸ hread)

end WrittenAs

end Decimal

/-! ## Fewest digits -/

namespace RoundingInterval

variable {i : RoundingInterval} {c : Decimal}

theorem le_of_contains (hden : 0 < i.denominator) (h : i.contains c = true) :
    c.magnitude ≤ i.high / i.denominator := by
  have hle : c.digits * powerOfTen c.exponent.toNat * i.denominator ≤
      i.high * powerOfTen (-c.exponent).toNat := by
    rw [contains] at h
    split at h
    · rw [Bool.and_eq_true, decide_eq_true_iff, decide_eq_true_iff] at h
      exact h.2
    · rw [Bool.and_eq_true, decide_eq_true_iff, decide_eq_true_iff] at h
      exact h.2.le
  have hpower : (10 : ℚ) ^ c.exponent = 10 ^ c.exponent.toNat / 10 ^ (-c.exponent).toNat := by
    rw [← zpow_natCast, ← zpow_natCast, ← zpow_sub₀ (by norm_num)]
    congr 1
    omega
  have hcast : (c.digits : ℚ) * 10 ^ c.exponent.toNat * i.denominator ≤
      i.high * 10 ^ (-c.exponent).toNat := by
    rw [← powerOfTen_cast, ← powerOfTen_cast]
    exact_mod_cast hle
  have hden' : (0 : ℚ) < i.denominator := Nat.cast_pos.2 hden
  rw [Decimal.magnitude, hpower, ← mul_div_assoc, div_le_div_iff₀ (by positivity) hden']
  exact hcast

theorem neighbour?_spec {e : Int} (h : i.neighbour? e = some c) :
    i.contains c = true ∧ c.digits ≠ 0 := by
  rw [neighbour?] at h
  split at h
  · rename_i hlower hupper
    rw [Bool.and_eq_true, bne_iff_ne] at hlower
    split at h
    · cases h
      exact hlower
    · cases h
      exact ⟨hupper, Nat.succ_ne_zero _⟩
  · rename_i hlower _
    rw [Bool.and_eq_true, bne_iff_ne] at hlower
    cases h
    exact hlower
  · rename_i _ hupper
    cases h
    exact ⟨hupper, Nat.succ_ne_zero _⟩
  · cases h

theorem firstHit_spec (i : RoundingInterval) (e : Int) (tries : Nat) :
    i.firstHit e tries = ⟨0, 0⟩ ∨
      i.contains (i.firstHit e tries) = true ∧ (i.firstHit e tries).digits ≠ 0 := by
  induction tries generalizing e with
  | zero => exact .inl rfl
  | succ tries ih =>
    rw [firstHit]
    cases hneighbour : i.neighbour? e with
    | none => exact ih (e - 1)
    | some c => exact .inr (neighbour?_spec hneighbour)

end RoundingInterval

namespace Binary64

/-- A double of 64 bits, in its canonical form or not. -/
structure Proper (x : Binary64) : Prop where
  mantissa_lt : x.mantissa < powerOfTwo 53
  least : minExponent ≤ x.exponent
  greatest : x.exponent ≤ maxExponent

variable {x : Binary64}

theorem interval_denominator_pos (x : Binary64) : 0 < x.interval.denominator :=
  Nat.mul_pos (by decide) (toRatio_pos _)

/-- Half a step above the double. -/
theorem interval_high (x : Binary64) :
    (x.interval.high : ℚ) / x.interval.denominator = (x.mantissa + 1 / 2) * 2 ^ x.exponent := by
  have hstep := toRatio_div { x with mantissa := 1 }
  have hpos := toRatio_pos { x with mantissa := 1 }
  have hhigh : x.interval.high = (4 * x.mantissa + 2) * (toRatio { x with mantissa := 1 }).1 := rfl
  have hden : x.interval.denominator = 4 * (toRatio { x with mantissa := 1 }).2 := rfl
  rw [magnitude, Nat.cast_one, one_mul] at hstep
  rw [hhigh, hden, ← hstep]
  generalize toRatio { x with mantissa := 1 } = step at hpos
  have hne : (step.2 : ℚ) ≠ 0 := Nat.cast_ne_zero.2 hpos.ne'
  push_cast
  field_simp
  ring

theorem shortest_spec (x : Binary64) : x.shortest = ⟨0, 0⟩ ∨
    x.shortest.digits ≠ 0 ∧ x.shortest.magnitude ≤ (x.mantissa + 1 / 2) * 2 ^ x.exponent := by
  rw [← interval_high, shortest]
  rcases x.interval.firstHit_spec _ 20 with hnone | ⟨hcontains, hdigits⟩
  · exact .inl hnone
  · exact .inr ⟨hdigits, RoundingInterval.le_of_contains x.interval_denominator_pos hcontains⟩

theorem shortest_zero (h : x.shortest.digits = 0) : x.shortest.exponent = 0 := by
  rcases x.shortest_spec with hzero | ⟨hdigits, -⟩
  · rw [hzero]
  · exact absurd h hdigits

/-- All but the largest doubles leave room for the errors of reading. -/
theorem shortest_le_roof (hx : x.Proper)
    (h : x.exponent < maxExponent ∨ x.mantissa + 3 < powerOfTwo 53) :
    x.shortest.magnitude ≤ roof := by
  rcases x.shortest_spec with hzero | ⟨-, hle⟩
  · rw [hzero, Decimal.magnitude, roof]
    norm_num
  · refine hle.trans ?_
    rw [roof]
    rcases h with hexponent | hmantissa
    · have hstep : (2 : ℚ) ^ x.exponent ≤ 2 ^ 970 := by
        rw [← zpow_natCast]
        exact zpow_le_zpow_right₀ one_le_two (Int.le_of_lt_add_one hexponent)
      have hmantissa : (x.mantissa : ℚ) ≤ 2 ^ 53 := by
        rw [← powerOfTwo_cast]
        exact_mod_cast hx.mantissa_lt.le
      exact mul_le_mul (by linarith) hstep (by positivity) (by norm_num)
    · have hstep : (2 : ℚ) ^ x.exponent ≤ 2 ^ 970 * 2 := by
        rw [← pow_succ, ← zpow_natCast]
        exact zpow_le_zpow_right₀ one_le_two hx.greatest
      have hmantissa' : (x.mantissa : ℚ) + 4 ≤ 2 ^ 53 := by
        rw [← powerOfTwo_cast]
        exact_mod_cast hmantissa
      generalize (2 : ℚ) ^ 970 = step at *
      calc ((x.mantissa : ℚ) + 1 / 2) * 2 ^ x.exponent
          ≤ (2 ^ 53 - 7 / 2) * (step * 2) :=
            mul_le_mul (by linarith) hstep (by positivity) (by norm_num)
        _ = (2 ^ 54 - 7) * step := by ring

/-! ### The largest doubles -/

/-- The mantissas of the three largest doubles, and their digits. -/
def largest : List (Nat × Nat) :=
  [(9007199254740991, 17976931348623157), (9007199254740990, 17976931348623155),
    (9007199254740989, 17976931348623153)]

theorem shortest_largest (negative : Bool) {p : Nat × Nat} (hp : p ∈ largest) :
    (⟨negative, p.1, maxExponent⟩ : Binary64).shortest = ⟨p.2, 292⟩ := by
  have hwhole : ∀ p ∈ largest, ∀ negative : Bool,
      let i := (⟨negative, p.1, maxExponent⟩ : Binary64).interval
      let whole := i.value / i.denominator
      0 < whole ∧ powerOfTen 308 ≤ whole ∧ whole < powerOfTen 309 := by
    decide +kernel
  have hhit : ∀ p ∈ largest, ∀ negative : Bool,
      (⟨negative, p.1, maxExponent⟩ : Binary64).interval.firstHit 309 20 = ⟨p.2, 292⟩ := by
    decide +kernel
  obtain ⟨hpos, hlow, hhigh⟩ := hwhole p hp negative
  rw [shortest, length_decimal_eq hlow hhigh, if_pos hpos]
  exact hhit p hp negative

theorem ofScaled_largest (negative : Bool) {p : Nat × Nat} (hp : p ∈ largest) :
    ∃ x, ofScaled negative p.2 292 = .ok (.float x) := by
  have hread : ∀ p ∈ largest,
      ((ofNat p.2).bind fun x => x.mul (ofPowerOfTen 292)).isSome = true := by
    decide +kernel
  obtain ⟨x, hx⟩ := Option.isSome_iff_exists.1 (hread p hp)
  have htimes (x : Binary64) : x.timesPowerOfTen 292 = x.mul (ofPowerOfTen 292) := by
    rw [timesPowerOfTen, if_pos (by decide), if_pos (by decide)]
    rfl
  refine ⟨x.withSign negative, ?_⟩
  rw [ofScaled]
  simp only [htimes, hx]

end Binary64

/-! ## All numbers -/

namespace Number

/-- The numbers that a value can have: whole numbers of 64 bits, and doubles. -/
def Proper : Number → Prop
  | .int i => -(powerOfTwo 63 : Int) ≤ i ∧ i < powerOfTwo 64
  | .float x => x.Proper

theorem text_float (x : Binary64) : (Number.float x).text =
    (if x.negative then ['-'] else []) ++
      (if x.isZero then ⟨0, 0⟩ else x.shortest : Decimal).text := by
  have hzero : (⟨0, 0⟩ : Decimal).text = ['0', '.', '0'] := by
    simp [Decimal.text, decimal, digitChar, minPositional, maxPositional]
  rw [text, Binary64.text]
  cases x.isZero <;> cases x.negative <;> simp [hzero]

theorem readable_of_written {x : Binary64} {c : Decimal} {n : Numeral} {zeros : Nat}
    (h : c.WrittenAs n zeros)
    (htext : (Number.float x).text = (if n.negative then ['-'] else []) ++ c.text)
    (hvalue : ∃ y, n.value = .ok (.float y)) : (Number.float x).Readable where
  legible := legible_of_text h.wellFormed (htext.trans h.text.symm)
  inRange := by
    obtain ⟨y, hy⟩ := hvalue
    rw [numeral_eq h.wellFormed (htext.trans h.text.symm)]
    exact ⟨_, hy⟩

/-- The largest doubles have 17 digits and are written with an exponent. -/
theorem readable_largest (negative : Bool) {p : Nat × Nat} (hp : p ∈ Binary64.largest) :
    (Number.float ⟨negative, p.1, Binary64.maxExponent⟩).Readable := by
  have hbounds : ∀ p ∈ Binary64.largest,
      p.1 ≠ 0 ∧ powerOfTen 16 ≤ p.2 ∧ p.2 < powerOfTen 17 ∧ p.2 < powerOfTwo 64 := by decide
  obtain ⟨hmantissa, hlow, hhigh, hfits⟩ := hbounds p hp
  have hpoint : (⟨p.2, 292⟩ : Decimal).point - 1 = Binary64.maxPower := by
    rw [Decimal.point, length_decimal_eq hlow hhigh]
    rfl
  have hscientific : ¬(⟨p.2, 292⟩ : Decimal).Positional := by
    rw [Decimal.Positional, hpoint]
    decide
  have hwritten := Decimal.written_scientific negative hscientific
  refine readable_of_written hwritten ?_
    (hwritten.value_eq_ok_of_fits hpoint.le hfits (Binary64.ofScaled_largest negative hp))
  rw [text_float, Binary64.shortest_largest negative hp, Binary64.isZero,
    beq_false_of_ne hmantissa]
  rfl

theorem readable_float {x : Binary64} (hx : x.Proper) : (Number.float x).Readable := by
  by_cases hlargest : x.exponent = Binary64.maxExponent ∧ powerOfTwo 53 ≤ x.mantissa + 3
  · obtain ⟨hexponent, hmantissa⟩ := hlargest
    have hmem : ∃ p ∈ Binary64.largest, p.1 = x.mantissa := by
      have hlt := hx.mantissa_lt
      have hpower : powerOfTwo 53 = 9007199254740992 := by decide
      simp only [Binary64.largest, List.mem_cons, List.not_mem_nil, or_false, exists_eq_or_imp,
        exists_eq_left]
      omega
    obtain ⟨p, hp, hp'⟩ := hmem
    have hx : x = ⟨x.negative, p.1, Binary64.maxExponent⟩ := by rw [hp', ← hexponent]
    rw [hx]
    exact readable_largest x.negative hp
  · have hroom : x.exponent < Binary64.maxExponent ∨ x.mantissa + 3 < powerOfTwo 53 := by
      have := hx.greatest
      omega
    generalize hc : (if x.isZero then ⟨0, 0⟩ else x.shortest : Decimal) = c
    have hzero : c.digits = 0 → c.exponent = 0 := by
      rw [← hc]
      split
      · exact fun _ => rfl
      · exact Binary64.shortest_zero
    have hroof : c.magnitude ≤ Binary64.roof := by
      rw [← hc]
      split
      · rw [Decimal.magnitude, Nat.cast_zero, zero_mul, Binary64.roof]
        exact mul_nonneg (by norm_num) (by positivity)
      · exact Binary64.shortest_le_roof hx hroom
    obtain ⟨n, zeros, hnegative, hwritten⟩ := Decimal.exists_written x.negative hzero
    refine readable_of_written hwritten ?_ (hwritten.value_eq_ok hzero hroof)
    rw [text_float, hc, hnegative]

/-- **Every number is read again.** -/
theorem Proper.readable {n : Number} (h : n.Proper) : n.Readable := by
  cases n with
  | int i => exact readable_int h.1 h.2
  | float x => exact readable_float h

end Number

end FrameTree.Json

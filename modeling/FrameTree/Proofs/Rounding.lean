import FrameTree.Json.Numeral
import Mathlib.Algebra.Order.Field.Power
import Mathlib.Algebra.Order.Field.Rat
import Mathlib.Tactic.FieldSimp
import Mathlib.Tactic.Linarith
import Mathlib.Tactic.NormNum
import Mathlib.Tactic.Positivity
import Mathlib.Tactic.Ring

/-!
# How far rounding goes

Quotients of naturals are rounded to doubles. The exact value of a double is a rational number
(`Json.Binary64.magnitude`), and what is said about rounding is said about that.

**Rounding** (`Json.Binary64.ofRatio_spec`). A quotient below the limit is rounded to a double,
which differs from it by the 2 ^ 53rd part of it at most, or by half of the least double.

**Powers of ten** (`Json.Binary64.ofScaled_eq_ok`). A significand that is multiplied by a power of
ten is rounded three times. The errors add up, so the product has to stay some steps below the
limit. A division never ends above it.

Main result: `Json.Binary64.ofScaled_eq_ok`.
-/

namespace FrameTree.Json

theorem powerOfTwo_cast (k : Nat) : (powerOfTwo k : ℚ) = 2 ^ k := by
  rw [powerOfTwo]
  norm_num

theorem powerOfTen_cast (k : Nat) : (powerOfTen k : ℚ) = 10 ^ k := by
  rw [powerOfTen]
  norm_num

theorem powerOfTwo_pos (k : Nat) : 0 < powerOfTwo k := Nat.pow_pos (by decide)

/-- The rounded quotient is half a step away at most. -/
theorem roundQuotient_near (n : Nat) {d : Nat} (hd : 0 < d) :
    |(roundQuotient n d : ℚ) - n / d| ≤ 1 / 2 := by
  have hd' : (0 : ℚ) < d := Nat.cast_pos.2 hd
  have hsplit : (n : ℚ) / d = (n / d : Nat) + (n % d : Nat) / d := by
    have hn : (n : ℚ) = d * (n / d : Nat) + (n % d : Nat) := by
      exact_mod_cast (Nat.div_add_mod n d).symm
    rw [div_eq_iff hd'.ne', add_mul, div_mul_cancel₀ _ hd'.ne', mul_comm]
    exact hn
  have hlow : (0 : ℚ) ≤ (n % d : Nat) / d := by positivity
  have hhigh : ((n % d : Nat) : ℚ) / d < 1 := by
    rw [div_lt_one hd']
    exact_mod_cast Nat.mod_lt n hd
  rw [hsplit, roundQuotient, abs_le]
  split
  · rename_i hup
    have hhalf : (1 : ℚ) / 2 < (n % d : Nat) / d := by
      rw [div_lt_div_iff₀ two_pos hd', one_mul]
      exact_mod_cast (by omega : d < n % d * 2)
    push_cast
    constructor <;> linarith
  · split
    · rename_i htie
      have hhalf : ((n % d : Nat) : ℚ) / d = 1 / 2 := by
        rw [div_eq_div_iff hd'.ne' two_ne_zero, one_mul]
        exact_mod_cast (by rw [beq_iff_eq] at htie; omega : n % d * 2 = d)
      rcases Nat.mod_two_eq_zero_or_one (n / d) with heven | hodd
      · rw [heven, hhalf]
        push_cast
        constructor <;> linarith
      · rw [hodd, hhalf]
        push_cast
        constructor <;> linarith
    · rename_i hup _
      have hhalf : ((n % d : Nat) : ℚ) / d ≤ 1 / 2 := by
        rw [div_le_div_iff₀ hd' two_pos, one_mul]
        exact_mod_cast (by omega : n % d * 2 ≤ d)
      constructor <;> linarith

namespace Binary64

/-- The exact value without the sign. -/
def magnitude (x : Binary64) : ℚ := x.mantissa * 2 ^ x.exponent

theorem magnitude_nonneg (x : Binary64) : 0 ≤ x.magnitude := by
  rw [magnitude]
  positivity

section

variable {num den : Nat}

theorem scaled_pos (num : Nat) {den : Nat} (hden : 0 < den) (e : Int) :
    0 < (scaled num den e).2 := by
  rw [scaled]
  split
  · exact Nat.mul_pos hden (powerOfTwo_pos _)
  · exact hden

theorem scaled_div (num den : Nat) (e : Int) :
    ((scaled num den e).1 : ℚ) / (scaled num den e).2 = num / den / 2 ^ e := by
  rw [scaled]
  split
  · rename_i he
    obtain ⟨k, rfl⟩ := Int.eq_ofNat_of_zero_le he
    rw [Int.toNat_natCast, Nat.cast_mul, powerOfTwo_cast, zpow_natCast, div_div]
  · rename_i he
    obtain ⟨k, hk⟩ := Int.eq_ofNat_of_zero_le (a := -e) (by omega)
    obtain rfl : e = -(k : Int) := by omega
    rw [neg_neg, Int.toNat_natCast, Nat.cast_mul, powerOfTwo_cast, zpow_neg, zpow_natCast,
      div_inv_eq_mul, mul_div_right_comm]

/-- The exponent at which the quotient has 53 bits, or the least one. -/
def exponentOf (num den : Nat) : Int :=
  let guess : Int := max minExponent ((num.log2 : Int) - den.log2 - 53)
  let (n, d) := scaled num den guess
  if n / d < powerOfTwo 53 then guess else guess + 1

/-- The double with a mantissa that was rounded. -/
def pack (negative : Bool) (m : Nat) (e : Int) : Option Binary64 :=
  let (m, e) := if m == powerOfTwo 53 then (powerOfTwo 52, e + 1) else (m, e)
  if m == 0 then some (zero negative)
  else if e > maxExponent then none
  else some ⟨negative, m, e⟩

theorem ofRatio_eq_pack (negative : Bool) (hnum : num ≠ 0) (den : Nat) :
    ofRatio negative num den =
      pack negative (roundQuotient (scaled num den (exponentOf num den)).1
        (scaled num den (exponentOf num den)).2) (exponentOf num den) := by
  rw [ofRatio, if_neg (by simpa using hnum)]
  rfl

theorem quotient_bounds (hnum : num ≠ 0) (hden : den ≠ 0) :
    (2 : ℚ) ^ ((num.log2 : Int) - den.log2 - 1) < num / den ∧
      (num : ℚ) / den < 2 ^ ((num.log2 : Int) - den.log2 + 1) := by
  have hnumLow : (2 : ℚ) ^ num.log2 ≤ num := by exact_mod_cast Nat.log2_self_le hnum
  have hnumHigh : (num : ℚ) < 2 ^ (num.log2 + 1) := by exact_mod_cast Nat.lt_log2_self
  have hdenLow : (2 : ℚ) ^ den.log2 ≤ den := by exact_mod_cast Nat.log2_self_le hden
  have hdenHigh : (den : ℚ) < 2 ^ (den.log2 + 1) := by exact_mod_cast Nat.lt_log2_self
  have hden' : (0 : ℚ) < den := by exact_mod_cast Nat.pos_of_ne_zero hden
  have hlow : (2 : ℚ) ^ ((num.log2 : Int) - den.log2 - 1) = 2 ^ num.log2 / 2 ^ (den.log2 + 1) := by
    rw [← zpow_natCast, ← zpow_natCast, ← zpow_sub₀ two_ne_zero]
    congr 1
    push_cast
    ring
  have hhigh : (2 : ℚ) ^ ((num.log2 : Int) - den.log2 + 1) = 2 ^ (num.log2 + 1) / 2 ^ den.log2 := by
    rw [← zpow_natCast, ← zpow_natCast, ← zpow_sub₀ two_ne_zero]
    congr 1
    push_cast
    ring
  rw [hlow, hhigh]
  constructor
  · exact div_lt_div₀' hnumLow hdenHigh (by positivity) hden'
  · exact div_lt_div₀ hnumHigh hdenLow (by positivity) (by positivity)

/-- The quotient has 53 bits before the point, or fewer at the least exponent. -/
theorem exponentOf_spec (hnum : num ≠ 0) (hden : den ≠ 0) :
    minExponent ≤ exponentOf num den ∧ (num : ℚ) / den / 2 ^ exponentOf num den < 2 ^ 53 ∧
      (exponentOf num den = minExponent ∨
        2 ^ 52 ≤ (num : ℚ) / den / 2 ^ exponentOf num den) := by
  obtain ⟨hlow, hhigh⟩ := quotient_bounds hnum hden
  generalize hguess : max minExponent ((num.log2 : Int) - den.log2 - 53) = guess
  have hpos : (0 : ℚ) < 2 ^ guess := by positivity
  have hd := scaled_pos num (Nat.pos_of_ne_zero hden) guess
  have hfloor : (scaled num den guess).1 / (scaled num den guess).2 < powerOfTwo 53 ↔
      (num : ℚ) / den / 2 ^ guess < 2 ^ 53 := by
    have hd' : (0 : ℚ) < (scaled num den guess).2 := Nat.cast_pos.2 hd
    rw [← scaled_div, Nat.div_lt_iff_lt_mul hd, div_lt_iff₀ hd', ← powerOfTwo_cast]
    exact_mod_cast Iff.rfl
  have hexponent : exponentOf num den =
      if (num : ℚ) / den / 2 ^ guess < 2 ^ 53 then guess else guess + 1 := by
    rw [exponentOf, hguess]
    exact if_congr hfloor rfl rfl
  rw [hexponent]
  by_cases hfits : (num : ℚ) / den / 2 ^ guess < 2 ^ 53
  · rw [if_pos hfits]
    refine ⟨by omega, hfits, ?_⟩
    by_cases hleast : guess = minExponent
    · exact .inl hleast
    · right
      have hguess' : guess = (num.log2 : Int) - den.log2 - 53 := by omega
      rw [le_div_iff₀ hpos, hguess', ← zpow_natCast, ← zpow_add₀ two_ne_zero]
      refine le_of_lt (lt_of_eq_of_lt ?_ hlow)
      congr 1
      push_cast
      ring
  · rw [if_neg hfits]
    rw [not_lt] at hfits
    have hstep : (2 : ℚ) ^ (guess + 1) = 2 ^ guess * 2 := zpow_add_one₀ two_ne_zero guess
    refine ⟨by omega, ?_, .inr ?_⟩
    · rw [div_lt_iff₀ (by positivity), ← zpow_natCast, ← zpow_add₀ two_ne_zero]
      exact hhigh.trans_le (zpow_le_zpow_right₀ one_le_two (by push_cast; omega))
    · rw [hstep, ← div_div, le_div_iff₀ two_pos]
      exact le_trans (by norm_num) hfits

/-- A mantissa is packed without loss, if the double is not too large. -/
theorem pack_spec (negative : Bool) {m : Nat} {e : Int}
    (hnormal : e = minExponent ∨ 2 ^ 52 ≤ m) (hsmall : (m : ℚ) * 2 ^ e < 2 ^ 54 * 2 ^ 970) :
    ∃ x, pack negative m e = some x ∧ x.magnitude = m * 2 ^ e := by
  have hexponent {k : Nat} (hk : 2 ^ k ≤ m) : e + k < 1024 := by
    have hpower : (2 : ℚ) ^ (k : Int) * 2 ^ e ≤ m * 2 ^ e := by
      rw [zpow_natCast]
      exact mul_le_mul_of_nonneg_right (by exact_mod_cast hk) (by positivity)
    have hlt := hpower.trans_lt hsmall
    rw [← pow_add, ← zpow_natCast, ← zpow_add₀ two_ne_zero,
      zpow_lt_zpow_iff_right₀ one_lt_two] at hlt
    push_cast at hlt
    omega
  by_cases htop : m = powerOfTwo 53
  · have he := hexponent (le_of_eq htop.symm : 2 ^ 53 ≤ m)
    have hpack : pack negative m e = some ⟨negative, powerOfTwo 52, e + 1⟩ := by
      rw [pack, if_pos (beq_iff_eq.2 htop)]
      dsimp only
      rw [if_neg (by decide), if_neg (by simp only [maxExponent]; push_cast at he; omega)]
    refine ⟨_, hpack, ?_⟩
    rw [magnitude, htop, powerOfTwo_cast, powerOfTwo_cast, zpow_add_one₀ two_ne_zero]
    ring
  · have hpack : pack negative m e = if m == 0 then some (zero negative)
        else if e > maxExponent then none else some ⟨negative, m, e⟩ := by
      rw [pack, if_neg (mt beq_iff_eq.1 htop)]
    rw [hpack]
    by_cases hzero : m = 0
    · refine ⟨zero negative, if_pos (beq_iff_eq.2 hzero), ?_⟩
      rw [hzero, magnitude, zero]
      push_cast
      ring
    · have he : ¬e > maxExponent := by
        rcases hnormal with rfl | hnormal
        · decide
        · have := hexponent hnormal
          simp only [maxExponent]
          push_cast at this
          omega
      exact ⟨_, by rw [if_neg (mt beq_iff_eq.1 hzero), if_neg he], rfl⟩

/-- Quotients below it are rounded to a double. -/
def limit : ℚ := (2 ^ 54 - 1) * 2 ^ 970

/-- **Rounding.** The error is relative, down to the least double. -/
theorem ofRatio_spec (negative : Bool) (hden : den ≠ 0) (hlimit : (num : ℚ) / den < limit) :
    ∃ x, ofRatio negative num den = some x ∧
      |x.magnitude - num / den| ≤ max ((num : ℚ) / den / 2 ^ 53) (1 / 2 ^ 1075) := by
  by_cases hnum : num = 0
  · subst hnum
    refine ⟨zero negative, rfl, ?_⟩
    rw [magnitude, zero]
    norm_num
  · obtain ⟨hleast, hbits, hnormal⟩ := exponentOf_spec hnum hden
    rw [ofRatio_eq_pack negative hnum]
    have hnear := roundQuotient_near (scaled num den (exponentOf num den)).1
      (scaled_pos num (Nat.pos_of_ne_zero hden) (exponentOf num den))
    rw [scaled_div] at hnear
    generalize exponentOf num den = e at *
    generalize roundQuotient _ _ = m at *
    generalize (num : ℚ) / den = q at *
    have hpos : (0 : ℚ) < 2 ^ e := by positivity
    have hq : q = q / 2 ^ e * 2 ^ e := (div_mul_cancel₀ q hpos.ne').symm
    have hmnormal : e = minExponent ∨ 2 ^ 52 ≤ m := by
      refine hnormal.imp_right fun hnormal => ?_
      have hm : (2 : ℚ) ^ 52 < m + 1 := by
        rw [abs_le] at hnear
        linarith
      exact Nat.lt_succ_iff.1 (by exact_mod_cast hm)
    have hqnormal : e = minExponent ∨ 2 ^ 52 * 2 ^ e ≤ q :=
      hnormal.imp_right (le_div_iff₀ hpos).1
    -- Rounding moves the quotient by half a step.
    have herror : |m * 2 ^ e - q| ≤ 2 ^ e / 2 := by
      have hsplit : m * 2 ^ e - q = (m - q / 2 ^ e) * 2 ^ e := by rw [sub_mul, ← hq]
      rw [hsplit, abs_mul, abs_of_pos hpos]
      linarith [mul_le_mul_of_nonneg_right hnear hpos.le]
    have hstep : (2 : ℚ) ^ e / 2 ≤ max (q / 2 ^ 53) (1 / 2 ^ 1075) := by
      rcases hqnormal with rfl | hqnormal
      · have hleast : (2 : ℚ) ^ minExponent / 2 = 1 / 2 ^ 1075 := by
          rw [minExponent, zpow_neg, zpow_ofNat, inv_eq_one_div, div_div, ← pow_succ]
        exact le_max_of_le_right hleast.le
      · refine le_max_of_le_left ?_
        linarith
    have hsmall : (m : ℚ) * 2 ^ e < 2 ^ 54 * 2 ^ 970 := by
      rw [limit, sub_mul, one_mul] at hlimit
      by_cases he : e ≤ 971
      · have hhalf : (2 : ℚ) ^ e ≤ 2 ^ 970 * 2 := by
          rw [← pow_succ, ← zpow_natCast]
          exact zpow_le_zpow_right₀ one_le_two he
        rw [abs_le] at herror
        generalize (2 : ℚ) ^ 970 = step at *
        linarith
      · exfalso
        have hhuge : (2 : ℚ) ^ 970 * 4 ≤ 2 ^ e := by
          rw [show (4 : ℚ) = 2 ^ 2 by norm_num, ← pow_add, ← zpow_natCast]
          exact zpow_le_zpow_right₀ one_le_two (by push_cast; omega)
        rcases hqnormal with rfl | hqnormal
        · exact he (by decide)
        · have hstep : (0 : ℚ) < 2 ^ 970 := by positivity
          generalize (2 : ℚ) ^ 970 = step at *
          linarith
    obtain ⟨x, hx, hmagnitude⟩ := pack_spec negative hmnormal hsmall
    exact ⟨x, hx, hmagnitude ▸ herror.trans hstep⟩

end

/-! ## Products and quotients -/

theorem toRatio_pos (x : Binary64) : 0 < x.toRatio.2 := by
  rw [toRatio]
  split
  · exact Nat.one_pos
  · exact powerOfTwo_pos _

theorem toRatio_div (x : Binary64) : (x.toRatio.1 : ℚ) / x.toRatio.2 = x.magnitude := by
  rw [toRatio, magnitude]
  split
  · rename_i he
    obtain ⟨k, hk⟩ := Int.eq_ofNat_of_zero_le he
    rw [hk, Int.toNat_natCast, Nat.cast_mul, powerOfTwo_cast, zpow_natCast, Nat.cast_one, div_one]
  · rename_i he
    obtain ⟨k, hk⟩ := Int.eq_ofNat_of_zero_le (a := -x.exponent) (by omega)
    rw [hk, Int.toNat_natCast, powerOfTwo_cast, ← neg_neg x.exponent, hk, zpow_neg, zpow_natCast,
      div_eq_mul_inv]

variable {x y : Binary64}

theorem mul_spec (h : x.magnitude * y.magnitude < limit) : ∃ z, x.mul y = some z := by
  have hden : x.toRatio.2 * y.toRatio.2 ≠ 0 :=
    (Nat.mul_pos x.toRatio_pos y.toRatio_pos).ne'
  have hquotient : ((x.toRatio.1 * y.toRatio.1 : Nat) : ℚ) / (x.toRatio.2 * y.toRatio.2 : Nat) =
      x.magnitude * y.magnitude := by
    rw [← toRatio_div, ← toRatio_div, div_mul_div_comm, Nat.cast_mul, Nat.cast_mul]
  obtain ⟨z, hz, -⟩ := ofRatio_spec x.negative hden (hquotient ▸ h)
  exact ⟨z, hz⟩

theorem div_spec (hy : 0 < y.magnitude) (h : x.magnitude / y.magnitude < limit) :
    ∃ z, x.div y = some z ∧ |z.magnitude - x.magnitude / y.magnitude| ≤
      max (x.magnitude / y.magnitude / 2 ^ 53) (1 / 2 ^ 1075) := by
  have hnum : y.toRatio.1 ≠ 0 := by
    intro hzero
    rw [← toRatio_div, hzero, Nat.cast_zero, zero_div] at hy
    exact hy.false
  have hden : x.toRatio.2 * y.toRatio.1 ≠ 0 := Nat.mul_ne_zero x.toRatio_pos.ne' hnum
  have hquotient : ((x.toRatio.1 * y.toRatio.2 : Nat) : ℚ) / (x.toRatio.2 * y.toRatio.1 : Nat) =
      x.magnitude / y.magnitude := by
    rw [← toRatio_div, ← toRatio_div, div_div_div_eq, Nat.cast_mul, Nat.cast_mul]
  obtain ⟨z, hz, herror⟩ := ofRatio_spec x.negative hden (hquotient ▸ h)
  exact ⟨z, hz, hquotient ▸ herror⟩

/-! ## Powers of ten -/

/-- Up to the limit, the error of a natural is relative. -/
theorem ofNat_spec {n : Nat} (h : (n : ℚ) < limit) :
    ∃ x, ofNat n = some x ∧ |x.magnitude - n| ≤ n / 2 ^ 53 := by
  by_cases hzero : n = 0
  · subst hzero
    refine ⟨zero false, rfl, ?_⟩
    rw [magnitude, zero]
    norm_num
  · have hone : (n : ℚ) / (1 : Nat) = n := by rw [Nat.cast_one, div_one]
    obtain ⟨x, hx, herror⟩ := ofRatio_spec false Nat.one_ne_zero (hone.symm ▸ h)
    rw [hone] at herror
    refine ⟨x, hx, herror.trans (max_le le_rfl ?_)⟩
    have hn : (1 : ℚ) ≤ n := by exact_mod_cast Nat.pos_of_ne_zero hzero
    have hpower : (1 : ℚ) / 2 ^ 1075 ≤ 1 / 2 ^ 53 :=
      one_div_le_one_div_of_le (by positivity) (pow_le_pow_right₀ one_le_two (by decide))
    exact hpower.trans (div_le_div_of_nonneg_right hn (by positivity))

theorem powerOfTen_lt_limit : (powerOfTen maxPower : ℚ) < limit := by
  have hnat : powerOfTen maxPower < (2 ^ 54 - 1) * powerOfTwo 970 := by decide +kernel
  have hlimit : limit = ((2 ^ 54 - 1) * powerOfTwo 970 : Nat) := by
    rw [limit, Nat.cast_mul, powerOfTwo_cast]
    norm_num
  rw [hlimit]
  exact_mod_cast hnat

theorem ofPowerOfTen_spec {k : Nat} (hk : k ≤ maxPower) :
    |(ofPowerOfTen k).magnitude - 10 ^ k| ≤ 10 ^ k / 2 ^ 53 := by
  have hpower : (powerOfTen k : ℚ) < limit := by
    refine lt_of_le_of_lt ?_ powerOfTen_lt_limit
    rw [powerOfTen_cast, powerOfTen_cast]
    exact pow_le_pow_right₀ (by norm_num) hk
  obtain ⟨x, hx, herror⟩ := ofNat_spec hpower
  rw [powerOfTen_cast] at herror
  rw [ofPowerOfTen, hx]
  exact herror

theorem lt_limit {q : ℚ} (h : q ≤ 2 ^ 65) : q < limit := by
  refine lt_of_le_of_lt h ?_
  have hsmall : (2 : ℚ) ^ 65 ≤ 2 ^ 970 := pow_le_pow_right₀ one_le_two (by decide)
  have hpos : (0 : ℚ) < 2 ^ 970 := by positivity
  rw [limit]
  generalize (2 : ℚ) ^ 970 = step at *
  linarith

/-- Dividing by a power of ten leaves half of a double at most, or so. -/
theorem div_ofPowerOfTen {k : Nat} (hpos : 0 < k) (hk : k ≤ maxPower) (hx : x.magnitude ≤ 2 ^ 65) :
    ∃ z, x.div (ofPowerOfTen k) = some z ∧ z.magnitude ≤ 2 ^ 65 := by
  have hpower : (10 : ℚ) ≤ 10 ^ k := le_self_pow₀ (by norm_num) (Nat.pos_iff_ne_zero.1 hpos)
  have htwo : 2 ≤ (ofPowerOfTen k).magnitude := by
    have herror := (abs_le.1 (ofPowerOfTen_spec hk)).1
    linarith
  have hquotient : x.magnitude / (ofPowerOfTen k).magnitude ≤ 2 ^ 64 := by
    rw [div_le_iff₀ (by linarith)]
    linarith
  obtain ⟨z, hz, herror⟩ := div_spec (y := ofPowerOfTen k) (by linarith)
    (lt_limit (hquotient.trans (by norm_num)))
  refine ⟨z, hz, ?_⟩
  have hmax : max (x.magnitude / (ofPowerOfTen k).magnitude / 2 ^ 53) (1 / 2 ^ 1075) ≤
      (2 ^ 64 : ℚ) := by
    refine max_le (by linarith) ?_
    exact (div_le_self zero_le_one (one_le_pow₀ one_le_two)).trans (one_le_pow₀ one_le_two)
  have := (abs_le.1 (herror.trans hmax)).2
  linarith

/-- Dividing by powers of ten never ends too large. -/
theorem timesPowerOfTen_neg {e : Int} (he : e < 0) (hx : x.magnitude ≤ 2 ^ 65) :
    ∃ z, x.timesPowerOfTen e = some z := by
  fun_induction timesPowerOfTen x e with
  | case1 | case2 | case3 => omega
  | case4 x e _ hmax =>
    obtain ⟨z, hz, -⟩ := div_ofPowerOfTen (k := (-e).toNat) (by omega) (by omega) hx
    exact ⟨z, hz⟩
  | case5 x => exact ⟨x, rfl⟩
  | case6 x e _ hmax _ ih =>
    obtain ⟨y, hy, hy'⟩ := div_ofPowerOfTen (k := maxPower) (by decide) le_rfl hx
    rw [hy, Option.bind_some]
    exact ih y (by omega) hy'

/-- The largest product that is sure to be read. It leaves room for the errors of both factors. -/
def roof : ℚ := (2 ^ 54 - 7) * 2 ^ 970

theorem roof_lt_powerOfTen : roof < powerOfTen (maxPower + 1) := by
  have hnat : (2 ^ 54 - 7) * powerOfTwo 970 < powerOfTen (maxPower + 1) := by decide +kernel
  have hroof : roof = ((2 ^ 54 - 7) * powerOfTwo 970 : Nat) := by
    rw [roof, Nat.cast_mul, powerOfTwo_cast]
    norm_num
  rw [hroof]
  exact_mod_cast hnat

theorem timesPowerOfTen_ofNat {s k : Nat} (hx : ofNat s = some x)
    (herror : |x.magnitude - s| ≤ s / 2 ^ 53) (h : (s : ℚ) * 10 ^ k ≤ roof) :
    ∃ z, x.timesPowerOfTen k = some z := by
  rw [timesPowerOfTen, if_pos (Int.natCast_nonneg k)]
  by_cases hk : k ≤ maxPower
  · rw [if_pos (Int.ofNat_le.2 hk), Int.toNat_natCast]
    refine mul_spec ?_
    have hpower := (abs_le.1 (ofPowerOfTen_spec hk)).2
    have hfactor := (abs_le.1 herror).2
    calc x.magnitude * (ofPowerOfTen k).magnitude
        ≤ s * (1 + 1 / 2 ^ 53) * (10 ^ k * (1 + 1 / 2 ^ 53)) :=
          mul_le_mul (by linarith) (by linarith) (magnitude_nonneg _) (by positivity)
      _ = s * 10 ^ k * (1 + 1 / 2 ^ 53) ^ 2 := by ring
      _ ≤ roof * (1 + 1 / 2 ^ 53) ^ 2 := mul_le_mul_of_nonneg_right h (by positivity)
      _ < limit := by
        rw [roof, limit, mul_right_comm]
        exact mul_lt_mul_of_pos_right (by norm_num) (by positivity)
  · rw [if_neg (mt Int.ofNat_le.1 hk)]
    have hzero : s = 0 := by
      by_contra hs
      have hone : (1 : ℚ) ≤ s := by exact_mod_cast Nat.pos_of_ne_zero hs
      have hpower : (10 : ℚ) ^ (maxPower + 1) ≤ 10 ^ k :=
        pow_le_pow_right₀ (by norm_num) (by omega)
      have hlarge : (10 : ℚ) ^ k ≤ s * 10 ^ k := le_mul_of_one_le_left (by positivity) hone
      have hroof := roof_lt_powerOfTen
      rw [powerOfTen_cast] at hroof
      exact absurd (hpower.trans (hlarge.trans h)) hroof.not_ge
    subst hzero
    cases hx
    exact ⟨_, rfl⟩

/-- **Reading a significand.** The product of a significand and a power of ten is a double. -/
theorem ofScaled_eq_ok (negative : Bool) {s : Nat} {e : Int} (hs : s < powerOfTwo 64)
    (h : (s : ℚ) * 10 ^ e ≤ roof) : ∃ x, ofScaled negative s e = .ok (.float x) := by
  have hs' : (s : ℚ) ≤ 2 ^ 64 := by
    rw [← powerOfTwo_cast]
    exact_mod_cast hs.le
  obtain ⟨x, hx, herror⟩ := ofNat_spec (lt_limit (hs'.trans (by norm_num)))
  have hz : ∃ z, x.timesPowerOfTen e = some z := by
    by_cases he : e < 0
    · refine timesPowerOfTen_neg he ?_
      have := (abs_le.1 herror).2
      linarith
    · obtain ⟨k, rfl⟩ := Int.eq_ofNat_of_zero_le (not_lt.1 he)
      exact timesPowerOfTen_ofNat hx herror (by exact_mod_cast h)
  obtain ⟨z, hz⟩ := hz
  exact ⟨z.withSign negative, by rw [ofScaled, hx, Option.bind_some, hz]⟩

end Binary64

end FrameTree.Json

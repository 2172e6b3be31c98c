import BenchPlan.Binary64.Basic
import Mathlib.Algebra.Order.Field.Power
import Mathlib.Data.Nat.Log
import Mathlib.Data.Rat.Cast.Order
import Mathlib.Tactic.FieldSimp
import Mathlib.Tactic.Linarith

/-!
# Numbers that need no rounding

A quotient that is a significand times a power of two, in canonical form, is rounded to just that
number (`ofRatio_eq`): the lengths of numerator and denominator leave two exponents for it
(`value_bounds`), and at the right one the quotient is the significand, with nothing left over.
Every number is a decimal, and is what this decimal is read as (`ofDecimal_exactDecimal`).
-/

namespace BenchPlan.Binary64

variable {num den m : Nat} {e : Int}

/-- A quotient that is scaled keeps a positive denominator. -/
lemma scaled_snd_pos (pos : 0 < den) (e : Int) : 0 < (scaled num den e).2 := by
  unfold scaled
  split
  · exact Nat.shiftLeft_pos_iff.2 pos
  · exact pos

/-- Scaling by a power of two divides by it. -/
lemma scaled_mul (num den : Nat) (e : Int) :
    ((scaled num den e).1 : ℚ) * (2 ^ e * den) = num * (scaled num den e).2 := by
  unfold scaled
  split
  · rename_i nonneg
    obtain ⟨k, rfl⟩ := Int.eq_ofNat_of_zero_le nonneg
    simp [Nat.shiftLeft_eq, mul_comm]
  · rename_i negative
    obtain ⟨k, rfl⟩ : ∃ k : Nat, e = -k := ⟨(-e).toNat, by omega⟩
    have power : (2 : ℚ) ^ k ≠ 0 := by positivity
    simp only [neg_neg, Int.toNat_natCast, Nat.shiftLeft_eq, zpow_neg, zpow_natCast]
    push_cast
    field_simp

/-- A quotient, scaled, is its significand if the exponent is the right one. -/
lemma scaled_eq (pos : 0 < den) (value : (num : ℚ) = m * 2 ^ e * den) :
    (scaled num den e).1 = m * (scaled num den e).2 := by
  have h := scaled_mul num den e
  rw [value] at h
  have cast : (den : ℚ) ≠ 0 := by positivity
  have power : (2 : ℚ) ^ e ≠ 0 := by positivity
  field_simp at h
  exact_mod_cast h

/-- The quotient is half of its significand at the next exponent. -/
lemma scaled_succ (pos : 0 < den) (value : (num : ℚ) = m * 2 ^ e * den) :
    (scaled num den (e + 1)).1 * 2 = m * (scaled num den (e + 1)).2 := by
  have h := scaled_mul num den (e + 1)
  rw [value, zpow_add₀ two_ne_zero, zpow_one] at h
  have cast : (den : ℚ) ≠ 0 := by positivity
  have power : (2 : ℚ) ^ e ≠ 0 := by positivity
  field_simp at h
  exact_mod_cast h

/-- The lengths of numerator and denominator leave two powers of two for their quotient. -/
lemma value_bounds (positive : 0 < num) (pos : 0 < den) (value : (num : ℚ) = m * 2 ^ e * den) :
    (2 : ℚ) ^ ((num.log2 : Int) - den.log2 - 1) < m * 2 ^ e ∧
      m * 2 ^ e < (2 : ℚ) ^ ((num.log2 : Int) - den.log2 + 1) := by
  have cast : (0 : ℚ) < den := by exact_mod_cast pos
  have numLow : (2 : ℚ) ^ (num.log2 : Int) ≤ num := by
    exact_mod_cast Nat.log2_self_le positive.ne'
  have numHigh : (num : ℚ) < 2 ^ ((num.log2 : Int) + 1) := by
    exact_mod_cast Nat.lt_log2_self (n := num)
  have denLow : (2 : ℚ) ^ (den.log2 : Int) ≤ den := by
    exact_mod_cast Nat.log2_self_le pos.ne'
  have denHigh : (den : ℚ) < 2 ^ ((den.log2 : Int) + 1) := by
    exact_mod_cast Nat.lt_log2_self (n := den)
  have quotient : (m : ℚ) * 2 ^ e = num / den := by
    rw [value, mul_div_cancel_right₀ _ cast.ne']
  rw [quotient, lt_div_iff₀ cast, div_lt_iff₀ cast]
  constructor
  · calc (2 : ℚ) ^ ((num.log2 : Int) - den.log2 - 1) * den
        < 2 ^ ((num.log2 : Int) - den.log2 - 1) * 2 ^ ((den.log2 : Int) + 1) := by gcongr
      _ = 2 ^ (num.log2 : Int) := by
        rw [← zpow_add₀ two_ne_zero]
        congr 1
        omega
      _ ≤ num := numLow
  · calc (num : ℚ) < 2 ^ ((num.log2 : Int) + 1) := numHigh
      _ = 2 ^ ((num.log2 : Int) - den.log2 + 1) * 2 ^ (den.log2 : Int) := by
        rw [← zpow_add₀ two_ne_zero]
        congr 1
        omega
      _ ≤ 2 ^ ((num.log2 : Int) - den.log2 + 1) * den := by gcongr

/-- A number whose significand is below a power of two is above smaller powers only. -/
lemma exponent_lt {a k : Int} (low : (2 : ℚ) ^ a < m * 2 ^ e) (small : (m : ℚ) < 2 ^ k) :
    a < k + e := by
  have power : (0 : ℚ) < 2 ^ e := by positivity
  refine (zpow_lt_zpow_iff_right₀ one_lt_two).1 (?_ : (2 : ℚ) ^ a < 2 ^ (k + e))
  calc (2 : ℚ) ^ a < m * 2 ^ e := low
    _ < 2 ^ k * 2 ^ e := by gcongr
    _ = 2 ^ (k + e) := (zpow_add₀ two_ne_zero _ _).symm

/-- A number whose significand is not below a power of two is below greater powers only. -/
lemma lt_exponent {a k : Int} (high : (m : ℚ) * 2 ^ e < 2 ^ a) (large : (2 : ℚ) ^ k ≤ m) :
    k + e < a := by
  have power : (0 : ℚ) < 2 ^ e := by positivity
  refine (zpow_lt_zpow_iff_right₀ one_lt_two).1 (?_ : (2 : ℚ) ^ (k + e) < 2 ^ a)
  calc (2 : ℚ) ^ (k + e) = 2 ^ k * 2 ^ e := zpow_add₀ two_ne_zero _ _
    _ ≤ m * 2 ^ e := by gcongr
    _ < 2 ^ a := high

/-- The exponent found for a quotient is that of the number it is equal to. -/
lemma exponentOf_eq (positive : 0 < num) (pos : 0 < den) (canonical : IsCanonical m e)
    (value : (num : ℚ) = m * 2 ^ e * den) : exponentOf num den = e := by
  obtain ⟨small, least, -, full⟩ := canonical
  obtain ⟨low, high⟩ := value_bounds positive pos value
  show max minExponent (if (scaled num den ((num.log2 : Int) - den.log2 - 52)).1 /
    (scaled num den ((num.log2 : Int) - den.log2 - 52)).2 < leastFull then
      (num.log2 : Int) - den.log2 - 52 - 1 else (num.log2 : Int) - den.log2 - 52) = e
  by_cases subnormal : m < leastFull
  · have below : (m : ℚ) < 2 ^ (52 : Int) := by exact_mod_cast subnormal
    have exponents := exponent_lt low below
    have := full subnormal
    split <;> omega
  · have above : (2 : ℚ) ^ (52 : Int) ≤ m := by exact_mod_cast not_lt.1 subnormal
    have below : (m : ℚ) < 2 ^ (53 : Int) := by exact_mod_cast small
    have upper := exponent_lt low below
    have lower := lt_exponent high above
    -- at the next exponent the quotient is half of the significand, and so not full
    obtain same | next : (num.log2 : Int) - den.log2 - 52 = e ∨
      (num.log2 : Int) - den.log2 - 52 = e + 1 := by omega
    · rw [same, scaled_eq pos value, Nat.mul_div_cancel _ (scaled_snd_pos pos e),
        if_neg subnormal, max_eq_right least]
    · have half : (scaled num den (e + 1)).1 / (scaled num den (e + 1)).2 < leastFull := by
        rw [Nat.div_lt_iff_lt_mul (scaled_snd_pos pos _)]
        have double := scaled_succ pos value
        have scale : 0 < (scaled num den (e + 1)).2 := scaled_snd_pos pos (e + 1)
        have bound := Nat.mul_lt_mul_of_pos_right small scale
        rw [Nat.mul_assoc] at bound
        omega
      rw [next, if_pos half, add_sub_cancel_right, max_eq_right least]

/-- A quotient that is a natural number is not rounded. -/
lemma roundHalfEven_mul {b : Nat} (m : Nat) (pos : 0 < b) : roundHalfEven (m * b) b = m := by
  unfold roundHalfEven
  rw [Nat.mul_mod_left, Nat.mul_div_cancel _ pos, if_pos (by omega)]

/-- A quotient that is equal to a number is rounded to it. -/
lemma ofRatio_eq (negative : Bool) (positive : 0 < num) (pos : 0 < den)
    (canonical : IsCanonical m e) (value : (num : ℚ) = m * 2 ^ e * den) :
    ofRatio negative num den = .finite negative m e := by
  have exponent := exponentOf_eq positive pos canonical value
  obtain ⟨small, -, large, -⟩ := canonical
  have rounded : ofRatio negative num den = ofParts negative
      (roundHalfEven (scaled num den (exponentOf num den)).1
        (scaled num den (exponentOf num den)).2) (exponentOf num den) := if_neg positive.ne'
  rw [rounded, exponent, scaled_eq pos value, roundHalfEven_mul m (scaled_snd_pos pos e), ofParts]
  simp only [if_neg small.ne, if_neg (not_lt.2 large)]

/-- A decimal that is equal to a number is read as it. -/
lemma ofDecimal_eq (negative : Bool) {digits places : Nat} (few : places ≤ 1200)
    (canonical : IsCanonical m e) (value : (digits : ℚ) = m * 2 ^ e * 10 ^ places) :
    ofDecimal negative digits (-places) = .finite negative m e := by
  have power : (0 : ℚ) < 2 ^ e := by positivity
  unfold ofDecimal
  by_cases zero : digits = 0
  · have none : m = 0 := by
      subst zero
      have product : (m : ℚ) * 2 ^ e * 10 ^ places = 0 := by exact_mod_cast value.symm
      have factor : (m : ℚ) = 0 := by
        simpa [power.ne'] using product
      exact_mod_cast factor
    subst none
    obtain ⟨-, -, -, full⟩ := canonical
    rw [if_pos zero, full (by decide), Binary64.zero]
  · have positive : 0 < digits := Nat.pos_of_ne_zero zero
    rw [if_neg zero, if_neg (by omega), if_neg (by omega)]
    split
    · rename_i nonneg
      obtain rfl : places = 0 := by omega
      refine ofRatio_eq negative (Nat.mul_pos positive (by decide)) one_pos canonical ?_
      simpa using value
    · refine ofRatio_eq negative positive (Nat.pow_pos (by decide)) canonical ?_
      rw [value]
      simp

/-- The decimal digits of a number in full, and how many of them are behind the point. -/
def exactDecimal (m : Nat) (e : Int) : Nat × Nat :=
  if 0 ≤ e then (m * 2 ^ e.toNat, 0) else (m * 5 ^ (-e).toNat, (-e).toNat)

/-- Every number is a decimal. -/
lemma exactDecimal_value (m : Nat) (e : Int) :
    ((exactDecimal m e).1 : ℚ) = m * 2 ^ e * 10 ^ (exactDecimal m e).2 := by
  unfold exactDecimal
  split
  · rename_i nonneg
    obtain ⟨k, rfl⟩ := Int.eq_ofNat_of_zero_le nonneg
    simp
  · rename_i negative
    obtain ⟨k, rfl⟩ : ∃ k : Nat, e = -k := ⟨(-e).toNat, by omega⟩
    have ten : (10 : ℚ) ^ k = 2 ^ k * 5 ^ k := by
      rw [← mul_pow]
      norm_num
    simp only [neg_neg, Int.toNat_natCast, zpow_neg, zpow_natCast, ten]
    push_cast
    field_simp

/-- The decimal that is equal to a canonical number is read back as it. -/
lemma ofDecimal_exactDecimal (negative : Bool) (canonical : IsCanonical m e) :
    ofDecimal negative (exactDecimal m e).1 (-(exactDecimal m e).2) = .finite negative m e := by
  refine ofDecimal_eq negative ?_ canonical (exactDecimal_value m e)
  obtain ⟨-, least, -⟩ := canonical
  unfold exactDecimal
  unfold minExponent at least
  split
  · exact Nat.zero_le _
  · show (-e).toNat ≤ 1200
    omega

end BenchPlan.Binary64

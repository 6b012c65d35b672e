import Conform.Proofs.Number.Integer
import Conform.Proofs.Number.Rounding
import Mathlib.Algebra.Order.Field.Rat
/-!
The numbers that doubles are, exactly. Magnitudes stand in the order of their places, and a double is an
integer if its magnitude is so many times that of one.
-/

namespace Conform.Double

/-- The number that a finite double is. -/
def value (x : Double) : ℚ :=
  (if x.negative then -1 else 1) * x.significand * 2 ^ ((x.unit : ℤ) - 1074)

variable {x y : Double}

theorem isNaN_of_isFinite (h : x.isFinite = true) : x.isNaN = false := by
  rw [isFinite, decide_eq_true_iff] at h
  rw [isNaN, decide_eq_false_iff_not]
  omega

/-! ## Magnitudes in order -/

theorem unitsInOne_eq : unitsInOne = 2 ^ 1074 := by
  unfold unitsInOne
  -- The power holds for every exponent; for this one it is not computed.
  generalize 1074 = n
  exact Nat.one_shiftLeft n

theorem unitsInOne_pos : 0 < unitsInOne := by
  unfold unitsInOne
  generalize 1074 = n
  rw [Nat.one_shiftLeft]
  exact Nat.two_pow_pos n

theorem magnitude_eq (x : Double) : x.magnitude = x.significand * 2 ^ x.unit :=
  Nat.shiftLeft_eq _ _

theorem magnitude_lt_two_pow (x : Double) : x.magnitude < 2 ^ 52 * 2 ^ x.exponent.val := by
  have hfraction := x.fraction.isLt
  rw [magnitude_eq, significand, unit]
  split
  next hzero =>
    rw [hzero]
    omega
  next hpos =>
    have hpow : 2 ^ x.exponent.val = 2 * 2 ^ (x.exponent.val - 1) := by
      rw [← Nat.pow_succ', show (x.exponent.val - 1).succ = x.exponent.val by omega]
    rw [hpow, ← Nat.mul_assoc]
    exact Nat.mul_lt_mul_of_pos_right (by omega) (Nat.two_pow_pos _)

theorem two_pow_le_magnitude (h : 0 < x.exponent.val) :
    2 ^ 52 * 2 ^ (x.exponent.val - 1) ≤ x.magnitude := by
  rw [magnitude_eq, significand, if_neg (by omega), unit]
  exact Nat.mul_le_mul_right _ (by omega)

/-- Magnitudes come in the order of their places. -/
theorem magnitude_lt (h : x.ordinal < y.ordinal) : x.magnitude < y.magnitude := by
  have hx := x.fraction.isLt
  have hy := y.fraction.isLt
  rw [ordinal, ordinal] at h
  rcases Nat.lt_trichotomy x.exponent.val y.exponent.val with hlt | heq | hgt
  · calc x.magnitude < 2 ^ 52 * 2 ^ x.exponent.val := magnitude_lt_two_pow x
      _ ≤ 2 ^ 52 * 2 ^ (y.exponent.val - 1) :=
        Nat.mul_le_mul_left _ (Nat.pow_le_pow_right (by decide) (by omega))
      _ ≤ y.magnitude := two_pow_le_magnitude (by omega)
  · have hsignificand : x.significand < y.significand := by
      rw [significand, significand, heq]
      split <;> omega
    rw [magnitude_eq, magnitude_eq, unit, unit, heq]
    exact Nat.mul_lt_mul_of_pos_right hsignificand (Nat.two_pow_pos _)
  · omega

theorem magnitude_lt_iff : x.magnitude < y.magnitude ↔ x.ordinal < y.ordinal := by
  refine ⟨fun h => ?_, magnitude_lt⟩
  rcases Nat.lt_trichotomy x.ordinal y.ordinal with hlt | heq | hgt
  · exact hlt
  · have hsame : x.exponent.val = y.exponent.val ∧ x.fraction.val = y.fraction.val := by
      have := x.fraction.isLt
      have := y.fraction.isLt
      rw [ordinal, ordinal] at heq
      omega
    rw [magnitude, magnitude, significand, significand, unit, unit, hsame.1, hsame.2] at h
    exact absurd h (Nat.lt_irrefl _)
  · exact absurd h (Nat.lt_asymm (magnitude_lt hgt))

/-! ## Integers -/

theorem value_mul_unitsInOne (x : Double) :
    x.value * unitsInOne = (withSign x.negative x.magnitude : ℤ) := by
  have hpow : (2 : ℚ) ^ ((x.unit : ℤ) - 1074) * 2 ^ 1074 = 2 ^ x.unit := by
    rw [← zpow_natCast, ← zpow_natCast, ← zpow_add₀ two_ne_zero]
    congr 1
    omega
  have hmagnitude : (x.magnitude : ℚ) = x.significand * 2 ^ x.unit := by
    rw [magnitude_eq]
    push_cast
    rfl
  rw [unitsInOne_eq, Nat.cast_pow, Nat.cast_ofNat, value, mul_assoc, hpow, mul_assoc, ← hmagnitude,
    withSign]
  split
  · rw [Int.cast_neg, Int.cast_natCast, neg_one_mul]
  · rw [Int.cast_natCast, one_mul]

theorem value_eq_iff {n : ℤ} : x.value = n ↔ withSign x.negative x.magnitude = n * unitsInOne := by
  have hpos : (unitsInOne : ℚ) ≠ 0 := Nat.cast_ne_zero.mpr unitsInOne_pos.ne'
  rw [← mul_left_inj' hpos, value_mul_unitsInOne]
  exact_mod_cast Iff.rfl

theorem value_eq_of_magnitude {k : Nat} (h : x.magnitude = k * unitsInOne) :
    x.value = (withSign x.negative k : ℤ) := by
  rw [value_eq_iff, h, withSign, withSign]
  split
  · rw [Nat.cast_mul, Int.neg_mul]
  · rw [Nat.cast_mul]

theorem magnitude_of_value_eq {n : ℤ} (h : x.value = n) : x.magnitude = n.natAbs * unitsInOne := by
  rw [value_eq_iff] at h
  have habs := congrArg Int.natAbs h
  rw [Int.natAbs_mul, Int.natAbs_natCast] at habs
  rw [← habs, withSign]
  split <;> simp

theorem isWhole_iff (h : x.isFinite = true) : x.isWhole = true ↔ ∃ k, x.magnitude = k * unitsInOne := by
  rw [isWhole, h, Bool.true_and, beq_iff_eq, ← Nat.dvd_iff_mod_eq_zero, dvd_iff_exists_eq_mul_left]

theorem toInt64_eq {k : Nat} (hfinite : x.isFinite = true) (h : x.magnitude = k * unitsInOne)
    (hrange : Integer.InRange (withSign x.negative k)) : x.toInt64 = .ofInt (withSign x.negative k) := by
  rw [toInt64, isNaN_of_isFinite hfinite, if_neg Bool.false_ne_true, h,
    Nat.mul_div_cancel k unitsInOne_pos, Integer.saturated_eq hrange]

end Conform.Double

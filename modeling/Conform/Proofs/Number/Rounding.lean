import Conform.Number.Double
import Mathlib.Algebra.Group.Nat.Defs
import Mathlib.Data.Nat.Log
import Mathlib.Order.Compare
/-!
Rounding of integers to doubles. It keeps the order, though not strictly: integers that differ may be
rounded to one double, but none of them up to 2 ^ 53 on either side of zero.
-/

namespace Conform.Double

/-! ## Rounding to an integer -/

theorem roundHalfEven_mul (n : Nat) {den : Nat} (hden : 0 < den) :
    roundHalfEven (n * den) den = n := by
  simp [roundHalfEven, Nat.mul_div_cancel _ hden, hden]

theorem roundHalfEven_mono {num num' : Nat} (h : num ≤ num') (den : Nat) :
    roundHalfEven num den ≤ roundHalfEven num' den := by
  have hfloor : num / den ≤ num' / den := Nat.div_le_div_right h
  have hnum := Nat.div_add_mod num den
  have hnum' := Nat.div_add_mod num' den
  simp only [roundHalfEven]
  rcases Nat.lt_or_eq_of_le hfloor with hlt | heq
  · split <;> split <;> omega
  · rw [heq] at hnum ⊢
    split <;> split <;> omega

/-! ## Natural numbers -/

/-- The leading 53 binary digits of a natural number, rounded. -/
def leading (n : Nat) : Nat := roundHalfEven (n <<< (52 - n.log2)) (1 <<< (n.log2 - 52))

/-- Where a natural number is rounded to, among all magnitudes. -/
def ordinalOf (n : Nat) : Nat := (nearest false n 1).ordinal

section
variable {m n : Nat}

theorem binaryExponent_one (hn : n ≠ 0) : binaryExponent n 1 = n.log2 := by
  have hlog : (1 : Nat).log2 = 0 := by decide
  have hle : 1 <<< n.log2 ≤ n := by
    rw [Nat.one_shiftLeft]
    exact Nat.log2_self_le hn
  simp [binaryExponent, hlog, hle]

theorem ordinalOf_zero : ordinalOf 0 = 0 := by decide

theorem ordinalOf_eq (hn : n ≠ 0) :
    ordinalOf n = min ((n.log2 + 1022) * 0x10000000000000 + leading n) infinityOrdinal := by
  have hunit : max ((n.log2 : Int) - 52) (-1074) = n.log2 - 52 := by omega
  have hleft : (-((n.log2 : Int) - 52)).toNat = 52 - n.log2 := by omega
  have hright : ((n.log2 : Int) - 52).toNat = n.log2 - 52 := by omega
  have hexponent : ((n.log2 : Int) - 52 + 1074).toNat = n.log2 + 1022 := by omega
  simp only [ordinalOf, nearest, hn, ↓reduceIte, ordinal_ofOrdinal, binaryExponent_one hn, hunit,
    hleft, hright, hexponent, leading]

theorem leading_eq (hn : n.log2 ≤ 52) : leading n = n * 2 ^ (52 - n.log2) := by
  have hunit : n.log2 - 52 = 0 := by omega
  have h := roundHalfEven_mul (n * 2 ^ (52 - n.log2)) Nat.one_pos
  rw [Nat.mul_one] at h
  rw [leading, hunit, Nat.shiftLeft_eq, Nat.shiftLeft_zero, h]

theorem leading_bounds (hn : n ≠ 0) : 2 ^ 52 ≤ leading n ∧ leading n ≤ 2 ^ 53 := by
  have hlow := Nat.log2_self_le hn
  have hhigh := Nat.lt_log2_self (n := n)
  rcases Nat.le_total n.log2 52 with hlog | hlog
  · have hpow : 2 ^ n.log2 * 2 ^ (52 - n.log2) = 2 ^ 52 := by
      rw [← Nat.pow_add, Nat.add_sub_cancel' hlog]
    have hlow' := Nat.mul_le_mul_right (2 ^ (52 - n.log2)) hlow
    have hhigh' := Nat.mul_le_mul_right (2 ^ (52 - n.log2)) hhigh.le
    rw [Nat.pow_succ, Nat.mul_right_comm, hpow] at hhigh'
    rw [hpow] at hlow'
    rw [leading_eq hlog]
    exact ⟨hlow', hhigh'⟩
  · have hleft : 52 - n.log2 = 0 := by omega
    have hden : 0 < 2 ^ (n.log2 - 52) := Nat.two_pow_pos _
    have hlow' : 2 ^ 52 * 2 ^ (n.log2 - 52) ≤ n := by
      rwa [← Nat.pow_add, Nat.add_sub_cancel' hlog]
    have hhigh' : n ≤ 2 ^ 53 * 2 ^ (n.log2 - 52) := by
      rw [← Nat.pow_add, show 53 + (n.log2 - 52) = n.log2 + 1 by omega]
      exact hhigh.le
    simp only [leading, hleft, Nat.shiftLeft_zero, Nat.one_shiftLeft]
    constructor
    · calc 2 ^ 52 = roundHalfEven (2 ^ 52 * 2 ^ (n.log2 - 52)) (2 ^ (n.log2 - 52)) :=
          (roundHalfEven_mul _ hden).symm
        _ ≤ _ := roundHalfEven_mono hlow' _
    · calc _ ≤ roundHalfEven (2 ^ 53 * 2 ^ (n.log2 - 52)) (2 ^ (n.log2 - 52)) :=
          roundHalfEven_mono hhigh' _
        _ = 2 ^ 53 := roundHalfEven_mul _ hden

theorem log2_mono (h : m ≤ n) : m.log2 ≤ n.log2 := by
  rw [Nat.log2_eq_log_two, Nat.log2_eq_log_two]
  exact Nat.log_mono_right h

theorem ordinalOf_mono (h : m ≤ n) : ordinalOf m ≤ ordinalOf n := by
  rcases Nat.eq_zero_or_pos m with rfl | hm
  · rw [ordinalOf_zero]
    exact Nat.zero_le _
  · have hm' : m ≠ 0 := by omega
    have hn' : n ≠ 0 := by omega
    rw [ordinalOf_eq hm', ordinalOf_eq hn']
    have hmax := (leading_bounds hm').2
    have hmin := (leading_bounds hn').1
    -- A number with more digits is behind all those with fewer.
    rcases Nat.lt_or_eq_of_le (log2_mono h) with hlt | heq
    · omega
    · have hle : leading m ≤ leading n := by
        unfold leading
        rw [heq]
        refine roundHalfEven_mono ?_ _
        rw [Nat.shiftLeft_eq, Nat.shiftLeft_eq]
        exact Nat.mul_le_mul_right _ h
      omega

theorem leading_lt (hn : n.log2 ≤ 52) : leading n < 2 ^ 53 := by
  have hpow : 2 ^ (n.log2 + 1) * 2 ^ (52 - n.log2) = 2 ^ 53 := by
    rw [← Nat.pow_add, show n.log2 + 1 + (52 - n.log2) = 53 by omega]
  rw [leading_eq hn, ← hpow]
  exact Nat.mul_lt_mul_of_pos_right Nat.lt_log2_self (Nat.two_pow_pos _)

/-- Up to 2 ^ 53 no two natural numbers are rounded to the same place. -/
theorem ordinalOf_lt (h : m < n) (hn : n ≤ 2 ^ 53) : ordinalOf m < ordinalOf n := by
  have hn' : n ≠ 0 := by omega
  have hmin := (leading_bounds hn').1
  have hfinite : n.log2 < 54 := (Nat.log2_lt hn').mpr (by omega)
  rcases Nat.eq_zero_or_pos m with rfl | hm
  · rw [ordinalOf_zero, ordinalOf_eq hn', infinityOrdinal]
    omega
  · have hm' : m ≠ 0 := by omega
    have hlog : m.log2 ≤ 52 := Nat.lt_succ_iff.mp ((Nat.log2_lt hm').mpr (by omega))
    have hmax := leading_lt hlog
    rw [ordinalOf_eq hm', ordinalOf_eq hn', infinityOrdinal]
    rcases Nat.lt_or_eq_of_le (log2_mono h.le) with hlt | heq
    · omega
    · have hlt : leading m < leading n := by
        rw [leading_eq hlog, leading_eq (heq ▸ hlog), heq]
        exact Nat.mul_lt_mul_of_pos_right h (Nat.two_pow_pos _)
      have hmax' := (leading_bounds hn').2
      omega

theorem ordinalOf_le (n : Nat) : ordinalOf n ≤ infinityOrdinal := by
  rcases Nat.eq_zero_or_pos n with rfl | hn
  · rw [ordinalOf_zero]
    exact Nat.zero_le _
  · rw [ordinalOf_eq (by omega)]
    exact Nat.min_le_right _ _

end

/-! ## Integers -/

theorem negative_nearest (negative : Bool) (num den : Nat) :
    (nearest negative num den).negative = negative := by
  unfold nearest
  split <;> rfl

theorem ordinal_nearest_one (negative : Bool) (n : Nat) :
    (nearest negative n 1).ordinal = ordinalOf n := by
  unfold ordinalOf nearest
  split
  · rfl
  · simp only [ordinal_ofOrdinal]

theorem ordinal_ofInt (n : Int) : (ofInt n).ordinal = ordinalOf n.natAbs :=
  ordinal_nearest_one _ _

theorem isNaN_ofInt (n : Int) : (ofInt n).isNaN = false := by
  rw [isNaN, ordinal_ofInt, decide_eq_false_iff_not, Nat.not_lt]
  exact ordinalOf_le _

theorem rank_ofInt (n : Int) : (ofInt n).rank =
    if n < 0 then -(ordinalOf n.natAbs : Int) - 1 else (ordinalOf n.natAbs : Int) := by
  rw [rank, ordinal_ofInt, ofInt, negative_nearest]
  simp only [decide_eq_true_eq]

variable {m n : Int}

/-- Rounding keeps the order. -/
theorem rank_ofInt_mono (h : m ≤ n) : (ofInt m).rank ≤ (ofInt n).rank := by
  rw [rank_ofInt, rank_ofInt]
  by_cases hm : m < 0 <;> by_cases hn : n < 0 <;> simp only [hm, hn, ↓reduceIte]
  · have := ordinalOf_mono (show n.natAbs ≤ m.natAbs by omega)
    omega
  · omega
  · omega
  · have := ordinalOf_mono (show m.natAbs ≤ n.natAbs by omega)
    omega

theorem place_ofInt (n : Int) : (ofInt n).place =
    if n < 0 then -(ordinalOf n.natAbs : Int) else (ordinalOf n.natAbs : Int) := by
  rw [place, ordinal_ofInt, ofInt, negative_nearest]
  simp only [decide_eq_true_eq]

/-- Up to 2 ^ 53 on either side of zero it does so strictly. -/
theorem place_ofInt_lt (h : m < n) (hm : m.natAbs ≤ 2 ^ 53) (hn : n.natAbs ≤ 2 ^ 53) :
    (ofInt m).place < (ofInt n).place := by
  rw [place_ofInt, place_ofInt]
  by_cases hm' : m < 0 <;> by_cases hn' : n < 0 <;> simp only [hm', hn', ↓reduceIte]
  · have := ordinalOf_lt (show n.natAbs < m.natAbs by omega) hm
    omega
  · have := ordinalOf_lt (show 0 < m.natAbs by omega) hm
    omega
  · omega
  · have := ordinalOf_lt (show m.natAbs < n.natAbs by omega) hn
    omega

theorem place_ofInt_injective (hm : m.natAbs ≤ 2 ^ 53) (hn : n.natAbs ≤ 2 ^ 53)
    (h : (ofInt m).place = (ofInt n).place) : m = n := by
  rcases lt_trichotomy m n with hlt | heq | hgt
  · exact absurd h (place_ofInt_lt hlt hm hn).ne
  · exact heq
  · exact absurd h (place_ofInt_lt hgt hn hm).ne'

/-! ## Comparison -/

section
variable {x y z : Double}

theorem compare?_of_numbers (hx : x.isNaN = false) (hy : y.isNaN = false) :
    x.compare? y = some (compare x.place y.place) := by
  rw [compare?, hx, hy]
  rfl

theorem isNaN_of_compare? {o : Ordering} (h : x.compare? y = some o) :
    x.isNaN = false ∧ y.isNaN = false := by
  unfold compare? at h
  split at h
  · cases h
  · simp_all

theorem equal_iff :
    x.equal y = true ↔ x.isNaN = false ∧ y.isNaN = false ∧ x.place = y.place := by
  unfold equal compare?
  cases x.isNaN <;> cases y.isNaN <;> simp

theorem equal_comm (x y : Double) : x.equal y = y.equal x := by
  rw [Bool.eq_iff_iff, equal_iff, equal_iff]
  constructor
  · exact fun ⟨hx, hy, h⟩ => ⟨hy, hx, h.symm⟩
  · exact fun ⟨hy, hx, h⟩ => ⟨hx, hy, h.symm⟩

theorem equal_trans (h : x.equal y = true) (h' : y.equal z = true) : x.equal z = true := by
  rw [equal_iff] at h h' ⊢
  exact ⟨h.1, h'.2.1, h.2.2.trans h'.2.2⟩

/-- Up to 2 ^ 53 on either side of zero, a double is equal to one integer at most. -/
theorem eq_of_equal_ofInt (hm : m.natAbs ≤ 2 ^ 53) (hn : n.natAbs ≤ 2 ^ 53)
    (h : (ofInt m).equal x = true) (h' : (ofInt n).equal x = true) : m = n :=
  place_ofInt_injective hm hn ((equal_iff.mp h).2.2.trans (equal_iff.mp h').2.2.symm)

end

end Conform.Double

import Conform.Number.Double
import Std.Data.String.ToInt
/-!
64-bit integers: what is in their range, and the text that they are read back from.
-/

namespace Conform.Integer

open Double (withSign)

/-! ## Range -/

theorem ofInt?_eq_some {n : Int} (h : InRange n) : ofInt? n = some (.ofInt n) := if_pos h

theorem inRange_toInt (n : Int64) : InRange n.toInt := ⟨n.le_toInt, n.toInt_lt⟩

theorem inRange_byte (b : UInt8) : InRange b.toNat := by
  have := b.toNat_lt
  constructor <;> omega

theorem toInt_ofInt {n : Int} (h : InRange n) : (Int64.ofInt n).toInt = n :=
  Int64.toInt_ofInt_of_le h.1 h.2

theorem saturated_eq {n : Int} (h : InRange n) : saturated n = .ofInt n := by
  obtain ⟨hlow, hhigh⟩ := h
  rw [saturated, Int.min_eq_left (by omega), Int.max_eq_right hlow]

/-! ## Characters -/

def isNumeral (c : Char) : Bool := c.isDigit || c = '-'

theorem isNumeral_of_mem_toDigits {n : Nat} {c : Char} (h : c ∈ Nat.toDigits 10 n) :
    isNumeral c = true :=
  Bool.or_eq_true_iff.mpr (.inl (Nat.isDigit_of_mem_toDigits (by decide) (by decide) h))

/-- An integer is written by digits, behind a minus sign if it is below zero. -/
theorem repr_eq_cons (n : Int) : ∃ c cs, n.repr.toList = c :: cs ∧ ∀ d ∈ c :: cs, isNumeral d := by
  rw [Int.repr_eq_if]
  split
  · obtain ⟨c, cs, hdigits⟩ := List.exists_cons_of_ne_nil (Nat.toDigits_ne_nil (b := 10) (n := n.toNat))
    rw [Nat.toList_repr, hdigits]
    exact ⟨c, cs, rfl, fun d hd => isNumeral_of_mem_toDigits (hdigits ▸ hd)⟩
  · rw [String.toList_append, Nat.toList_repr]
    refine ⟨'-', _, rfl, List.forall_mem_cons.mpr ⟨by decide, fun d hd => ?_⟩⟩
    exact isNumeral_of_mem_toDigits hd

/-! ## Reading back -/

theorem le_ofDigitChars (cs : List Char) (n : Nat) : n ≤ Nat.ofDigitChars 10 cs n := by
  induction cs generalizing n with
  | nil => exact Nat.le_refl n
  | cons c cs ih =>
    rw [Nat.ofDigitChars_cons]
    exact Nat.le_trans (by omega) (ih _)

/-- What lies nearer to zero is in the range too. -/
theorem InRange.withSign_of_le {negative : Bool} {m n : Nat} (h : InRange (withSign negative n))
    (hle : m ≤ n) : InRange (withSign negative m) := by
  cases negative <;> simp only [InRange, withSign, Bool.false_eq_true, ↓reduceIte] at h ⊢ <;> omega

/-- Digits are read to the end if the number that they make is in the range. -/
theorem readDigits_eq {negative : Bool} {cs : List Char} (hdigits : ∀ c ∈ cs, c.isDigit = true) {n : Nat}
    (hrange : InRange (withSign negative (Nat.ofDigitChars 10 cs n))) :
    readDigits negative (withSign negative n) cs =
      .ok (.ofInt (withSign negative (Nat.ofDigitChars 10 cs n))) := by
  induction cs generalizing n with
  | nil => rfl
  | cons c cs ih =>
    obtain ⟨hc, hcs⟩ := List.forall_mem_cons.mp hdigits
    have hlow : '0'.toNat ≤ c.toNat := Char.isDigit_iff_toNat.mp hc |>.1
    rw [Nat.ofDigitChars_cons] at hrange ⊢
    have hnext : (if negative then withSign negative n * 10 - (c.toNat - '0'.toNat)
        else withSign negative n * 10 + (c.toNat - '0'.toNat)) =
        withSign negative (10 * n + (c.toNat - '0'.toNat)) := by
      cases negative <;> simp only [withSign, Bool.false_eq_true, ↓reduceIte] <;> omega
    rw [readDigits, hc, if_neg (by decide)]
    simp only [hnext]
    rw [if_pos (hrange.withSign_of_le (le_ofDigitChars cs _))]
    exact ih hcs hrange

theorem isDigit_of_mem_toDigits {n : Nat} : ∀ c ∈ Nat.toDigits 10 n, c.isDigit = true := fun _ hc =>
  Nat.isDigit_of_mem_toDigits (by decide) (by decide) hc

theorem readDigits_toDigits {negative : Bool} {n : Nat} (h : InRange (withSign negative n)) :
    readDigits negative 0 (Nat.toDigits 10 n) = .ok (.ofInt (withSign negative n)) := by
  have hzero : withSign negative 0 = 0 := by cases negative <;> rfl
  have hread := @readDigits_eq negative _ (isDigit_of_mem_toDigits (n := n)) 0
  rw [Nat.ofDigitChars_ten_toDigits, hzero] at hread
  exact hread h

theorem read_toDigits {n : Nat} (h : InRange (withSign false n)) :
    read (Nat.toDigits 10 n) = .ok (.ofInt n) := by
  obtain ⟨c, cs, htext⟩ := List.exists_cons_of_ne_nil (Nat.toDigits_ne_nil (b := 10) (n := n))
  have hsign : ¬(c = '-' ∨ c = '+') := by
    have hc := isDigit_of_mem_toDigits c (htext ▸ List.mem_cons_self)
    rintro (rfl | rfl) <;> exact absurd hc (by decide)
  rw [htext, read, if_neg hsign, ← htext]
  exact readDigits_toDigits h

theorem read_minus_toDigits {n : Nat} (h : InRange (withSign true n)) :
    read ('-' :: Nat.toDigits 10 n) = .ok (.ofInt (-n)) := by
  have hnonempty : ¬(Nat.toDigits 10 n).isEmpty = true := by
    rw [List.isEmpty_iff]
    exact Nat.toDigits_ne_nil
  rw [read, if_pos (.inl rfl), if_neg hnonempty]
  exact readDigits_toDigits h

/-- An integer is read back from its decimal text. -/
theorem read_repr (m : Int64) : read m.toInt.repr.toList = .ok m := by
  have hrange := inRange_toInt m
  rw [Int.repr_eq_if]
  split
  next hnonneg =>
    have hsigned : ((m.toInt.toNat : Nat) : Int) = m.toInt := Int.toNat_of_nonneg hnonneg
    rw [Nat.toList_repr, read_toDigits (hsigned ▸ hrange), hsigned, Int64.ofInt_toInt]
  next hneg =>
    have hsigned : -((-m.toInt).toNat : Int) = m.toInt := by omega
    have htext : ("-" ++ (-m.toInt).toNat.repr).toList = '-' :: Nat.toDigits 10 (-m.toInt).toNat := by
      rw [String.toList_append, Nat.toList_repr]
      rfl
    have hrange' : InRange (withSign true (-m.toInt).toNat) := by
      rw [withSign, if_pos rfl, hsigned]
      exact hrange
    rw [htext, read_minus_toDigits hrange', hsigned, Int64.ofInt_toInt]

end Conform.Integer

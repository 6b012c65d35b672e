import Conform.Proofs.Number.Exact
import Conform.Proofs.Text.CharClass
import Conform.Session.Check
import Conform.Spec.Build
/-!
Transforms into integers. What comes out is the number that went in: an integer, the integer that a float is
exactly, or the one that a text is in decimal.
-/

namespace Conform

namespace Coercion

open Double (unitsInOne withSign)
open Integer (InRange)

/-! ## The range of floats -/

theorem edge_eq (negative : Bool) : edge negative = ⟨negative, 1086, 0⟩ := by
  cases negative <;> decide +kernel

/-- The edges are written with fewer digits than they have, and rounded to what they are. -/
theorem magnitude_edge (negative : Bool) : (edge negative).magnitude = 2 ^ 63 * unitsInOne := by
  rw [edge_eq]
  cases negative <;> decide +kernel

theorem isNaN_edge (negative : Bool) : (edge negative).isNaN = false := by
  rw [edge_eq]
  cases negative <;> decide +kernel

theorem place_edge (negative : Bool) :
    (edge negative).place = withSign negative (edge false).ordinal := by
  rw [edge_eq, edge_eq]
  cases negative <;> decide +kernel

section
variable {x : Double}

theorem isOutOfRange_iff (h : x.isNaN = false) :
    isOutOfRange x = true ↔ x.place < (edge true).place ∨ (edge false).place ≤ x.place := by
  have hlt : ∀ o : Ordering, [Ordering.lt].contains o = true ↔ o = .lt := by decide
  have hge : ∀ o : Ordering, [Ordering.gt, .eq].contains o = true ↔ o ≠ .lt := by decide
  rw [isOutOfRange, Double.compare?_of_numbers h (isNaN_edge _),
    Double.compare?_of_numbers h (isNaN_edge _), Option.any_some, Option.any_some, Bool.or_eq_true_iff,
    hlt, hge, compare_lt_iff_lt, ne_eq, compare_lt_iff_lt, not_lt]

/-- Whole floats are in the range that the integers have that they are. -/
theorem isOutOfRange_eq_false_iff {k : Nat} (hfinite : x.isFinite = true)
    (h : x.magnitude = k * unitsInOne) :
    isOutOfRange x = false ↔ InRange (withSign x.negative k) := by
  have hbelow : x.ordinal < (edge false).ordinal ↔ k < 2 ^ 63 := by
    rw [← Double.magnitude_lt_iff, h, magnitude_edge]
    exact Nat.mul_lt_mul_right Double.unitsInOne_pos
  have habove : (edge false).ordinal < x.ordinal ↔ 2 ^ 63 < k := by
    rw [← Double.magnitude_lt_iff, h, magnitude_edge]
    exact Nat.mul_lt_mul_right Double.unitsInOne_pos
  have hpos : 0 < (edge false).ordinal := by
    rw [edge_eq]
    decide +kernel
  rw [← Bool.not_eq_true, isOutOfRange_iff (Double.isNaN_of_isFinite hfinite), place_edge, place_edge,
    Double.place]
  simp only [InRange, withSign, Bool.false_eq_true, ↓reduceIte]
  -- The edge below is in the range, the one above is not.
  cases x.negative <;> simp only [Bool.false_eq_true, ↓reduceIte] <;> omega

/-- A finite float becomes the integer that it is. -/
theorem toInteger_float_iff {n : Int64} (hfinite : x.isFinite = true) :
    toInteger (.float x) = .ok (.int n) ↔ x.value = (n.toInt : ℚ) := by
  rw [toInteger]
  constructor
  · intro h
    split at h
    next hwhole =>
      split at h
      · cases h
      next hrange =>
        obtain ⟨k, hk⟩ := (Double.isWhole_iff hfinite).mp hwhole
        have hinRange := (isOutOfRange_eq_false_iff hfinite hk).mp (Bool.eq_false_iff.mpr hrange)
        rw [Double.toInt64_eq hfinite hk hinRange] at h
        cases h
        rw [Double.value_eq_of_magnitude hk, Integer.toInt_ofInt hinRange]
    · cases h
  · intro h
    have hk := Double.magnitude_of_value_eq h
    have hsigned : withSign x.negative n.toInt.natAbs = n.toInt := by
      exact_mod_cast (Double.value_eq_of_magnitude hk).symm.trans h
    have hinRange : InRange (withSign x.negative n.toInt.natAbs) := by
      rw [hsigned]
      exact Integer.inRange_toInt n
    rw [if_pos ((Double.isWhole_iff hfinite).mpr ⟨_, hk⟩),
      (isOutOfRange_eq_false_iff hfinite hk).mpr hinRange, if_neg Bool.false_ne_true,
      Double.toInt64_eq hfinite hk hinRange, hsigned, Int64.ofInt_toInt]

theorem toInteger_of_not_isFinite (h : x.isFinite = false) : ∃ e, toInteger (.float x) = .error e := by
  have hwhole : ¬x.isWhole = true := by
    rw [Double.isWhole, h]
    exact Bool.false_ne_true
  exact ⟨_, by rw [toInteger, if_neg hwhole, refuse]⟩

end

/-! ## Integers and texts -/

/-- Nothing but integers comes out, and they stay. -/
theorem toInteger_eq_ok {v w : Value} (h : toInteger v = .ok w) :
    ∃ n, w = .int n ∧ toInteger w = .ok w := by
  cases v with
  | int n =>
    cases h
    exact ⟨n, rfl, rfl⟩
  | string s =>
    rw [toInteger] at h
    split at h
    · cases h
      exact ⟨_, rfl, rfl⟩
    · cases h
  | float x =>
    rw [toInteger] at h
    split at h
    · split at h
      · cases h
      · cases h
        exact ⟨_, rfl, rfl⟩
    · cases h
  | null | bool | bytes | list | tuple | object => cases h

theorem isBlank_eq_false_of_isNumeral {c : Char} (h : Integer.isNumeral c = true) :
    Text.isBlank c = false := by
  have hdigits : ∀ n ∈ List.range' 48 10, Text.isBlank (Char.ofNat n) = false := by decide +kernel
  rcases Bool.or_eq_true_iff.mp h with hdigit | hminus
  · have hrange := Char.isDigit_iff_toNat.mp hdigit
    have hblank := hdigits c.toNat (List.mem_range'_1.mpr ⟨hrange.1, Nat.lt_succ_of_le hrange.2⟩)
    rwa [Char.ofNat_toNat] at hblank
  · rw [of_decide_eq_true hminus]
    decide +kernel

/-- The decimal text of an integer is read as it, between blanks. -/
theorem toInteger_toString {m : Int64} {front back : String}
    (hfront : ∀ c ∈ front.toList, Text.isBlank c = true)
    (hback : ∀ c ∈ back.toList, Text.isBlank c = true) :
    toInteger (.string (front ++ toString m ++ back)) = .ok (.int m) := by
  obtain ⟨c, cs, htext, hnumerals⟩ : ∃ c cs, (toString m).toList = c :: cs ∧
      ∀ d ∈ c :: cs, Integer.isNumeral d = true := Integer.repr_eq_cons m.toInt
  have htrim : Text.trim (front ++ toString m ++ back).toList = m.toInt.repr.toList := by
    rw [String.toList_append, String.toList_append, List.append_assoc]
    refine Text.trim_append hfront hback (fun d hd => ?_) (htext ▸ List.cons_ne_nil c cs)
    exact isBlank_eq_false_of_isNumeral (hnumerals d (htext ▸ hd))
  rw [toInteger, htrim, Integer.read_repr]

end Coercion

namespace Build

open Coercion (toInteger)

/-- The spec of integers makes of a value what the transform makes of it, which it leaves as it is. -/
theorem conform_integer (s : Session) : ∃ spec t, integer.run s = (.ok spec, t) ∧ ∀ v u,
    (∃ n, toInteger v = .ok (.int n) ∧ Check.conform spec v u = some (.valid (.int n), u)) ∨
      (∃ e, toInteger v = .error e) ∧ Check.conform spec v u = some (.invalid, u) := by
  refine ⟨_, _, rfl, fun v u => ?_⟩
  cases hv : toInteger v with
  | ok w =>
    obtain ⟨n, rfl, -⟩ := Coercion.toInteger_eq_ok hv
    have happly : Coercion.integerCoercer.apply v = .ok (.int n) :=
      congrArg (Except.mapError TransformError.message) hv
    refine .inl ⟨n, rfl, ?_⟩
    rw [Check.conform, Spec.conformWith, happly]
    rfl
  | error e =>
    have happly : Coercion.integerCoercer.apply v = .error e.message :=
      congrArg (Except.mapError TransformError.message) hv
    refine .inr ⟨⟨e, rfl⟩, ?_⟩
    rw [Check.conform, Spec.conformWith, happly]
    rfl

/-- The transform into integers never changes a number. What it makes is an integer that it leaves as it is,
as it leaves all integers, so that the spec of integers accepts what it has made; it takes the finite floats
that are integers in the range of 64 bits, each to that integer, and no others; and it reads an integer from
its decimal text between blanks. -/
theorem integer_exact :
    (∀ v w, toInteger v = .ok w → ∃ n, w = .int n ∧ toInteger w = .ok w) ∧
    (∀ n, toInteger (.int n) = .ok (.int n)) ∧
    (∀ s, ∃ spec t, integer.run s = (.ok spec, t) ∧ ∀ v u, ∃ c, Check.conform spec v u = some (c, u) ∧
      ∀ w, c = .valid w → ∀ u', Check.conform spec w u' = some (.valid w, u')) ∧
    (∀ x : Double, x.isFinite = true →
      ((∃ w, toInteger (.float x) = .ok w) ↔ ∃ n : ℤ, -2 ^ 63 ≤ n ∧ n < 2 ^ 63 ∧ x.value = n) ∧
        ∀ n, toInteger (.float x) = .ok (.int n) → x.value = (n.toInt : ℚ)) ∧
    (∀ x : Double, x.isFinite = false → ∃ e, toInteger (.float x) = .error e) ∧
    ∀ (m : Int64) (front back : String), (∀ c ∈ front.toList, Text.isBlank c = true) →
      (∀ c ∈ back.toList, Text.isBlank c = true) →
        toInteger (.string (front ++ toString m ++ back)) = .ok (.int m) := by
  refine ⟨fun _ _ => Coercion.toInteger_eq_ok, fun _ => rfl, fun s => ?spec, fun x hfinite => ⟨?float, ?exact⟩,
    fun _ => Coercion.toInteger_of_not_isFinite, fun _ _ _ => Coercion.toInteger_toString⟩
  case spec =>
    obtain ⟨spec, t, hrun, hconform⟩ := conform_integer s
    refine ⟨spec, t, hrun, fun v u => ?_⟩
    rcases hconform v u with ⟨n, -, hvalid⟩ | ⟨-, hinvalid⟩
    · refine ⟨_, hvalid, ?_⟩
      rintro _ ⟨⟩ u'
      rcases hconform (.int n) u' with ⟨m, hm, hvalid'⟩ | ⟨⟨e, he⟩, -⟩
      · cases hm
        exact hvalid'
      · cases he
    · exact ⟨_, hinvalid, nofun⟩
  case exact => exact fun n => (Coercion.toInteger_float_iff hfinite).mp
  case float =>
    constructor
    · rintro ⟨w, hw⟩
      obtain ⟨n, rfl, -⟩ := Coercion.toInteger_eq_ok hw
      exact ⟨n.toInt, n.le_toInt, n.toInt_lt, (Coercion.toInteger_float_iff hfinite).mp hw⟩
    · rintro ⟨n, hlow, hhigh, hn⟩
      have hrange : (Int64.ofInt n).toInt = n := Int64.toInt_ofInt_of_le hlow hhigh
      exact ⟨.int (.ofInt n), (Coercion.toInteger_float_iff hfinite).mpr (by rw [hrange, hn])⟩

/-- The lower edge of the range is in it and the upper one is not; and an integer in blanks. -/
theorem integer_exact_edges :
    (Double.isFinite ⟨true, 1086, 0⟩ = true ∧ (∃ w, toInteger (.float ⟨true, 1086, 0⟩) = .ok w) ∧
      ∀ n, toInteger (.float ⟨true, 1086, 0⟩) = .ok (.int n) → n.toInt = -2 ^ 63) ∧
    (Double.isFinite ⟨false, 1086, 0⟩ = true ∧ ¬∃ w, toInteger (.float ⟨false, 1086, 0⟩) = .ok w) ∧
    ((Double.infinity true).isFinite = false ∧ (Double.nan false).isFinite = false ∧
      (∃ e, toInteger (.float (.infinity true)) = .error e) ∧
        ∃ e, toInteger (.float (.nan false)) = .error e) ∧
    toInteger (.string ("\t " ++ toString (-12 : Int64) ++ "\n")) = .ok (.int (-12)) ∧
      ∃ n, Value.int (-12) = .int n ∧ toInteger (.int (-12)) = .ok (.int (-12)) := by
  obtain ⟨hresult, hint, -, hfinite, hother, htext⟩ := integer_exact
  have hlower : Double.value ⟨true, 1086, 0⟩ = ((-2 ^ 63 : ℤ) : ℚ) :=
    Double.value_eq_iff.mpr (by decide +kernel)
  have hupper : Double.value ⟨false, 1086, 0⟩ = ((2 ^ 63 : ℤ) : ℚ) :=
    Double.value_eq_iff.mpr (by decide +kernel)
  have hlowerFinite : Double.isFinite ⟨true, 1086, 0⟩ = true := by decide +kernel
  have hupperFinite : Double.isFinite ⟨false, 1086, 0⟩ = true := by decide +kernel
  have hinfinity : (Double.infinity true).isFinite = false := by decide +kernel
  have hnan : (Double.nan false).isFinite = false := by decide +kernel
  refine ⟨⟨hlowerFinite, ?_, fun n hn => ?_⟩, ⟨hupperFinite, ?_⟩,
    ⟨hinfinity, hnan, hother _ hinfinity, hother _ hnan⟩, ?_, hresult _ _ (hint (-12))⟩
  · exact (hfinite _ hlowerFinite).1.mpr ⟨-2 ^ 63, by decide, by decide, hlower⟩
  · exact_mod_cast ((hfinite _ hlowerFinite).2 n hn).symm.trans hlower
  · rw [(hfinite _ hupperFinite).1]
    rintro ⟨n, -, hn, hvalue⟩
    have heq : (2 ^ 63 : ℤ) = n := by exact_mod_cast hupper.symm.trans hvalue
    omega
  · exact htext (-12) "\t " "\n" (List.all_eq_true.mp (by decide +kernel))
      (List.all_eq_true.mp (by decide +kernel))

end Build

end Conform

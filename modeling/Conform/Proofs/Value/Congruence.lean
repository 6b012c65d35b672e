import Conform.Proofs.Value.Equality
/-!
The two equalities of values together. Equality is symmetric and transitive, and values that are equal are
loosely equal to the same ones. None of this needs a value to be equal to itself, which those are not that are
no numbers.
-/

namespace Conform.Value

section
variable {scalar : Value → Value → Bool} {v w : Value}

theorem forall₂_symm_of_mem {α : Type} {R S : α → α → Prop} {xs ys : List α}
    (h : List.Forall₂ R xs ys) (hsymm : ∀ x ∈ xs, ∀ y, R x y → S y x) : List.Forall₂ S ys xs := by
  induction h with
  | nil => exact .nil
  | cons hxy _ ih =>
    obtain ⟨hx, hxs⟩ := List.forall_mem_cons.mp hsymm
    exact .cons (hx _ hxy) (ih hxs)

/-- Symmetric is what relates scalars symmetrically. -/
theorem equalBy_symm (hscalar : RelatesScalars scalar)
    (hsymm : ∀ v w, scalar v w = true → scalar w v = true) (h : equalBy scalar v w = true) :
    equalBy scalar w v = true := by
  induction v using Value.induction generalizing w with
  | scalar v hv =>
    rw [equalBy_scalar hv] at h
    rw [equalBy_scalar (hscalar v w h).2]
    exact hsymm v w h
  | list xs ih =>
    obtain ⟨ys, rfl, hxys⟩ := exists_list_of_equalBy hscalar h
    exact equalBy_list.mpr (forall₂_symm_of_mem hxys fun x hx _ => ih x hx)
  | tuple xs ih =>
    obtain ⟨ys, rfl, hxys⟩ := exists_tuple_of_equalBy hscalar h
    exact equalBy_tuple.mpr (forall₂_symm_of_mem hxys fun x hx _ => ih x hx)
  | object ps ih =>
    obtain ⟨qs, rfl, hpqs⟩ := exists_object_of_equalBy hscalar h
    exact equalBy_object.mpr
      (forall₂_symm_of_mem hpqs fun x hx _ hxy => ⟨hxy.1.symm, ih x hx hxy.2⟩)

end

/-! ## Scalars -/

theorem eq_or_floats_of_scalarEqual {v w : Value} (h : scalarEqual v w = true) :
    v = w ∨ ∃ x y, v = float x ∧ w = float y ∧ x.equal y = true := by
  cases v with
  | float x =>
    cases w with
    | float y => exact .inr ⟨x, y, rfl, rfl, h⟩
    | null | bool | int | string | bytes | list | tuple | object => cases h
  | null | bool | int | string | bytes =>
    exact .inl ((scalarEqual_iff_eq (relatesScalars_equal _ _ h).1 nofun).mp h)
  | list | tuple | object => exact (relatesScalars_equal _ _ h).1.elim

theorem scalarEqual_symm {v w : Value} (h : scalarEqual v w = true) : scalarEqual w v = true := by
  rcases eq_or_floats_of_scalarEqual h with rfl | ⟨x, y, rfl, rfl, hxy⟩
  · exact h
  · exact (Double.equal_comm y x).trans hxy

theorem scalarEqual_trans {u v w : Value} (huv : scalarEqual u v = true)
    (hvw : scalarEqual v w = true) : scalarEqual u w = true := by
  rcases eq_or_floats_of_scalarEqual huv with rfl | ⟨x, y, rfl, rfl, hxy⟩
  · exact hvw
  · rcases eq_or_floats_of_scalarEqual hvw with rfl | ⟨_, z, hy, rfl, hyz⟩
    · exact huv
    · cases hy
      exact Double.equal_trans hxy hyz

theorem scalarLooselyEqual_symm {v w : Value} (h : scalarLooselyEqual v w = true) :
    scalarLooselyEqual w v = true := by
  cases v with
  | int m =>
    cases w with
    | int n => exact scalarEqual_symm (v := int m) (w := int n) h
    | float y => exact h
    | null | bool | string | bytes | list | tuple | object => cases h
  | float x =>
    cases w with
    | int n => exact h
    | float y => exact (Double.equal_comm y x).trans h
    | null | bool | string | bytes | list | tuple | object => cases h
  | null | bool | string | bytes =>
    obtain rfl := eq_of_scalarLooselyEqual h nofun nofun
    exact h
  | list | tuple | object => exact (relatesScalars_looselyEqual _ _ h).1.elim

/-- What is loosely equal to a scalar is so to any that this one is equal to. -/
theorem scalarLooselyEqual_of_equal {u v w : Value} (huv : scalarLooselyEqual u v = true)
    (hvw : scalarEqual v w = true) : scalarLooselyEqual u w = true := by
  rcases eq_or_floats_of_scalarEqual hvw with rfl | ⟨x, y, rfl, rfl, hxy⟩
  · exact huv
  · cases u with
    | int n => exact Double.equal_trans huv hxy
    | float z => exact Double.equal_trans huv hxy
    | null | bool | string | bytes | list | tuple | object => cases huv

/-! ## Values -/

section
variable {u v w : Value}

theorem madeOf_true (v : Value) : v.MadeOf fun _ => True := by
  induction v using Value.induction with
  | scalar v hv => exact (madeOf_scalar hv).mpr trivial
  | list items ih => exact madeOf_list.mpr ih
  | tuple items ih => exact madeOf_tuple.mpr ih
  | object pairs ih => exact madeOf_object.mpr ih

theorem equal_symm (h : equal v w = true) : equal w v = true :=
  equalBy_symm relatesScalars_equal (fun _ _ => scalarEqual_symm) h

theorem equal_trans (huv : equal u v = true) (hvw : equal v w = true) : equal u w = true :=
  equalBy_trans relatesScalars_equal relatesScalars_equal (fun _ _ _ _ _ _ => scalarEqual_trans)
    (madeOf_true u) (madeOf_true v) (madeOf_true w) huv hvw

theorem looselyEqual_symm (h : looselyEqual v w = true) : looselyEqual w v = true :=
  equalBy_symm relatesScalars_looselyEqual (fun _ _ => scalarLooselyEqual_symm) h

theorem looselyEqual_of_equal (huv : looselyEqual u v = true) (hvw : equal v w = true) :
    looselyEqual u w = true :=
  equalBy_trans relatesScalars_looselyEqual relatesScalars_equal
    (fun _ _ _ _ _ _ => scalarLooselyEqual_of_equal) (madeOf_true u) (madeOf_true v) (madeOf_true w)
    huv hvw

/-- Equal values are loosely equal to the same ones. -/
theorem looselyEqual_congr (u : Value) (h : equal v w = true) :
    u.looselyEqual v = u.looselyEqual w :=
  Bool.eq_iff_iff.mpr ⟨fun hv => looselyEqual_of_equal hv h, fun hw => looselyEqual_of_equal hw (equal_symm h)⟩

theorem looselyEqual_comm (v w : Value) : v.looselyEqual w = w.looselyEqual v :=
  Bool.eq_iff_iff.mpr ⟨looselyEqual_symm, looselyEqual_symm⟩

end

end Conform.Value

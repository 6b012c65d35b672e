import Conform.Proofs.Registry.Extends
import Mathlib.Data.List.Nodup
/-!
The order of shapes. Shapes of different names are found by name, in whatever order they were
registered, so registries that hold the same shapes in different orders answer all questions alike.
-/

namespace Conform.Registry

/-- The same registry, with its shapes in another order. No two of them have one name. -/
structure Reordered (r r' : Registry) : Prop where
  name : r'.name = r.name
  config : r'.config = r.config
  shapes : r.shapes.Perm r'.shapes
  distinct : (r.shapes.map (·.name)).Nodup

theorem shape?_eq_some_iff {r : Registry} (h : (r.shapes.map (·.name)).Nodup) {name : String}
    {shape : Shape} : r.shape? name = some shape ↔ shape ∈ r.shapes ∧ shape.name = name := by
  constructor
  · exact fun hfound => ⟨List.mem_of_find?_eq_some hfound, name_of_shape? hfound⟩
  · rintro ⟨hmem, rfl⟩
    cases hfound : r.shape? shape.name with
    | none =>
      have hnone := List.find?_eq_none.mp hfound shape hmem
      exact absurd (decide_eq_true rfl) hnone
    | some found =>
      rw [List.inj_on_of_nodup_map h (List.mem_of_find?_eq_some hfound) hmem (name_of_shape? hfound)]

namespace Reordered

variable {r r' : Registry}

theorem distinct' (h : r.Reordered r') : (r'.shapes.map (·.name)).Nodup :=
  (h.shapes.map (·.name)).nodup_iff.mp h.distinct

theorem length_eq (h : r.Reordered r') : r'.shapes.length = r.shapes.length := h.shapes.length_eq.symm

theorem shape?_eq (h : r.Reordered r') (name : String) : r'.shape? name = r.shape? name := by
  ext shape
  rw [shape?_eq_some_iff h.distinct, shape?_eq_some_iff h.distinct', h.shapes.mem_iff]

theorem contains_eq (h : r.Reordered r') (name : String) : r'.contains name = r.contains name := by
  rw [contains, contains, h.shape?_eq]

theorem lookup_eq (h : r.Reordered r') (name : String) : r'.lookup name = r.lookup name := by
  rw [lookup, lookup, h.shape?_eq]

theorem builtin?_eq (h : r.Reordered r') (name : String) (args : List Kind) :
    r'.builtin? name args = r.builtin? name args := by
  rw [builtin?, builtin?, h.config]

theorem unresolved_eq (h : r.Reordered r') (name : String) : r'.unresolved name = r.unresolved name := by
  rw [unresolved, unresolved, h.name]

/-! ## Fields -/

theorem inheritAll_eq (h : r.Reordered r')
    (fieldsOf : Shape → Bindings → Except SpecError (List Field)) (bindings : Bindings)
    (fields : List Field) (parents : List Parent) :
    r'.inheritAll fieldsOf bindings fields parents = r.inheritAll fieldsOf bindings fields parents := by
  induction parents generalizing fields with
  | nil => rfl
  | cons parent parents ih => simp only [inheritAll, h.lookup_eq, ih]

theorem collectFields_eq (h : r.Reordered r') (steps : Nat) :
    r'.collectFields steps = r.collectFields steps := by
  induction steps with
  | zero => rfl
  | succ steps ih =>
    funext lineage shape bindings
    simp only [collectFields, h.inheritAll_eq, ih]

theorem effectiveFields_eq (h : r.Reordered r') (shape : Shape) (bindings : Bindings) :
    r'.effectiveFields shape bindings = r.effectiveFields shape bindings := by
  rw [effectiveFields, effectiveFields, h.length_eq, h.collectFields_eq]

/-! ## References -/

theorem referenceError?_eq (h : r.Reordered r') : r'.referenceError? = r.referenceError? := by
  funext k
  cases k <;> simp only [referenceError?, h.contains_eq, h.builtin?_eq, h.unresolved_eq]

theorem shapeError?_eq (h : r.Reordered r') : r'.shapeError? = r.shapeError? := by
  funext shape
  simp only [shapeError?, h.contains_eq, h.referenceError?_eq]

/-- Shapes sorted by name are in one order only. -/
theorem mergeSort_eq (h : r.Reordered r') :
    r'.shapes.mergeSort (fun a b => decide (a.name ≤ b.name)) =
      r.shapes.mergeSort fun a b => decide (a.name ≤ b.name) := by
  have hsorted (shapes : List Shape) :
      (shapes.mergeSort fun a b => decide (a.name ≤ b.name)).Pairwise fun a b => a.name ≤ b.name := by
    refine (List.pairwise_mergeSort (fun a b c hab hbc => ?_) (fun a b => ?_) shapes).imp ?_
    · exact decide_eq_true (String.le_trans (of_decide_eq_true hab) (of_decide_eq_true hbc))
    · simpa using String.le_total a.name b.name
    · exact of_decide_eq_true
  refine List.Perm.eq_of_pairwise (fun a b ha hb hab hba => ?_) (hsorted _) (hsorted _) ?_
  · have ha' : a ∈ r.shapes := h.shapes.mem_iff.mpr ((List.mergeSort_perm _ _).mem_iff.mp ha)
    exact List.inj_on_of_nodup_map h.distinct ha' ((List.mergeSort_perm _ _).mem_iff.mp hb)
      (String.le_antisymm hab hba)
  · exact (List.mergeSort_perm _ _).trans (h.shapes.symm.trans (List.mergeSort_perm _ _).symm)

theorem checkReferences_eq (h : r.Reordered r') : r'.checkReferences = r.checkReferences := by
  simp only [checkReferences, h.mergeSort_eq, h.shapeError?_eq]

end Reordered

end Conform.Registry

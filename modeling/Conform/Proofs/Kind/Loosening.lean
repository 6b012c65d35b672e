import Conform.Proofs.Kind.Matches
/-!
Looser configurations. What a configuration asks of values, beside what their shapes ask, is that there
are no keys that are not declared, and that fields of one placeholder agree. Under a configuration that
asks for no more than another, every value matches that matches under the other.
-/

namespace Conform

/-- The configuration asks for nothing that the other does not ask for. -/
structure DeriveConfig.Looser (config stricter : DeriveConfig) : Prop where
  builtinNames : config.builtinNames = stricter.builtinNames
  extra : config.extra = .forbid → stricter.extra = .forbid
  checkPlaceholders : config.checkPlaceholders = true → stricter.checkPlaceholders = true

theorem DeriveConfig.Looser.of_extra (config : DeriveConfig) {extra stricter : ExtraFields}
    (h : extra = .forbid → stricter = .forbid) :
    { config with extra := extra }.Looser { config with extra := stricter } :=
  ⟨rfl, h, id⟩

theorem DeriveConfig.Looser.unchecked (config : DeriveConfig) (stricter : Bool) :
    { config with checkPlaceholders := false }.Looser
      { config with checkPlaceholders := stricter } :=
  ⟨rfl, id, fun h => by cases h⟩

namespace Registry

/-! ## Registries under another configuration -/

section
variable {r : Registry} {config : DeriveConfig}

theorem contains_under (name : String) : (r.under config).contains name = r.contains name := rfl

section
variable (h : config.builtinNames = r.config.builtinNames)
include h

theorem builtin?_under (name : String) (args : List Kind) :
    (r.under config).builtin? name args = r.builtin? name args := by
  unfold builtin?
  change (if config.builtinNames && args.isEmpty then _ else _) = _
  rw [h]

theorem refers_under : (r.under config).Refers = r.Refers := by
  funext k
  cases k with
  | forward name args =>
    simp only [Refers, builtin?_under h]
    rfl
  | leaf | nothing | record | list | union | placeholder => rfl

theorem wellFormed_kind_under {k : Kind} : k.WellFormed (r.under config) ↔ k.WellFormed r := by
  unfold Kind.WellFormed
  rw [refers_under h]

/-- As long as the same names are builtin, a registry stays well-formed. -/
theorem WellFormed.under (hr : r.WellFormed) : (r.under config).WellFormed where
  kinds shape hshape k hk := (wellFormed_kind_under h).mpr (hr.kinds shape hshape k hk)
  parents := hr.parents
  acyclic := hr.acyclic

end

end

end Registry

/-! ## What matches -/

section
variable {r : Registry} {config stricter : DeriveConfig}

theorem Fits.loosen (hlooser : config.Looser stricter) {fields : List Field} {v : Value}
    {member member' : (f : Field) → (w : Value) → v.get? f.name = some w → Prop}
    (h : ∀ f ∈ fields, ∀ w hw, member f w hw → member' f w hw) (hfits : Fits stricter fields v member) :
    Fits config fields v member' := by
  obtain ⟨hobject, hpresent, hdeclared, hagree⟩ := hfits
  refine ⟨hobject, fun f hf => ?_, fun hforbid => hdeclared (hlooser.extra hforbid),
    fun hcheck => hagree (hlooser.checkPlaceholders hcheck)⟩
  obtain ⟨w, hw, hmember⟩ := hpresent f hf
  exact ⟨w, hw, h f hf w hw hmember⟩

/-- A value that matches goes on to match under a looser configuration. The induction is that of the
definition: on how deep the value is, and for one value on the kind. -/
theorem Matches.loosen (hlooser : config.Looser stricter) :
    ∀ (k : Kind) (v : Value), Matches (r.under stricter) v k → Matches (r.under config) v k
  | .leaf k, v, h => by
    unfold Matches at h ⊢
    exact h
  | .nothing, v, h => by
    unfold Matches at h ⊢
    exact h
  | .placeholder p, v, h => by
    unfold Matches
    trivial
  | .list k, v, h => by
    unfold Matches at h ⊢
    obtain ⟨items, hitems, hall⟩ := h
    exact ⟨items, hitems, fun w hw => Matches.loosen hlooser k w (hall w hw)⟩
  | .union ks, v, h => by
    unfold Matches at h ⊢
    obtain ⟨k, hk, hmatches⟩ := h
    exact ⟨k, hk, Matches.loosen hlooser k v hmatches⟩
  | .record name args, v, h => by
    unfold Matches at h ⊢
    simp only [Registry.fieldsOf_under] at h ⊢
    obtain ⟨fields, hfields, hfits⟩ := h
    exact ⟨fields, hfields, hfits.loosen hlooser fun f _ w hw => Matches.loosen hlooser f.kind w⟩
  | .forward name args, v, h => by
    unfold Matches at h ⊢
    simp only [Registry.contains_under, Registry.fieldsOf_under] at h ⊢
    by_cases hname : r.contains name = true
    · rw [if_pos hname] at h ⊢
      obtain ⟨fields, hfields, hfits⟩ := h
      exact ⟨fields, hfields, hfits.loosen hlooser fun f _ w hw => Matches.loosen hlooser f.kind w⟩
    · rw [if_neg hname] at h ⊢
      have hbuiltin : (r.under config).builtin? name args = (r.under stricter).builtin? name args :=
        @Registry.builtin?_under (r.under stricter) config hlooser.builtinNames name args
      rw [hbuiltin]
      exact h
termination_by k v => (v.depth, k)
decreasing_by
  · exact Prod.Lex.left _ _ (Value.depth_lt_of_mem_items ‹_› ‹_›)
  · refine Prod.Lex.right _ ?_
    have hlt := List.sizeOf_lt_of_mem ‹_ ∈ _›
    simp only [Kind.union.sizeOf_spec]
    omega
  · exact Prod.Lex.left _ _ (Value.depth_lt_of_get? ‹_›)
  · exact Prod.Lex.left _ _ (Value.depth_lt_of_get? ‹_›)

end

end Conform

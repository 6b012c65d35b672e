import Conform.Proofs.Kind.Meaning
import Conform.Proofs.Kind.Targets
import Conform.Proofs.Session.Repeat
import Conform.Proofs.Spec.Depth
/-!
What the meanings of kinds have in common. A property that every form of meaning passes on from its
parts holds of whatever is behind a reference, if no union there is empty: by induction on the kind in
each shape, and on how deep values are from shape to shape. The meanings of kinds are lawful, and make
no value deeper.
-/

namespace Conform

section
variable {id : Nat} {r : Registry}

namespace Kind

theorem HasAlternatives.of_mem_targets {k : Kind} {target : Target} (h : k.HasAlternatives r)
    (hmem : target ∈ k.targets id) : target.HasAlternatives r := by
  obtain ⟨part, hreach, hpart⟩ := reaches_of_mem_targets k hmem
  have halternatives : part.HasAlternatives r := fun _ hfurther => h _ (hreach.trans hfurther)
  cases part with
  | record name args =>
    obtain rfl := hpart
    exact halternatives
  | forward name args =>
    obtain rfl := hpart
    exact halternatives.behind
  | leaf | nothing | list | union | placeholder => exact hpart.elim

/-- A property of meanings that passes from the parts of what kinds mean to the whole. -/
structure Composes (P : Meaning → Prop) : Prop where
  anything : P .anything
  unresolved (e : SpecError) : P (.unresolved owner e)
  leaf (k : ValueKind) : P (leafMeaning k)
  collOf {m : Meaning} : P m → P (.collOf owner m)
  oneOf {ms : List Meaning} : ms ≠ [] → (∀ m ∈ ms, P m) → P (.oneOf ms)
  allOf {ms : List Meaning} : (∀ m ∈ ms, P m) → P (.allOf ms)
  dict (fields : List Field) (extra : ExtraFields) {keys : List (String × Meaning)} :
    (∀ key ∈ keys, P key.2) → P (.dict owner (Registry.undeclared fields) extra keys)
  consistency (groups : List PlaceholderGroup) : P (.consistency owner groups)

section
variable {P : Meaning → Prop}

mutual

theorem Composes.meaning (hP : Composes P) {refs : Target → Meaning} :
    ∀ {k : Kind}, k.HasAlternatives r → (∀ target ∈ k.targets id, P (refs target)) →
      P (k.meaning id refs)
  | .leaf k, _, _ => hP.leaf k
  | .nothing, _, _ => hP.leaf .null
  | .record _ _, _, hrefs | .forward _ _, _, hrefs => hrefs _ List.mem_cons_self
  | .list item, h, hrefs => by
    unfold Kind.meaning
    exact hP.collOf (hP.meaning h.item hrefs)
  | .union [], h, _ => absurd rfl (h _ (.refl _))
  | .union (_ :: _), h, hrefs => by
    unfold Kind.meaning
    exact hP.oneOf (List.cons_ne_nil _ _) (hP.meanings h.alternative hrefs)
  | .placeholder _, _, _ => hP.anything

theorem Composes.meanings (hP : Composes P) {refs : Target → Meaning} :
    ∀ {ks : List Kind}, (∀ k ∈ ks, k.HasAlternatives r) →
      (∀ target ∈ targetsOfAll id ks, P (refs target)) → ∀ m ∈ Kind.meanings id refs ks, P m
  | [], _, _ => fun _ hm => absurd hm List.not_mem_nil
  | k :: _, h, hrefs => List.forall_mem_cons.mpr
    ⟨hP.meaning (h k List.mem_cons_self) fun target hmem =>
        hrefs target (List.mem_append_left _ hmem),
      hP.meanings (fun k' hk' => h k' (List.mem_cons_of_mem _ hk')) fun target hmem =>
        hrefs target (List.mem_append_right _ hmem)⟩

end

theorem Composes.form (hP : Composes P) (config : DeriveConfig) (fields : List Field)
    {keys : List (String × Meaning)} (h : ∀ key ∈ keys, P key.2) :
    P (Registry.formMeaning config fields keys) := by
  have hdict := hP.dict fields config.extra h
  unfold Registry.formMeaning
  simp only
  split
  · exact hP.allOf (List.forall_mem_cons.mpr
      ⟨hdict, List.forall_mem_singleton.mpr (hP.consistency _)⟩)
  · exact hdict

theorem Composes.recordMeaning (hP : Composes P) {refs : Target → Meaning} {a : Applied}
    (h : (Kind.record a.1 a.2).HasAlternatives r)
    (hrefs : ∀ target, target.HasAlternatives r → P (refs target)) :
    P (r.recordMeaning id refs a) := by
  unfold Registry.recordMeaning
  split
  · next fields _ hfields =>
    refine hP.form _ _ fun key hkey => ?_
    obtain ⟨f, hf, rfl⟩ := List.mem_map.mp hkey
    have hkind := h.field hfields f hf
    exact hP.meaning hkind fun target hmem => hrefs target (hkind.of_mem_targets hmem)
  · exact hP.unresolved _
  · exact hP.unresolved _

/-- The induction is on how deep the values are that the meaning is for. -/
theorem Composes.refs (hP : Composes P) (b : Nat) {target : Target}
    (h : target.HasAlternatives r) : P (r.refs id b target) := by
  induction b generalizing target with
  | zero => exact hP.anything
  | succ b ih =>
    cases target with
    | bound name => exact hP.unresolved _
    | shape registry name args => exact hP.recordMeaning h fun _ => ih
    | forward registry name args =>
      unfold Registry.refs
      split
      · exact hP.recordMeaning h fun _ => ih
      · split
        · exact hP.leaf _
        · exact hP.unresolved _

end

theorem composes_lawful : Composes Meaning.Lawful where
  anything := Meaning.lawful_anything
  unresolved := Meaning.lawful_unresolved _
  leaf _ := Meaning.lawful_ofCheck _ _ _
  collOf h := h.collOf _
  oneOf := Meaning.lawful_oneOf
  allOf := Meaning.lawful_allOf
  dict _ extra _ h := Meaning.lawful_dict h _ _ extra
  consistency := Meaning.lawful_consistency _

/-- There are no coercions in kinds. -/
theorem composes_rises : Composes (Meaning.Rises 0) where
  anything := Meaning.rises_anything
  unresolved := Meaning.rises_unresolved _
  leaf _ := Meaning.rises_ofCheck _ _ _
  collOf h := Meaning.Rises.collOf h _
  oneOf _ := Meaning.rises_oneOf
  allOf := Meaning.rises_allOf
  dict _ extra _ h := Meaning.rises_dict h _ (fun _ => List.filter_sublist.subset) extra
  consistency := Meaning.rises_consistency _

end Kind

end

end Conform

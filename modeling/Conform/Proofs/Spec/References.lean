import Conform.Proofs.Check.Ensures
/-!
The lazy references in a tree. All that a walk asks of the session it asks there, so the walk of a tree
does what the tree means if it does so at these references.
-/

namespace Conform

namespace Spec

mutual

/-- The lazy references in a tree. -/
@[simp] def references : Spec → List Reference
  | deferred _ reference => [reference]
  | decorated _ s _ | coerce _ _ s _ | collOf _ s => references s
  | oneOf _ ss | allOf _ ss => referencesOfAll ss
  | dict _ keys _ => referencesOfKeys keys
  | anything _ | never _ | predicate _ _ | equalTo _ _ | isInstance _ _ | isIn _ _ | unbound _ _
  | consistency _ _ => []

@[simp] def referencesOfAll : List Spec → List Reference
  | [] => []
  | s :: ss => references s ++ referencesOfAll ss

@[simp] def referencesOfKeys : List (String × Spec) → List Reference
  | [] => []
  | (_, s) :: rest => references s ++ referencesOfKeys rest

end

theorem mem_referencesOfAll {reference : Reference} {ss : List Spec} :
    reference ∈ referencesOfAll ss ↔ ∃ s ∈ ss, reference ∈ s.references := by
  induction ss with
  | nil => simp
  | cons s ss ih => rw [referencesOfAll, List.mem_append, ih, List.exists_mem_cons_iff]

theorem mem_referencesOfKeys {reference : Reference} {keys : List (String × Spec)} :
    reference ∈ referencesOfKeys keys ↔ ∃ key ∈ keys, reference ∈ key.2.references := by
  induction keys with
  | nil => simp
  | cons key keys ih => rw [referencesOfKeys, List.mem_append, ih, List.exists_mem_cons_iff]

/-- A property of all lazy references in a tree. -/
def Refers (p : Reference → Prop) (s : Spec) : Prop := ∀ reference ∈ s.references, p reference

section
variable {p q : Reference → Prop} {i : Instance} {s : Spec} {ss : List Spec}
  {keys : List (String × Spec)}

theorem Refers.imp (h : s.Refers p) (himp : ∀ reference, p reference → q reference) : s.Refers q :=
  fun reference hmem => himp reference (h reference hmem)

theorem refers_deferred {reference : Reference} : (deferred i reference).Refers p ↔ p reference := by
  simp [Refers]

theorem refers_decorated {description : Option String} :
    (decorated i s description).Refers p ↔ s.Refers p := by
  simp [Refers]

theorem refers_coerce {coercer : Coercer} {failureReason : Option (Value → String → String)} :
    (coerce i coercer s failureReason).Refers p ↔ s.Refers p := by
  simp [Refers]

theorem refers_collOf : (collOf i s).Refers p ↔ s.Refers p := by
  simp [Refers]

theorem forall_mem_referencesOfAll :
    (∀ reference ∈ referencesOfAll ss, p reference) ↔ ∀ s ∈ ss, s.Refers p := by
  simp only [mem_referencesOfAll, Refers]
  exact ⟨fun h s hs reference hmem => h reference ⟨s, hs, hmem⟩,
    fun h reference ⟨s, hs, hmem⟩ => h s hs reference hmem⟩

theorem refers_oneOf : (oneOf i ss).Refers p ↔ ∀ s ∈ ss, s.Refers p := by
  rw [← forall_mem_referencesOfAll, Refers, references]

theorem refers_allOf : (allOf i ss).Refers p ↔ ∀ s ∈ ss, s.Refers p := by
  rw [← forall_mem_referencesOfAll, Refers, references]

theorem refers_dict {extra : ExtraFields} :
    (dict i keys extra).Refers p ↔ ∀ key ∈ keys, key.2.Refers p := by
  simp only [Refers, references, mem_referencesOfKeys]
  exact ⟨fun h key hkey reference hmem => h reference ⟨key, hkey, hmem⟩,
    fun h reference ⟨key, hkey, hmem⟩ => h key hkey reference hmem⟩

end

section
variable {refs : Instance → Reference → Meaning}

/-- Every value may come to every part of a tree. -/
theorem handsOn_refers (p : Reference → Prop) : HandsOn refs fun s _ => s.Refers p where
  decorated h := refers_decorated.mp h
  coerce h _ := refers_coerce.mp h
  alternative h hs := refers_oneOf.mp h _ hs
  stage h := ⟨refers_allOf.mp h _ List.mem_cons_self, fun _ _ =>
    refers_allOf.mpr fun s hs => refers_allOf.mp h s (List.mem_cons_of_mem _ hs)⟩
  item h _ _ := refers_collOf.mp h
  key h hkey _ := refers_dict.mp h _ hkey

end

end Spec

end Conform

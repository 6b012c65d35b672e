import Conform.Proofs.Kind.Targets
/-!
Names that are known. If every name that a registry's shapes mention means something, so does every
name in the kinds that fields come to have when arguments are put in the place of placeholders. What a
derivation can then still fail for is no name that means nothing.
-/

namespace Conform

/-! ## Errors -/

namespace SpecError

/-- A name means nothing, as a shape or at all. -/
def isUnknownName : SpecError → Bool
  | unknownShape _ | unresolvedName _ _ => true
  | unspeccable _ _ | invalidPattern _ | unsupportedKind _ | argumentCount _ _ _
  | cyclicInheritance _ | duplicateShape _ | registryDropped => false

/-- How the sentences about names that mean nothing begin. -/
def unknownNameOpenings : List (List Char) := [['u', 'n', 'k'], ['n', 'a', 'm']]

theorem opening_mem_iff (e : SpecError) :
    e.message.toList.take 3 ∈ unknownNameOpenings ↔ e.isUnknownName = true := by
  unfold message isUnknownName
  cases e <;>
    simp only [String.toList_append, String.reduceToList, List.cons_append, List.take_succ_cons,
      List.take_zero] <;>
    decide

/-- The sentence tells whether a name means nothing. -/
theorem isUnknownName_of_message_eq {e e' : SpecError} (h : e.message = e'.message)
    (he : e.isUnknownName = true) : e'.isUnknownName = true := by
  rw [← opening_mem_iff] at he ⊢
  rwa [← h]

end SpecError

/-! ## Kinds -/

namespace Registry

/-- The kind is no reference by a name that means nothing. -/
def Knows (r : Registry) (k : Kind) : Prop := r.referenceError? k = none

instance (r : Registry) : DecidablePred r.Knows :=
  fun k => inferInstanceAs (Decidable (r.referenceError? k = none))

variable {r : Registry} {name : String} {args : List Kind}

theorem knows_record : r.Knows (.record name args) ↔ r.contains name = true := by
  simp [Knows, referenceError?]

theorem knows_forward : r.Knows (.forward name args) ↔
    r.contains name = true ∨ (r.builtin? name args).isSome = true := by
  simp only [Knows, referenceError?]
  cases r.contains name <;> cases r.builtin? name args <;> simp

end Registry

namespace Kind

/-- Every name in the kind means something, at any depth. -/
def Known (r : Registry) (k : Kind) : Prop := k.Throughout r.Knows

instance (r : Registry) : DecidablePred (Known r) :=
  fun k => inferInstanceAs (Decidable (k.Throughout r.Knows))

section
variable {r : Registry} {name : String} {args : List Kind}

theorem known_record :
    (record name args).Known r ↔ r.contains name = true ∧ ∀ k ∈ args, k.Known r :=
  throughout_record.trans (and_congr_left' Registry.knows_record)

theorem known_forward : (forward name args).Known r ↔
    (r.contains name = true ∨ (r.builtin? name args).isSome = true) ∧ ∀ k ∈ args, k.Known r :=
  throughout_forward.trans (and_congr_left' Registry.knows_forward)

/-- A name that means a shape may as well be a reference to it. -/
theorem Known.record_of_forward (h : (forward name args).Known r) (hname : r.contains name = true) :
    (record name args).Known r :=
  known_record.mpr ⟨hname, (known_forward.mp h).2⟩

/-- The shapes that a known kind is built from are known. -/
theorem Known.records {k : Kind} (h : k.Known r) : ∀ a ∈ k.records, (record a.1 a.2).Known r := by
  intro a ha
  have hmem : .shape 0 a.1 a.2 ∈ k.targets 0 := (shape_mem_targets k).mpr ha
  exact Throughout.targets h _ hmem

/-- Substitution changes no name, and no arguments to none. -/
theorem steady_knows (r : Registry) : Steady r.Knows := by
  intro bindings k hk h
  cases k with
  | leaf | nothing | list | union => rfl
  | placeholder p => exact absurd rfl (hk p)
  | record name args => exact Registry.knows_record.mpr (Registry.knows_record.mp h)
  | forward name args =>
    refine Registry.knows_forward.mpr ((Registry.knows_forward.mp h).imp id fun hbuiltin => ?_)
    unfold Registry.builtin? at hbuiltin ⊢
    rwa [substituteAll_eq_map, List.isEmpty_map]

end

end Kind

/-! ## Registries -/

namespace Registry

section
variable {r : Registry}

theorem shapeError?_eq_none {shape : Shape} : r.shapeError? shape = none ↔
    (∀ p ∈ shape.parents, r.contains p.shape = true) ∧ ∀ k ∈ shape.kinds, k.Known r := by
  unfold shapeError?
  cases hparent : shape.parents.find? fun parent => !r.contains parent.shape with
  | some parent =>
    have hmem := List.mem_of_find?_eq_some hparent
    have hunknown := List.find?_some hparent
    refine iff_of_false (by simp) fun h => ?_
    rw [h.1 parent hmem] at hunknown
    cases hunknown
  | none =>
    have hparents : ∀ p ∈ shape.parents, r.contains p.shape = true := by
      simpa using List.find?_eq_none.mp hparent
    rw [List.findSome?_eq_none_iff, and_iff_right hparents]
    exact Kind.forall_partsOfAll

/-- The references are in order exactly if every name that a shape mentions means something. -/
theorem checkReferences_eq_ok : r.checkReferences = .ok () ↔
    ∀ shape ∈ r.shapes, (∀ p ∈ shape.parents, r.contains p.shape = true) ∧
      ∀ k ∈ shape.kinds, k.Known r := by
  unfold checkReferences
  simp only [← shapeError?_eq_none]
  have hmem : ∀ shape, shape ∈ r.shapes.mergeSort (fun a b => decide (a.name ≤ b.name)) ↔
      shape ∈ r.shapes := fun shape => List.mem_mergeSort
  cases herror : (r.shapes.mergeSort fun a b => decide (a.name ≤ b.name)).findSome? r.shapeError? with
  | none =>
    refine iff_of_true rfl fun shape hshape => ?_
    exact List.findSome?_eq_none_iff.mp herror shape ((hmem shape).mpr hshape)
  | some e =>
    obtain ⟨shape, hshape, he⟩ := List.exists_of_findSome?_eq_some herror
    refine iff_of_false (by simp) fun h => ?_
    cases (h shape ((hmem shape).mp hshape)).symm.trans he

/-! ## Errors that are left -/

theorem exists_of_contains {name : String} (h : r.contains name = true) :
    ∃ shape, r.lookup name = .ok shape ∧ shape ∈ r.shapes := by
  obtain ⟨shape, hshape⟩ := Option.isSome_iff_exists.mp h
  have hlookup := lookup_eq_ok.mpr hshape
  exact ⟨shape, hlookup, mem_of_lookup hlookup⟩

theorem checkArity_error {shape : Shape} {n : Nat} {e : SpecError}
    (h : checkArity shape n = .error e) : e.isUnknownName = false := by
  unfold checkArity at h
  split at h
  · cases h
  · cases h
    rfl

theorem mem_of_applied {a : Applied} {shape : Shape} (h : r.applied a = .ok shape) :
    shape ∈ r.shapes :=
  mem_of_lookup (applied_eq_ok.mp h).1

theorem applied_error {a : Applied} {e : SpecError} (ha : r.contains a.1 = true)
    (h : r.applied a = .error e) : e.isUnknownName = false := by
  obtain ⟨shape, hshape, _⟩ := exists_of_contains ha
  rcases bind_eq_error.mp h with hmissing | ⟨found, _, h⟩
  · cases hshape.symm.trans hmissing
  · rcases bind_eq_error.mp h with hunfit | ⟨_, _, h⟩
    · exact checkArity_error hunfit
    · cases h

theorem inheritAll_error {fieldsOf : Shape → Bindings → Except SpecError (List Field)}
    (hfieldsOf : ∀ {shape bindings e}, shape ∈ r.shapes → fieldsOf shape bindings = .error e →
      e.isUnknownName = false)
    {parents : List Parent} (hparents : ∀ p ∈ parents, r.contains p.shape = true)
    {bindings : Bindings} {fields : List Field} {e : SpecError}
    (h : r.inheritAll fieldsOf bindings fields parents = .error e) : e.isUnknownName = false := by
  induction parents generalizing fields with
  | nil => cases h
  | cons parent rest ih =>
    obtain ⟨shape, hshape, hmem⟩ := exists_of_contains (hparents parent List.mem_cons_self)
    unfold inheritAll at h
    rcases bind_eq_error.mp h with hmissing | ⟨found, hfound, h⟩
    · cases hshape.symm.trans hmissing
    cases hshape.symm.trans hfound
    rcases bind_eq_error.mp h with hunfit | ⟨_, _, h⟩
    · exact checkArity_error hunfit
    rcases bind_eq_error.mp h with hinherited | ⟨inherited, _, hrest⟩
    · exact hfieldsOf hmem hinherited
    · exact ih (fun p hp => hparents p (List.mem_cons_of_mem parent hp)) hrest

theorem collectFields_error (hr : r.checkReferences = .ok ()) {steps : Nat} {lineage : List String}
    {shape : Shape} (hshape : shape ∈ r.shapes) {bindings : Bindings} {e : SpecError}
    (h : r.collectFields steps lineage shape bindings = .error e) : e.isUnknownName = false := by
  induction steps generalizing lineage shape bindings e with
  | zero =>
    cases h
    rfl
  | succ steps ih =>
    unfold collectFields at h
    split at h
    · cases h
      rfl
    · rcases bind_eq_error.mp h with hinherited | ⟨_, _, h⟩
      · exact inheritAll_error (fun hmem => ih hmem) (checkReferences_eq_ok.mp hr shape hshape).1 hinherited
      · cases h

/-- The fields of a shape with known arguments mention known names only. -/
theorem known_fieldsOf (hr : r.checkReferences = .ok ()) {a : Applied}
    (ha : (Kind.record a.1 a.2).Known r) {fields : List Field} (h : r.fieldsOf a = .ok fields) :
    ∀ f ∈ fields, f.kind.Known r :=
  throughout_fieldsOf (Kind.steady_knows r)
    (fun shape hshape => (checkReferences_eq_ok.mp hr shape hshape).2) (Kind.known_record.mp ha).2 h

/-- What is attempted on the way to a shape has known arguments if the shape has, so an attempt that
fails does not fail for a name. -/
theorem attempt_error (hr : r.checkReferences = .ok ()) {memoize : Bool} {steps : Nat}
    {stack : List String} {a : Applied} (ha : (Kind.record a.1 a.2).Known r)
    {done done' : List Applied} {e : SpecError}
    (h : r.attempt memoize steps stack a done = (.error e, done')) : e.isUnknownName = false := by
  have hname := (Kind.known_record.mp ha).1
  induction steps generalizing stack a done done' with
  | zero =>
    cases attempt_cases h with
    | unfit _ _ happlied => exact applied_error hname happlied
  | succ steps ih =>
    cases attempt_cases h with
    | unfit _ _ happlied => exact applied_error hname happlied
    | fieldless _ _ happlied hfields => exact collectFields_error hr (mem_of_applied happlied) hfields
    | stopped _ _ happlied hfields hall =>
      obtain ⟨b, hb, mid, hrun⟩ := attemptAll_error hall
      obtain ⟨f, hf, hrecord⟩ := List.mem_flatMap.mp hb
      have hknown := known_fieldsOf hr ha (bind_eq_ok.mpr ⟨_, happlied, hfields⟩) f hf
      have hb' : (Kind.record b.1 b.2).Known r := hknown.records b hrecord
      exact ih hb' hrun (Kind.known_record.mp hb').1

end

end Registry

/-! ## References -/

/-- Every name in the reference means something. -/
def Target.Known (r : Registry) (target : Target) : Prop := target.Throughout r.Knows

section
variable {id : Nat} {r : Registry}

/-- What known references lead to is known. -/
theorem inwards_known (hr : r.checkReferences = .ok ()) : Inwards id r (Target.Known r) :=
  fun ha hfields f hf => (Registry.known_fieldsOf hr ha hfields f hf).targets

/-- A look behind a known reference does not fail for a name. -/
theorem Registry.seek_error (hr : r.checkReferences = .ok ()) {target : Target}
    (htarget : target.Known r) {memoize : Bool} {done : List Applied} {e : SpecError}
    (h : (r.seek memoize target done).1 = .error e) : e.isUnknownName = false := by
  cases target with
  | bound name => exact htarget.elim
  | shape registry name args => exact attempt_error hr (a := (name, args)) htarget (Prod.ext h rfl)
  | forward registry name args =>
    simp only [seek] at h
    by_cases hname : r.contains name = true
    · rw [if_pos hname] at h
      exact attempt_error hr (a := (name, args)) (Kind.Known.record_of_forward htarget hname)
        (Prod.ext h rfl)
    · have hbuiltin := (Kind.known_forward.mp htarget).1.resolve_left hname
      rw [if_neg hname, if_pos hbuiltin] at h
      cases h

end

end Conform

import Conform.Proofs.Check.Walk
import Conform.Proofs.Spec.Depth
import Conform.Proofs.Value.Projection
/-!
Specs without coercions only project. Every stage hands on a projection of what it was given, and
projections compose; a dictionary puts together pairs that the object has, and the check of
placeholders writes back what it read. Behind lazy references there may be coercions, so walks are told
apart that stop where something is found that is not accepted.
-/

namespace Conform

open Check (Ensures)

/-- What is made of the value, if it is valid, is a projection of it. -/
def Conformed.Projects (c : Conformed) (v : Value) : Prop := ∀ w, c = .valid w → w.Projects v

namespace Conformed

theorem projects_valid {w v : Value} (h : w.Projects v) : (valid w).Projects v := yields_valid h

theorem projects_invalid (v : Value) : invalid.Projects v := yields_invalid _

theorem projects_ofBool (passes : Bool) (v : Value) : (ofBool passes v).Projects v :=
  yields_ofBool fun _ => .refl v

end Conformed

open Conformed (projects_valid projects_invalid projects_ofBool)

namespace Spec

mutual

/-- No value is coerced anywhere in the tree. -/
def uncoerced : Spec → Bool
  | coerce .. => false
  | decorated _ s _ => uncoerced s
  | collOf _ item => uncoerced item
  | oneOf _ ss | allOf _ ss => allUncoerced ss
  | dict _ keys _ => keysUncoerced keys
  | anything _ | never _ | predicate _ _ | equalTo _ _ | isInstance _ _ | isIn _ _ | deferred _ _
  | unbound _ _ | consistency _ _ => true

def allUncoerced : List Spec → Bool
  | [] => true
  | s :: ss => uncoerced s && allUncoerced ss

def keysUncoerced : List (String × Spec) → Bool
  | [] => true
  | (_, s) :: keys => uncoerced s && keysUncoerced keys

end

variable {d : Delegate}

/-- Walks of the spec make projections of the value. -/
def Projecting (d : Delegate) (s : Spec) (v : Value) : Prop :=
  Ensures True (fun _ => True) (conformWith d s v) (·.Projects v)

theorem projecting_collOf {item : Spec} (h : ∀ v, Projecting d item v) (i : Instance) (v : Value) :
    Projecting d (collOf i item) v := by
  unfold Projecting conformWith
  cases v with
  | list vs =>
    refine (conformItems_forall₂ (R := Value.Projects) fun u _ => h u).bind fun made hmade => ?_
    cases made with
    | some ws => exact Ensures.pure (projects_valid (.list (hmade ws rfl)))
    | none => exact Ensures.pure (projects_invalid _)
  | tuple vs =>
    refine (conformItems_forall₂ (R := Value.Projects) fun u _ => h u).bind fun made hmade => ?_
    cases made with
    | some ws => exact Ensures.pure (projects_valid (.tuple (hmade ws rfl)))
    | none => exact Ensures.pure (projects_invalid _)
  | null | bool | int | float | string | bytes | object => exact Ensures.pure (projects_invalid _)

theorem projecting_consistency (i : Instance) (groups : List PlaceholderGroup) (v : Value) :
    Projecting d (consistency i groups) v := by
  unfold Projecting conformWith
  refine Ensures.pure fun w hw => ?_
  rw [conformConsistency_eq_valid hw]
  exact .refl v

mutual

/-- Walks of a tree without coercions make projections, if they do so at the lazy references. -/
theorem projecting (hd : ∀ i reference v, Projecting d (deferred i reference) v) :
    ∀ s : Spec, s.uncoerced = true → ∀ v, Projecting d s v
  | anything _, _, v | unbound _ _, _, v => by
    unfold Projecting conformWith
    exact Ensures.pure (projects_valid (.refl v))
  | never _, _, v => by
    unfold Projecting conformWith
    exact Ensures.pure (projects_invalid v)
  | predicate _ _, _, v | equalTo _ _, _, v | isInstance _ _, _, v | isIn _ _, _, v => by
    unfold Projecting conformWith
    exact Ensures.pure (projects_ofBool _ v)
  | consistency i groups, _, v => projecting_consistency i groups v
  | deferred i reference, _, v => hd i reference v
  | decorated _ s _, h, v => by
    unfold uncoerced at h
    unfold Projecting
    rw [conformWith_decorated]
    exact projecting hd s h v
  | coerce .., h, _ => by
    unfold uncoerced at h
    cases h
  | collOf i item, h, v => by
    unfold uncoerced at h
    exact projecting_collOf (projecting hd item h) i v
  | oneOf _ ss, h, v => by
    unfold uncoerced at h
    unfold Projecting conformWith
    exact projecting_first hd ss h v
  | allOf _ ss, h, v => by
    unfold uncoerced at h
    unfold Projecting conformWith
    exact projecting_through hd ss h v
  | dict _ keys extra, h, v => by
    unfold uncoerced at h
    unfold Projecting conformWith
    cases v with
    | object pairs =>
      refine (projecting_keys hd keys h pairs).bind fun made hmade => ?_
      cases made with
      | none => exact Ensures.pure (projects_invalid _)
      | some declared =>
        simp only
        split
        · next others hextra =>
          refine Ensures.pure (projects_valid (.object fun key w hmem => ?_))
          rcases List.mem_append.mp hmem with hmem | hmem
          · exact hmade declared rfl key w hmem
          · exact ⟨w, (List.mem_filter.mp (Meaning.conformExtra_subset hextra hmem)).1, .refl w⟩
        · exact Ensures.pure (projects_invalid _)
    | null | bool | int | float | string | bytes | list | tuple =>
      exact Ensures.pure (projects_invalid _)

theorem projecting_first (hd : ∀ i reference v, Projecting d (deferred i reference) v) :
    ∀ ss : List Spec, allUncoerced ss = true → ∀ v,
      Ensures True (fun _ => True) (conformFirst d ss v) (·.Projects v)
  | [], _, v => by
    unfold conformFirst
    exact Ensures.pure (projects_invalid v)
  | s :: ss, h, v => by
    unfold allUncoerced at h
    obtain ⟨hs, hss⟩ := Bool.and_eq_true_iff.mp h
    unfold conformFirst
    refine (projecting hd s hs v).bind fun c hc => ?_
    cases c with
    | valid w => exact Ensures.pure hc
    | invalid => exact projecting_first hd ss hss v

/-- A stage makes a projection of a projection. -/
theorem projecting_through (hd : ∀ i reference v, Projecting d (deferred i reference) v) :
    ∀ ss : List Spec, allUncoerced ss = true → ∀ v,
      Ensures True (fun _ => True) (conformThrough d ss v) (·.Projects v)
  | [], _, v => by
    unfold conformThrough
    exact Ensures.pure (projects_valid (.refl v))
  | s :: ss, h, v => by
    unfold allUncoerced at h
    obtain ⟨hs, hss⟩ := Bool.and_eq_true_iff.mp h
    unfold conformThrough
    refine (projecting hd s hs v).bind fun c hc => ?_
    cases c with
    | valid w =>
      exact (projecting_through hd ss hss w).mono fun _ hmade u hu => (hmade u hu).trans (hc w rfl)
    | invalid => exact Ensures.pure (projects_invalid v)

theorem projecting_keys (hd : ∀ i reference v, Projecting d (deferred i reference) v) :
    ∀ keys : List (String × Spec), keysUncoerced keys = true → ∀ pairs : List (String × Value),
      Ensures True (fun _ => True) (conformKeys d keys (.object pairs)) fun made =>
        ∀ declared, made = some declared → ∀ key w, (key, w) ∈ declared →
          ∃ v, (key, v) ∈ pairs ∧ w.Projects v
  | [], _, _ => by
    unfold conformKeys
    refine Ensures.pure fun _ hmade => ?_
    cases hmade
    exact fun _ _ hmem => absurd hmem List.not_mem_nil
  | (name, s) :: keys, h, pairs => by
    unfold keysUncoerced at h
    obtain ⟨hs, hkeys⟩ := Bool.and_eq_true_iff.mp h
    unfold conformKeys
    cases hget : (Value.object pairs).get? name with
    | none => exact Ensures.pure fun _ hmade => by cases hmade
    | some present =>
      refine (projecting hd s hs present).bind fun c hc => ?_
      cases c with
      | invalid => exact Ensures.pure fun _ hmade => by cases hmade
      | valid w =>
        refine (projecting_keys hd keys hkeys pairs).bind fun made hmade => ?_
        refine Ensures.pure fun declared hdeclared key u hmem => ?_
        obtain ⟨rest, hrest, rfl⟩ := Option.map_eq_some_iff.mp hdeclared
        rcases List.mem_cons.mp hmem with heq | hmem
        · cases heq
          exact ⟨present, mem_of_lookup_pair hget, hc w rfl⟩
        · exact hmade rest hrest key u hmem

end

end Spec

/-! ## References -/

/-- Looks behind a reference, and has no result if a spec is there that is not accepted. -/
def Session.resolveAmong (accept : Spec → Bool) (reference : Reference) :
    Check (Except SpecError Spec) := fun s =>
  match (resolve reference).run s with
  | (.ok spec, t) => if accept spec then some (.ok spec, t) else none
  | (.error e, t) => some (.error e, t)

/-- Walks that stop where a spec is found that is not accepted. -/
def Delegate.accepting (accept : Spec → Bool) : Nat → Delegate
  | 0 => ⟨Session.resolveAmong accept, fun _ _ _ => none, fun _ _ _ _ => none, fun _ _ => none⟩
  | n + 1 =>
    ⟨Session.resolveAmong accept, fun s v => s.conformWith (accepting accept n) v,
      fun s path v => s.explainWith (accepting accept n) path v,
      fun s => s.describeWith (accepting accept n)⟩

namespace Check

/-- While it conforms the value, the call finds nothing behind references that is not accepted. -/
def ConformMeets (accept : Spec → Bool) (spec : Spec) (v : Value) (s : Session) : Prop :=
  spec.conformWith (.accepting accept (reach v s)) v s = conform spec v s

theorem resolveAmong_ensures (accept : Spec → Bool) (reference : Reference) :
    Ensures True (fun _ => True) (Session.resolveAmong accept reference) fun found =>
      ∀ spec, found = .ok spec → accept spec = true := by
  intro s _
  unfold Session.resolveAmong
  rcases (Session.resolve reference).run s with ⟨e | spec, t⟩
  · exact ⟨fun _ hspec => (by cases hspec), trivial⟩
  · cases haccept : accept spec with
    | true =>
      simp only [haccept, if_true]
      exact ⟨fun _ hspec => by cases hspec; exact haccept, trivial⟩
    | false => simp only [haccept, Bool.false_eq_true, if_false]

end Check

namespace Spec

theorem projecting_deferred {d : Delegate} (hd : d.resolve = Session.resolveAmong uncoerced)
    (h : ∀ s, uncoerced s = true → ∀ v,
      Ensures True (fun _ => True) (d.conform s v) (·.Projects v))
    (i : Instance) (reference : Reference) (v : Value) : Projecting d (deferred i reference) v := by
  unfold Projecting conformWith
  rw [hd]
  refine (Check.resolveAmong_ensures uncoerced reference).bind fun found hfound => ?_
  cases found with
  | ok spec => exact h spec (hfound spec rfl) v
  | error e => exact Ensures.pure (projects_invalid v)

/-- Walks that find no coercion make projections. The induction is on how many references are left to
go through. -/
theorem projecting_accepting (n : Nat) (s : Spec) (hs : s.uncoerced = true) (v : Value) :
    Projecting (.accepting uncoerced n) s v := by
  induction n generalizing s v with
  | zero =>
    refine projecting (projecting_deferred rfl fun _ _ _ => ?_) s hs v
    exact Ensures.of_none trivial fun _ => rfl
  | succ n ih =>
    refine projecting (projecting_deferred rfl fun _ hspec _ => ?_) s hs v
    exact ih _ hspec _

end Spec

/-- A call that finds no coercion makes a projection of the value. -/
theorem Check.projects_of_meets {spec : Spec} {v w : Value} {s t : Session}
    (hspec : spec.uncoerced = true) (hs : ConformMeets Spec.uncoerced spec v s)
    (h : conform spec v s = some (.valid w, t)) : w.Projects v :=
  ((Spec.projecting_accepting _ spec hspec v).of_some trivial (hs.trans h)).1 w rfl

end Conform

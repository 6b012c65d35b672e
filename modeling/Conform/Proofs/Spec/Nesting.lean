import Conform.Proofs.Check.Ensures
/-!
Combinators that are nested in themselves. Where a list of parts may have those of one of its combinators in
its place, a whole tree of combinators comes down to the leaves of the tree, from left to right. Stages and
alternatives are such lists, for what they conform to and for what specs mean.
-/

namespace Conform

/-- Specs as they are nested by a combinator. -/
inductive Nesting where
  | leaf (spec : Spec)
  | node (id : Instance) (parts : List Nesting)

namespace Nesting

mutual

/-- The spec that the combinator makes of the tree. -/
def spec (combine : Instance → List Spec → Spec) : Nesting → Spec
  | leaf s => s
  | node id parts => combine id (specs combine parts)

def specs (combine : Instance → List Spec → Spec) : List Nesting → List Spec
  | [] => []
  | t :: ts => spec combine t :: specs combine ts

end

mutual

/-- The leaves from left to right. -/
def leaves : Nesting → List Spec
  | leaf s => [s]
  | node _ parts => allLeaves parts

def allLeaves : List Nesting → List Spec
  | [] => []
  | t :: ts => leaves t ++ allLeaves ts

end

/-- A relation of lists of parts that lets a combinator's own parts stand in its place. -/
structure Splices (combine : Instance → List Spec → Spec) (R : List Spec → List Spec → Prop) : Prop where
  refl (ss : List Spec) : R ss ss
  trans {ss ts us : List Spec} : R ss ts → R ts us → R ss us
  cons (s : Spec) {ss ts : List Spec} : R ss ts → R (s :: ss) (s :: ts)
  splice (i : Instance) (ss ts : List Spec) : R (combine i ss :: ts) (ss ++ ts)

section
variable {combine : Instance → List Spec → Spec} {R : List Spec → List Spec → Prop}

theorem Splices.append (h : Splices combine R) (ss : List Spec) {ts us : List Spec} (htu : R ts us) :
    R (ss ++ ts) (ss ++ us) := by
  induction ss with
  | nil => exact htu
  | cons s ss ih => exact h.cons s ih

mutual

theorem spec_splices (h : Splices combine R) :
    (t : Nesting) → (rest : List Spec) → R (t.spec combine :: rest) (t.leaves ++ rest)
  | leaf s, rest => by
    rw [spec, leaves]
    exact h.refl (s :: rest)
  | node i parts, rest => by
    rw [spec, leaves]
    exact h.trans (h.splice i (specs combine parts) rest) (specs_splices h parts rest)

/-- The combinators at the top are opened from left to right, each with all that is below it. -/
theorem specs_splices (h : Splices combine R) :
    (ts : List Nesting) → (rest : List Spec) → R (specs combine ts ++ rest) (allLeaves ts ++ rest)
  | [], rest => h.refl rest
  | t :: ts, rest => by
    rw [specs, allLeaves, List.cons_append, List.append_assoc]
    exact h.trans (spec_splices h t _) (h.append t.leaves (specs_splices h ts rest))

end

/-- A tree comes down to its leaves. -/
theorem flat (h : Splices combine R) (ts : List Nesting) : R (specs combine ts) (allLeaves ts) := by
  have hnothing := specs_splices h ts []
  rwa [List.append_nil, List.append_nil] at hnothing

end

end Nesting

open Nesting (Splices)

/-! ## Meanings -/

namespace Meaning

variable {ms ns ms' : List Meaning} {m : Meaning}

theorem conformThrough_append (v : Value) : conformThrough (ms ++ ns) v =
    match conformThrough ms v with
    | .valid w => conformThrough ns w
    | .invalid => .invalid := by
  induction ms generalizing v with
  | nil => rfl
  | cons m ms ih =>
    rw [List.cons_append, conformThrough, conformThrough]
    cases m.conform v with
    | valid w => exact ih w
    | invalid => rfl

theorem explainThrough_append (path : Path) (v : Value) : explainThrough (ms ++ ns) path v =
    match conformThrough ms v with
    | .valid w => explainThrough ns path w
    | .invalid => explainThrough ms path v := by
  induction ms generalizing v with
  | nil => rfl
  | cons m ms ih =>
    rw [List.cons_append, explainThrough, explainThrough, conformThrough]
    cases m.conform v with
    | valid w => exact ih w
    | invalid => rfl

theorem allOf_eq_iff : allOf ms = allOf ns ↔
    (∀ v, conformThrough ms v = conformThrough ns v) ∧
      ∀ path v, explainThrough ms path v = explainThrough ns path v := by
  rw [allOf, allOf, Meaning.mk.injEq, funext_iff, funext_iff]
  simp only [funext_iff]

/-- Stages of stages are stages. -/
theorem allOf_splice : allOf (allOf ms :: ns) = allOf (ms ++ ns) :=
  allOf_eq_iff.mpr
    ⟨fun v => (conformThrough_append v).symm, fun path v => (explainThrough_append path v).symm⟩

theorem allOf_cons (h : allOf ms = allOf ns) : allOf (m :: ms) = allOf (m :: ns) := by
  obtain ⟨hconform, hexplain⟩ := allOf_eq_iff.mp h
  refine allOf_eq_iff.mpr ⟨fun v => ?_, fun path v => ?_⟩
  · simp only [conformThrough, hconform]
  · simp only [explainThrough, hexplain]

theorem conformFirst_append (v : Value) : conformFirst (ms ++ ns) v =
    match conformFirst ms v with
    | .valid w => .valid w
    | .invalid => conformFirst ns v := by
  induction ms with
  | nil => rfl
  | cons m ms ih =>
    rw [List.cons_append, conformFirst, conformFirst]
    cases m.conform v with
    | valid w => rfl
    | invalid => exact ih

theorem oneOf_eq_iff : oneOf ms = oneOf ns ↔
    (∀ v, conformFirst ms v = conformFirst ns v) ∧
      ∀ path v, (oneOf ms).explain path v = (oneOf ns).explain path v := by
  constructor
  · intro h
    exact ⟨fun v => congrArg (·.conform v) h, fun path v => congrArg (·.explain path v) h⟩
  · rintro ⟨hconform, hexplain⟩
    exact Meaning.mk.injEq _ _ _ _ ▸
      ⟨funext hconform, funext fun path => funext fun v => hexplain path v⟩

section
variable {v w : Value}

theorem explain_oneOf_of_valid (h : conformFirst ms v = .valid w) (path : Path) :
    (oneOf ms).explain path v = [] := by
  simp [oneOf, h]

theorem explain_oneOf_of_invalid (h : conformFirst ms v = .invalid) (path : Path) :
    (oneOf ms).explain path v = ms.flatMap fun m => m.explain path v := by
  simp [oneOf, h]

end

/-- Alternatives of alternatives are alternatives. -/
theorem oneOf_splice : oneOf (oneOf ms :: ns) = oneOf (ms ++ ns) := by
  have hconform : ∀ v, conformFirst (oneOf ms :: ns) v = conformFirst (ms ++ ns) v := fun v =>
    (conformFirst_append v).symm
  refine oneOf_eq_iff.mpr ⟨hconform, fun path v => ?_⟩
  cases h : conformFirst (ms ++ ns) v with
  | valid w =>
    rw [explain_oneOf_of_valid h, explain_oneOf_of_valid ((hconform v).trans h)]
  | invalid =>
    have hfirst : conformFirst ms v = .invalid := by
      rw [conformFirst_append] at h
      cases hms : conformFirst ms v with
      | valid w =>
        rw [hms] at h
        cases h
      | invalid => rfl
    rw [explain_oneOf_of_invalid h, explain_oneOf_of_invalid ((hconform v).trans h),
      List.flatMap_cons, List.flatMap_append, explain_oneOf_of_invalid hfirst]

theorem oneOf_cons (h : oneOf ms = oneOf ns) : oneOf (m :: ms) = oneOf (m :: ns) := by
  obtain ⟨hfirst, hexplain⟩ := oneOf_eq_iff.mp h
  have hconform : ∀ v, conformFirst (m :: ms) v = conformFirst (m :: ns) v := fun v => by
    simp only [conformFirst, hfirst]
  refine oneOf_eq_iff.mpr ⟨hconform, fun path v => ?_⟩
  cases hms : conformFirst (m :: ms) v with
  | valid w =>
    rw [explain_oneOf_of_valid hms, explain_oneOf_of_valid ((hconform v).symm.trans hms)]
  | invalid =>
    have hrest : conformFirst ms v = .invalid := by
      rw [conformFirst] at hms
      cases hm : m.conform v with
      | valid w =>
        rw [hm] at hms
        cases hms
      | invalid =>
        rw [hm] at hms
        exact hms
    have hothers := hexplain path v
    rw [explain_oneOf_of_invalid hrest, explain_oneOf_of_invalid ((hfirst v).symm.trans hrest)] at hothers
    rw [explain_oneOf_of_invalid hms, explain_oneOf_of_invalid ((hconform v).symm.trans hms),
      List.flatMap_cons, List.flatMap_cons, hothers]

end Meaning

/-! ## Specs -/

namespace Spec

section
variable (refs : Instance → Reference → Meaning)

theorem meanings_append (ss ts : List Spec) :
    meanings refs (ss ++ ts) = meanings refs ss ++ meanings refs ts := by
  induction ss with
  | nil => rfl
  | cons s ss ih => rw [List.cons_append, meanings, meanings, ih, List.cons_append]

theorem splices_allOf :
    Splices allOf fun ss ts => Meaning.allOf (meanings refs ss) = Meaning.allOf (meanings refs ts) where
  refl _ := rfl
  trans := Eq.trans
  cons s _ _ h := by
    rw [meanings, meanings]
    exact Meaning.allOf_cons h
  splice i ss ts := by
    rw [meanings, meaning, meanings_append]
    exact Meaning.allOf_splice

theorem splices_oneOf :
    Splices oneOf fun ss ts => Meaning.oneOf (meanings refs ss) = Meaning.oneOf (meanings refs ts) where
  refl _ := rfl
  trans := Eq.trans
  cons s _ _ h := by
    rw [meanings, meanings]
    exact Meaning.oneOf_cons h
  splice i ss ts := by
    rw [meanings, meaning, meanings_append]
    exact Meaning.oneOf_splice

end

end Spec

end Conform

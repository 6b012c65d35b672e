import Conform.Registry.Basic
/-!
Deriving without building. Whether a shape can be derived depends on the shapes that its fields
mention, on the stack they are derived below, and on what is kept already; the specs themselves play
no part in it. An attempt goes through the same shapes in the same order, and notes those it is done
with.
-/

namespace Conform

/-- A shape by name, with arguments. -/
abbrev Applied := String × List Kind

namespace Kind

mutual

/-- The shapes that the spec of a kind is built from, in order. Arguments are not among them. -/
def records : Kind → List Applied
  | leaf _ | nothing | forward _ _ | placeholder _ => []
  | record name args => [(name, args)]
  | list item => records item
  | union ks => recordsOfAll ks

def recordsOfAll : List Kind → List Applied
  | [] => []
  | k :: ks => records k ++ recordsOfAll ks

end

end Kind

def Field.recordsOfAll (fields : List Field) : List Applied :=
  fields.flatMap fun f => f.kind.records

namespace Registry

/-- The shape, if it is registered and takes the arguments. -/
def applied (r : Registry) (a : Applied) : Except SpecError Shape := do
  let shape ← r.lookup a.1
  checkArity shape a.2.length
  return shape

/-- The fields of a shape under its arguments. -/
def fieldsOf (r : Registry) (a : Applied) : Except SpecError (List Field) := do
  let shape ← r.applied a
  r.effectiveFields shape (bind shape.params a.2)

/-! ## Attempts -/

/-- The outcome of an attempt, and what is done after it. -/
abbrev Outcome := Except SpecError Unit × List Applied

def attemptAll (attempt : Applied → List Applied → Outcome) : List Applied → List Applied → Outcome
  | [], done => (.ok (), done)
  | a :: as, done =>
    match attempt a done with
    | (.ok (), done) => attemptAll attempt as done
    | (.error e, done) => (.error e, done)

/-- Nothing is attempted. -/
def skip (done : List Applied) : Outcome := (.ok (), done)

def andThen (f g : List Applied → Outcome) (done : List Applied) : Outcome :=
  match f done with
  | (.ok (), done) => g done
  | (.error e, done) => (.error e, done)

def after {α : Type} (x : Except SpecError α) (g : α → List Applied → Outcome)
    (done : List Applied) : Outcome :=
  match x with
  | .ok a => g a done
  | .error e => (.error e, done)

/-- Goes through the shapes that a derivation goes through. If specs are kept, what is done is not
gone into again. -/
def attempt (r : Registry) (memoize : Bool) :
    Nat → List String → Applied → List Applied → Outcome
  | steps, stack, a, done =>
    if memoize = true ∧ a ∈ done then (.ok (), done)
    else
      (if a.1 ∈ stack then skip
      else after (r.applied a) fun shape =>
        match steps with
        | 0 => skip
        | steps + 1 =>
          after (r.effectiveFields shape (bind shape.params a.2)) fun fields =>
            andThen
              (attemptAll (attempt r memoize steps (a.1 :: stack)) (Field.recordsOfAll fields))
              fun done => (.ok (), a :: done)) done

theorem andThen_skip (f : List Applied → Outcome) : andThen f skip = f := by
  funext done
  unfold andThen
  rcases f done with ⟨e | u, done'⟩ <;> rfl

theorem andThen_error {f : List Applied → Outcome} {done : List Applied} {e : SpecError}
    (h : (f done).1 = .error e) (g : List Applied → Outcome) :
    andThen f g done = (.error e, (f done).2) := by
  rcases hf : f done with ⟨o, done'⟩
  obtain rfl : o = .error e := by rwa [hf] at h
  simp only [andThen, hf]

theorem skip_andThen (f : List Applied → Outcome) : andThen skip f = f := rfl

theorem attemptAll_append (f : Applied → List Applied → Outcome) (as bs : List Applied) :
    attemptAll f (as ++ bs) =
      andThen (attemptAll f as) (attemptAll f bs) := by
  induction as with
  | nil => rfl
  | cons a as ih =>
    funext done
    rcases ha : f a done with ⟨e | u, done'⟩
    · simp [attemptAll, andThen, ha]
    · simp [attemptAll, andThen, ha, ih]

theorem attemptAll_singleton (f : Applied → List Applied → Outcome) (a : Applied) :
    attemptAll f [a] = f a :=
  andThen_skip (f a)

/-- How an attempt can end. -/
inductive Attempted (r : Registry) (memoize : Bool) :
    Nat → List String → Applied → List Applied → Outcome → Prop
  | kept {steps stack a done} : memoize = true → a ∈ done →
    Attempted r memoize steps stack a done (.ok (), done)
  | lazily {steps stack a done} : ¬ (memoize = true ∧ a ∈ done) → a.1 ∈ stack →
    Attempted r memoize steps stack a done (.ok (), done)
  | unfit {steps stack a done e} : ¬ (memoize = true ∧ a ∈ done) → a.1 ∉ stack →
    r.applied a = .error e → Attempted r memoize steps stack a done (.error e, done)
  | spent {stack a done shape} : ¬ (memoize = true ∧ a ∈ done) → a.1 ∉ stack →
    r.applied a = .ok shape → Attempted r memoize 0 stack a done (.ok (), done)
  | fieldless {steps stack a done shape e} : ¬ (memoize = true ∧ a ∈ done) → a.1 ∉ stack →
    r.applied a = .ok shape → r.effectiveFields shape (bind shape.params a.2) = .error e →
    Attempted r memoize (steps + 1) stack a done (.error e, done)
  | stopped {steps stack a done shape fields e done'} : ¬ (memoize = true ∧ a ∈ done) →
    a.1 ∉ stack → r.applied a = .ok shape →
    r.effectiveFields shape (bind shape.params a.2) = .ok fields →
    attemptAll (attempt r memoize steps (a.1 :: stack)) (Field.recordsOfAll fields) done =
      (.error e, done') →
    Attempted r memoize (steps + 1) stack a done (.error e, done')
  | finished {steps stack a done shape fields done'} : ¬ (memoize = true ∧ a ∈ done) →
    a.1 ∉ stack → r.applied a = .ok shape →
    r.effectiveFields shape (bind shape.params a.2) = .ok fields →
    attemptAll (attempt r memoize steps (a.1 :: stack)) (Field.recordsOfAll fields) done =
      (.ok (), done') →
    Attempted r memoize (steps + 1) stack a done (.ok (), a :: done')

theorem attempt_cases {r : Registry} {memoize : Bool} {steps : Nat} {stack : List String}
    {a : Applied} {done : List Applied} {o : Outcome}
    (h : attempt r memoize steps stack a done = o) : Attempted r memoize steps stack a done o := by
  subst h
  unfold attempt
  by_cases hkept : memoize = true ∧ a ∈ done
  · rw [if_pos hkept]
    exact .kept hkept.1 hkept.2
  rw [if_neg hkept]
  by_cases hstack : a.1 ∈ stack
  · rw [if_pos hstack]
    exact .lazily hkept hstack
  rw [if_neg hstack]
  cases happlied : r.applied a with
  | error e => exact .unfit hkept hstack happlied
  | ok shape =>
    cases steps with
    | zero => exact .spent hkept hstack happlied
    | succ steps =>
      cases hfields : r.effectiveFields shape (bind shape.params a.2) with
      | error e =>
        simp only [after, hfields]
        exact .fieldless hkept hstack happlied hfields
      | ok fields =>
        simp only [after, hfields, andThen]
        split
        · next hall => exact .finished hkept hstack happlied hfields hall
        · next hall => exact .stopped hkept hstack happlied hfields hall

/-! The same read the other way: what the attempt is, given how it goes. -/

section
variable {r : Registry} {memoize : Bool} {steps : Nat} {stack : List String} {a : Applied}
  {done : List Applied} {shape : Shape}

theorem attempt_lazily (hstack : a.1 ∈ stack) :
    r.attempt memoize steps stack a done = (.ok (), done) := by
  unfold attempt
  rw [if_pos hstack]
  exact ite_self _

theorem attempt_unfit (hkept : ¬ (memoize = true ∧ a ∈ done)) (hstack : a.1 ∉ stack) {e : SpecError}
    (happlied : r.applied a = .error e) :
    r.attempt memoize steps stack a done = (.error e, done) := by
  unfold attempt
  rw [if_neg hkept, if_neg hstack, happlied]
  rfl

theorem attempt_spent (happlied : r.applied a = .ok shape) :
    r.attempt memoize 0 stack a done = (.ok (), done) := by
  unfold attempt
  rw [happlied]
  by_cases hstack : a.1 ∈ stack
  · rw [if_pos hstack]
    exact ite_self _
  · rw [if_neg hstack]
    exact ite_self _

theorem attempt_fieldless (hkept : ¬ (memoize = true ∧ a ∈ done)) (hstack : a.1 ∉ stack)
    {e : SpecError} (happlied : r.applied a = .ok shape)
    (hfields : r.effectiveFields shape (bind shape.params a.2) = .error e) :
    r.attempt memoize (steps + 1) stack a done = (.error e, done) := by
  unfold attempt
  rw [if_neg hkept, if_neg hstack, happlied]
  simp only [after, hfields]

theorem attempt_fields (hkept : ¬ (memoize = true ∧ a ∈ done)) (hstack : a.1 ∉ stack)
    {fields : List Field} (happlied : r.applied a = .ok shape)
    (hfields : r.effectiveFields shape (bind shape.params a.2) = .ok fields) :
    r.attempt memoize (steps + 1) stack a done =
      andThen (attemptAll (attempt r memoize steps (a.1 :: stack)) (Field.recordsOfAll fields))
        (fun done => (.ok (), a :: done)) done := by
  conv => lhs; unfold attempt
  rw [if_neg hkept, if_neg hstack, happlied]
  simp only [after, hfields]

end

theorem attemptAll_cons_ok {f : Applied → List Applied → Outcome} {a : Applied}
    {done : List Applied} (ha : (f a done).1 = .ok ()) (as : List Applied) :
    attemptAll f (a :: as) done = attemptAll f as (f a done).2 := by
  rcases h : f a done with ⟨o, done'⟩
  obtain rfl : o = .ok () := by rwa [h] at ha
  simp only [attemptAll, h]

theorem attemptAll_cons_error {f : Applied → List Applied → Outcome} {a : Applied}
    {done : List Applied} {e : SpecError} (ha : (f a done).1 = .error e) (as : List Applied) :
    attemptAll f (a :: as) done = (.error e, (f a done).2) := by
  rcases h : f a done with ⟨o, done'⟩
  obtain rfl : o = .error e := by rwa [h] at ha
  simp only [attemptAll, h]

theorem attemptAll_cases {f : Applied → List Applied → Outcome} {a : Applied} {as : List Applied}
    {done done' : List Applied} {o : Except SpecError Unit}
    (h : attemptAll f (a :: as) done = (o, done')) :
    (∃ mid, f a done = (.ok (), mid) ∧ attemptAll f as mid = (o, done')) ∨
      ∃ e, f a done = (.error e, done') ∧ o = .error e := by
  rcases ha : f a done with ⟨e | u, mid⟩
  · simp only [attemptAll, ha, Prod.mk.injEq] at h
    exact .inr ⟨e, by rw [h.2], h.1.symm⟩
  · simp only [attemptAll, ha] at h
    exact .inl ⟨mid, rfl, h⟩

/-! ### What is done stays done -/

theorem attemptAll_subset {f : Applied → List Applied → Outcome}
    (hf : ∀ {a done o done'}, f a done = (o, done') → done ⊆ done') {as done done' : List Applied}
    {o : Except SpecError Unit} (h : attemptAll f as done = (o, done')) : done ⊆ done' := by
  induction as generalizing done with
  | nil =>
    cases h
    exact fun _ h => h
  | cons a as ih =>
    rcases attemptAll_cases h with ⟨mid, ha, hrest⟩ | ⟨e, ha, _⟩
    · exact List.Subset.trans (hf ha) (ih hrest)
    · exact hf ha

theorem attempt_subset {r : Registry} {memoize : Bool} {steps : Nat} {stack : List String}
    {a : Applied} {done done' : List Applied} {o : Except SpecError Unit}
    (h : attempt r memoize steps stack a done = (o, done')) : done ⊆ done' := by
  induction steps generalizing stack a done o done' with
  | zero => cases attempt_cases h <;> exact fun _ h => h
  | succ steps ih =>
    cases attempt_cases h with
    | kept | lazily | unfit | fieldless => exact fun _ h => h
    | stopped _ _ _ _ hall => exact attemptAll_subset ih hall
    | finished _ _ _ _ hall => exact List.subset_cons_of_subset _ (attemptAll_subset ih hall)

/-! ### All of a list -/

theorem attemptAll_error {f : Applied → List Applied → Outcome} {as done done' : List Applied}
    {e : SpecError} (h : attemptAll f as done = (.error e, done')) :
    ∃ a ∈ as, ∃ mid, f a mid = (.error e, done') := by
  induction as generalizing done with
  | nil => cases h
  | cons a as ih =>
    rcases attemptAll_cases h with ⟨mid, _, hrest⟩ | ⟨e', ha, he⟩
    · obtain ⟨b, hb, hrun⟩ := ih hrest
      exact ⟨b, List.mem_cons_of_mem a hb, hrun⟩
    · cases he
      exact ⟨a, List.mem_cons_self, done, ha⟩

theorem attemptAll_forall {f : Applied → List Applied → Outcome} {p : Applied → Prop}
    {as : List Applied}
    (hf : ∀ a ∈ as, ∀ {done o done'}, f a done = (o, done') → (∀ b ∈ done, p b) → ∀ b ∈ done', p b)
    {done done' : List Applied} {o : Except SpecError Unit}
    (h : attemptAll f as done = (o, done')) (hdone : ∀ b ∈ done, p b) : ∀ b ∈ done', p b := by
  induction as generalizing done with
  | nil =>
    cases h
    exact hdone
  | cons a as ih =>
    rcases attemptAll_cases h with ⟨mid, ha, hrest⟩ | ⟨e, ha, _⟩
    · exact ih (fun b hb => hf b (List.mem_cons_of_mem a hb)) hrest
        (hf a List.mem_cons_self ha hdone)
    · exact hf a List.mem_cons_self ha hdone

theorem attemptAll_ok {f : Applied → List Applied → Outcome}
    (hf : ∀ {a done o done'}, f a done = (o, done') → done ⊆ done') {as done done' : List Applied}
    (h : attemptAll f as done = (.ok (), done')) :
    ∀ a ∈ as, ∃ mid mid', f a mid = (.ok (), mid') ∧ done ⊆ mid ∧ mid' ⊆ done' := by
  induction as generalizing done with
  | nil => exact fun a ha => absurd ha List.not_mem_nil
  | cons a as ih =>
    rcases attemptAll_cases h with ⟨mid, ha, hrest⟩ | ⟨e, _, he⟩
    · intro b hb
      rcases List.mem_cons.mp hb with rfl | hb
      · exact ⟨done, mid, ha, fun _ h => h, attemptAll_subset hf hrest⟩
      · obtain ⟨mid₁, mid₂, hrun, hsub, hsub'⟩ := ih hrest b hb
        exact ⟨mid₁, mid₂, hrun, List.Subset.trans (hf ha) hsub, hsub'⟩
    · cases he

/-! ### What is not done below a stack -/

theorem mem_of_attemptAll {f : Applied → List Applied → Outcome} {stack : List String}
    (hf : ∀ {a done o done'}, f a done = (o, done') → ∀ b ∈ done', b ∈ done ∨ b.1 ∉ stack)
    {as done done' : List Applied} {o : Except SpecError Unit}
    (h : attemptAll f as done = (o, done')) : ∀ b ∈ done', b ∈ done ∨ b.1 ∉ stack :=
  attemptAll_forall (p := fun b => b ∈ done ∨ b.1 ∉ stack)
    (fun _ _ _ _ _ hstep hmid b hb => (hf hstep b hb).elim (hmid b) .inr) h fun _ hb => .inl hb

/-- An attempt below a stack gets done with no shape that stands on it. -/
theorem mem_of_attempt {r : Registry} {memoize : Bool} {steps : Nat} {stack : List String}
    {a : Applied} {done done' : List Applied} {o : Except SpecError Unit}
    (h : attempt r memoize steps stack a done = (o, done')) :
    ∀ b ∈ done', b ∈ done ∨ b.1 ∉ stack := by
  induction steps generalizing stack a done o done' with
  | zero => cases attempt_cases h <;> exact fun _ hb => .inl hb
  | succ steps ih =>
    have hbelow : ∀ {as o done'}, attemptAll (attempt r memoize steps (a.1 :: stack)) as done =
        (o, done') → ∀ b ∈ done', b ∈ done ∨ b.1 ∉ stack := by
      intro as o done' hrun b hb
      exact (mem_of_attemptAll ih hrun b hb).imp_right fun hnew hmem =>
        hnew (List.mem_cons_of_mem _ hmem)
    cases attempt_cases h with
    | kept | lazily | unfit | fieldless => exact fun _ hb => .inl hb
    | stopped _ _ _ _ hrun => exact hbelow hrun
    | finished _ hstack _ _ hrun => exact List.forall_mem_cons.mpr ⟨.inr hstack, hbelow hrun⟩

/-- A shape whose attempt fails is not done, whatever was done on the way. -/
theorem not_mem_of_attempt_error {r : Registry} {steps : Nat} {stack : List String} {a : Applied}
    {done done' : List Applied} {e : SpecError}
    (h : attempt r true steps stack a done = (.error e, done')) : a ∉ done' := by
  cases attempt_cases h with
  | unfit hkept | fieldless hkept => exact fun hmem => hkept ⟨rfl, hmem⟩
  | stopped hkept _ _ _ hrun =>
    intro hmem
    rcases mem_of_attemptAll mem_of_attempt hrun a hmem with hdone | hstack
    · exact hkept ⟨rfl, hdone⟩
    · exact hstack List.mem_cons_self

/-! ### Shapes that can be derived on their own -/

/-- An attempt below no other shape. -/
def start (r : Registry) (memoize : Bool) (a : Applied) : List Applied → Outcome :=
  attempt r memoize r.shapes.length [] a

/-- The shape can be derived where nothing is kept. -/
def Alone (r : Registry) (a : Applied) : Prop := (start r false a []).1 = .ok ()

theorem exists_mem_shapes {r : Registry} {a : Applied} {shape : Shape} (h : r.applied a = .ok shape) :
    ∃ found ∈ r.shapes, found.name = a.1 := by
  unfold applied lookup at h
  cases hfound : r.shape? a.1 with
  | none =>
    rw [hfound] at h
    cases h
  | some found =>
    exact ⟨found, List.mem_of_find?_eq_some hfound, by simpa using List.find?_some hfound⟩

theorem shapes_ne_nil {r : Registry} {a : Applied} {shape : Shape} (h : r.applied a = .ok shape) :
    r.shapes.length ≠ 0 := by
  obtain ⟨found, hmem, _⟩ := exists_mem_shapes h
  exact Nat.ne_of_gt (List.length_pos_of_mem hmem)

/-- Where nothing is kept, fewer steps and a higher stack only leave more to lazy references; and
what is kept elsewhere only saves work. -/
theorem attempt_ok_of_le {r : Registry} {memoize : Bool} {steps steps' : Nat}
    {stack stack' : List String} {a : Applied} {done done' mid : List Applied}
    (h : attempt r false steps stack a done = (.ok (), mid)) (hsteps : steps' ≤ steps)
    (hstack : stack ⊆ stack') : (attempt r memoize steps' stack' a done').1 = .ok () := by
  induction steps' generalizing steps stack stack' a done done' mid with
  | zero =>
    rcases h' : attempt r memoize 0 stack' a done' with ⟨o, mid'⟩
    cases attempt_cases h' with
    | kept | lazily | spent => rfl
    | unfit _ hmem happlied =>
      cases attempt_cases h with
      | kept hmemo => cases hmemo
      | lazily _ hmem' => exact absurd (hstack hmem') hmem
      | spent _ _ happlied' | finished _ _ happlied' => simp [happlied] at happlied'
  | succ steps' ih =>
    rcases h' : attempt r memoize (steps' + 1) stack' a done' with ⟨o, mid'⟩
    cases attempt_cases h' with
    | kept | lazily | finished => rfl
    | unfit _ hmem happlied =>
      cases attempt_cases h with
      | kept hmemo => cases hmemo
      | lazily _ hmem' => exact absurd (hstack hmem') hmem
      | spent _ _ happlied' | finished _ _ happlied' => simp [happlied] at happlied'
    | fieldless _ hmem happlied hfields =>
      cases attempt_cases h with
      | kept hmemo => cases hmemo
      | lazily _ hmem' => exact absurd (hstack hmem') hmem
      | spent => omega
      | finished _ _ happlied' hfields' =>
        simp_all
    | stopped _ hmem happlied hfields hall =>
      cases attempt_cases h with
      | kept hmemo => cases hmemo
      | lazily _ hmem' => exact absurd (hstack hmem') hmem
      | spent => omega
      | @finished steps _ _ _ _ _ _ _ _ happlied' hfields' hall' =>
        obtain rfl := Except.ok.inj (happlied.symm.trans happlied')
        obtain rfl := Except.ok.inj (hfields.symm.trans hfields')
        obtain ⟨b, hb, mid₁, hrun⟩ := attemptAll_error hall
        obtain ⟨mid₂, mid₃, hrun', _, _⟩ := attemptAll_ok attempt_subset hall' b hb
        have hok : (attempt r memoize steps' (a.1 :: stack') b mid₁).1 = .ok () :=
          ih hrun' (by omega) (List.cons_subset_cons a.1 hstack)
        rw [hrun] at hok
        cases hok

theorem Alone.attempt {r : Registry} {a : Applied} (h : r.Alone a) (memoize : Bool) {steps : Nat}
    (hsteps : steps ≤ r.shapes.length) (stack : List String) (done : List Applied) :
    (r.attempt memoize steps stack a done).1 = .ok () := by
  rcases ha : r.start false a [] with ⟨o, mid⟩
  obtain rfl : o = .ok () := by
    rw [Alone, ha] at h
    exact h
  exact attempt_ok_of_le ha hsteps (List.nil_subset stack)

theorem attemptAll_ok_of_alone {r : Registry} {as : List Applied} (h : ∀ a ∈ as, r.Alone a)
    (memoize : Bool) (done : List Applied) :
    (attemptAll (r.start memoize) as done).1 = .ok () := by
  rcases hrun : attemptAll (r.start memoize) as done with ⟨e | _, done'⟩
  · obtain ⟨a, ha, mid, herror⟩ := attemptAll_error hrun
    have hok : (r.start memoize a mid).1 = .ok () := (h a ha).attempt memoize (Nat.le_refl _) [] mid
    rw [herror] at hok
    cases hok
  · rfl

end Registry

end Conform

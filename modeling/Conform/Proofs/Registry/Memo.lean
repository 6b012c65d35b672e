import Conform.Proofs.Registry.Extends
/-!
When keeping specs changes nothing. A shape that is derived on the way to another is derived below a
stack, where some of what it mentions is left to lazy references and never looked at. If it is kept,
it can be had later although it cannot be derived by itself. If no shape is ever kept that cannot,
attempts end alike whatever was kept before them.
-/

namespace Conform.Registry

/-- No derivation that starts with nothing kept leaves a shape behind that cannot be derived by
itself. -/
def KeepsAlone (r : Registry) : Prop := ∀ root, ∀ a ∈ (r.start true root []).2, r.Alone a

section
variable {r : Registry}

theorem two_le_shapes {a b : Applied} {shape shape' : Shape} (ha : r.applied a = .ok shape)
    (hb : r.applied b = .ok shape') (hne : a.1 ≠ b.1) : 2 ≤ r.shapes.length := by
  obtain ⟨found, hfound, hname⟩ := exists_mem_shapes ha
  obtain ⟨found', hfound', hname'⟩ := exists_mem_shapes hb
  rcases hshapes : r.shapes with _ | ⟨only, _ | ⟨second, rest⟩⟩
  · rw [hshapes] at hfound
    cases hfound
  · rw [hshapes, List.mem_singleton] at hfound hfound'
    exact absurd (by rw [← hname, ← hname', hfound, hfound']) hne
  · exact Nat.le_add_left 2 _

/-! ## Below a shape that can be derived by itself -/

/-- What the fields of such a shape mention can be derived by itself as well. A mention of the shape
itself is left to a lazy reference. -/
theorem Alone.of_mem_fields (hr : r.KeepsAlone) {a b : Applied} (ha : r.Alone a)
    {fields : List Field} (hfields : r.fieldsOf a = .ok fields)
    (hb : b ∈ Field.recordsOfAll fields) (hne : b.1 ≠ a.1) : r.Alone b := by
  obtain ⟨shape, happlied, heffective⟩ := bind_eq_ok.mp hfields
  obtain ⟨steps, hsteps⟩ := Nat.exists_eq_succ_of_ne_zero (shapes_ne_nil happlied)
  have hkept := hr a
  have hok : (r.start true a []).1 = .ok () := ha.attempt true (Nat.le_refl _) [] []
  unfold start at hkept hok
  rw [hsteps] at hkept hok
  rcases hrun : r.attempt true (steps + 1) [] a [] with ⟨o, done⟩
  rw [hrun] at hkept hok
  cases hok
  cases attempt_cases hrun with
  | kept _ hmem | lazily _ hmem => cases hmem
  | finished _ _ happlied' hfields' hall =>
    obtain rfl := Except.ok.inj (happlied.symm.trans happlied')
    obtain rfl := Except.ok.inj (heffective.symm.trans hfields')
    obtain ⟨mid, mid', hb', _, hsub⟩ := attemptAll_ok attempt_subset hall b hb
    have hdone : ∀ {c}, c ∈ mid' → r.Alone c := fun hc =>
      hkept _ (List.mem_cons_of_mem _ (hsub hc))
    cases attempt_cases hb' with
    | kept _ hmem => exact hdone hmem
    | lazily _ hmem => exact absurd (List.mem_singleton.mp hmem) hne
    | spent _ _ happliedB =>
      have htwo := two_le_shapes happliedB happlied hne
      omega
    | finished => exact hdone List.mem_cons_self

/-- A derivation that starts from such a shape is done with no others than such. -/
theorem Alone.forall_attempt (hr : r.KeepsAlone) {memoize : Bool} {steps : Nat}
    {stack : List String} {a : Applied} {done done' : List Applied} {o : Except SpecError Unit}
    (ha : r.Alone a) (h : r.attempt memoize steps stack a done = (o, done'))
    (hdone : ∀ b ∈ done, r.Alone b) : ∀ b ∈ done', r.Alone b := by
  induction steps generalizing stack a done o done' with
  | zero =>
    cases attempt_cases h with
    | kept | lazily | unfit | spent => exact hdone
  | succ steps ih =>
    have hparts : ∀ {fields : List Field} {o done'}, r.fieldsOf a = .ok fields →
        attemptAll (r.attempt memoize steps (a.1 :: stack)) (Field.recordsOfAll fields) done =
          (o, done') → ∀ b ∈ done', r.Alone b := by
      intro fields o done' hfields hall
      refine attemptAll_forall (fun b hb => ?_) hall hdone
      intro done o done' hrun hdone
      by_cases hself : b.1 = a.1
      · have hmem : b.1 ∈ a.1 :: stack := hself ▸ List.mem_cons_self
        cases attempt_cases hrun with
        | kept | lazily => exact hdone
        | unfit _ hnot | spent _ hnot | fieldless _ hnot | stopped _ hnot | finished _ hnot =>
          exact absurd hmem hnot
      · exact ih (ha.of_mem_fields hr hfields hb hself) hrun hdone
    cases attempt_cases h with
    | kept | lazily | unfit | fieldless => exact hdone
    | stopped _ _ happlied hfields hall =>
      exact hparts (bind_eq_ok.mpr ⟨_, happlied, hfields⟩) hall
    | finished _ _ happlied hfields hall =>
      exact List.forall_mem_cons.mpr ⟨ha, hparts (bind_eq_ok.mpr ⟨_, happlied, hfields⟩) hall⟩

/-! ## Attempts side by side -/

/-- Three attempts agree at a shape: one from shapes with a property, which stay so, one that ends
with such shapes, and one by which nothing is kept. -/
def Agree (p : Applied → Prop) (f g h : Applied → List Applied → Outcome) (a : Applied) : Prop :=
  ∀ (done before after unkept : List Applied) (o : Except SpecError Unit),
    (∀ b ∈ done, p b) → g a before = (o, after) → (∀ b ∈ after, p b) →
      (f a done).1 = (h a unkept).1 ∧ (∀ b ∈ (f a done).2, p b) ∧ o = (h a unkept).1

theorem attemptAll_agree {p : Applied → Prop} {f g h : Applied → List Applied → Outcome}
    (hg : ∀ {a done o done'}, g a done = (o, done') → done ⊆ done') {as : List Applied}
    (hagree : ∀ a ∈ as, Agree p f g h a) {done before after : List Applied}
    {o : Except SpecError Unit} (unkept : List Applied) (hdone : ∀ b ∈ done, p b)
    (hfresh : attemptAll g as before = (o, after)) (hafter : ∀ b ∈ after, p b) :
    (attemptAll f as done).1 = (attemptAll h as unkept).1 ∧
      (∀ b ∈ (attemptAll f as done).2, p b) ∧ o = (attemptAll h as unkept).1 := by
  induction as generalizing done before unkept with
  | nil =>
    cases hfresh
    exact ⟨rfl, hdone, rfl⟩
  | cons a as ih =>
    have ha := hagree a List.mem_cons_self
    rcases attemptAll_cases hfresh with ⟨mid, hrun, hrest⟩ | ⟨e, hrun, rfl⟩
    · have hmid : ∀ b ∈ mid, p b := fun b hb => hafter b (attemptAll_subset hg hrest hb)
      obtain ⟨hf, hp, hok⟩ := ha done before mid unkept _ hdone hrun hmid
      rw [← hok] at hf
      rw [attemptAll_cons_ok hf, attemptAll_cons_ok hok.symm]
      exact ih (fun b hb => hagree b (List.mem_cons_of_mem a hb)) _ hp hrest
    · obtain ⟨hf, hp, herror⟩ := ha done before after unkept _ hdone hrun hafter
      rw [← herror] at hf
      rw [attemptAll_cons_error hf, attemptAll_cons_error herror.symm]
      exact ⟨rfl, hp, rfl⟩

theorem Alone.agree (hr : r.KeepsAlone) {a : Applied} (ha : r.Alone a) (memoize : Bool) {steps : Nat}
    (hsteps : steps ≤ r.shapes.length) (stack : List String) :
    Agree r.Alone (r.attempt memoize steps stack) (r.attempt true steps stack)
      (r.attempt false steps stack) a := by
  intro done before after unkept o hdone hfresh _
  have hok := ha.attempt true hsteps stack before
  rw [hfresh] at hok
  rw [ha.attempt memoize hsteps stack done, ha.attempt false hsteps stack unkept]
  exact ⟨rfl, ha.forall_attempt hr rfl hdone, hok⟩

/-- Below a shape that cannot be derived by itself the attempts go side by side, shape by shape, up
to the error that all of them end in. -/
theorem attempt_agree (hr : r.KeepsAlone) (memoize : Bool) {steps : Nat}
    (hsteps : steps ≤ r.shapes.length) (stack : List String) (a : Applied) :
    Agree r.Alone (r.attempt memoize steps stack) (r.attempt true steps stack)
      (r.attempt false steps stack) a := by
  induction steps generalizing stack a with
  | zero =>
    by_cases ha : r.Alone a
    · exact ha.agree hr memoize hsteps stack
    intro done before after unkept o hdone hfresh hafter
    have hkept : ¬ (memoize = true ∧ a ∈ done) := fun h => ha (hdone a h.2)
    have hunkept : ¬ (false = true ∧ a ∈ unkept) := fun h => Bool.false_ne_true h.1
    cases attempt_cases hfresh with
    | kept _ hmem => exact absurd (hafter a hmem) ha
    | lazily _ hstack =>
      rw [attempt_lazily hstack, attempt_lazily hstack]
      exact ⟨rfl, hdone, rfl⟩
    | unfit _ hstack happlied =>
      rw [attempt_unfit hkept hstack happlied, attempt_unfit hunkept hstack happlied]
      exact ⟨rfl, hdone, rfl⟩
    | spent _ _ happlied =>
      rw [attempt_spent happlied, attempt_spent happlied]
      exact ⟨rfl, hdone, rfl⟩
  | succ steps ih =>
    by_cases ha : r.Alone a
    · exact ha.agree hr memoize hsteps stack
    intro done before after unkept o hdone hfresh hafter
    have hkept : ¬ (memoize = true ∧ a ∈ done) := fun h => ha (hdone a h.2)
    have hunkept : ¬ (false = true ∧ a ∈ unkept) := fun h => Bool.false_ne_true h.1
    cases attempt_cases hfresh with
    | kept _ hmem => exact absurd (hafter a hmem) ha
    | lazily _ hstack =>
      rw [attempt_lazily hstack, attempt_lazily hstack]
      exact ⟨rfl, hdone, rfl⟩
    | unfit _ hstack happlied =>
      rw [attempt_unfit hkept hstack happlied, attempt_unfit hunkept hstack happlied]
      exact ⟨rfl, hdone, rfl⟩
    | fieldless _ hstack happlied hfields =>
      rw [attempt_fieldless hkept hstack happlied hfields,
        attempt_fieldless hunkept hstack happlied hfields]
      exact ⟨rfl, hdone, rfl⟩
    | finished => exact absurd (hafter a List.mem_cons_self) ha
    | stopped _ hstack happlied hfields hall =>
      rw [attempt_fields hkept hstack happlied hfields,
        attempt_fields hunkept hstack happlied hfields]
      obtain ⟨hf, hp, herror⟩ := attemptAll_agree attempt_subset
        (fun b _ => ih (Nat.le_of_succ_le hsteps) (a.1 :: stack) b) unkept hdone hall hafter
      rw [← herror] at hf
      rw [andThen_error hf, andThen_error herror.symm]
      exact ⟨rfl, hp, rfl⟩

/-- Whatever is kept, if it can be derived by itself, every derivation ends as without it. -/
theorem start_agree (hr : r.KeepsAlone) (memoize : Bool) (a : Applied) {done : List Applied}
    (hdone : ∀ b ∈ done, r.Alone b) :
    (r.start memoize a done).1 = (r.start false a []).1 ∧
      ∀ b ∈ (r.start memoize a done).2, r.Alone b := by
  have h := attempt_agree hr memoize (Nat.le_refl _) [] a done [] (r.start true a []).2 []
    (r.start true a []).1 hdone rfl (hr a)
  exact ⟨h.1, h.2.1⟩

end

end Conform.Registry

import Conform.Proofs.Session.Lookup
/-!
Attempts made again. What an attempt was done with is kept, and if nothing else was kept in the
meantime but shapes that can be derived by themselves, the attempt goes again as it went before and is
done with nothing new. A shape that was found once is found from then on.
-/

namespace Conform.Registry

/-! ## Where nothing is kept -/

theorem attemptAll_unkept {f : Applied → List Applied → Outcome}
    (hf : ∀ a done done', (f a done).1 = (f a done').1) (as done done' : List Applied) :
    (attemptAll f as done).1 = (attemptAll f as done').1 := by
  induction as generalizing done done' with
  | nil => rfl
  | cons a as ih =>
    have ha := hf a done done'
    cases hrun : (f a done).1 with
    | error e =>
      rw [attemptAll_cons_error hrun, attemptAll_cons_error (ha.symm.trans hrun)]
    | ok u =>
      rw [attemptAll_cons_ok hrun, attemptAll_cons_ok (ha.symm.trans hrun)]
      exact ih _ _

theorem andThen_unkept {f g : List Applied → Outcome}
    (hf : ∀ done done', (f done).1 = (f done').1) (hg : ∀ done done', (g done).1 = (g done').1)
    (done done' : List Applied) : (andThen f g done).1 = (andThen f g done').1 := by
  have h := hf done done'
  rcases hrun : f done with ⟨e | u, mid⟩ <;> rcases hrun' : f done' with ⟨e' | u', mid'⟩ <;>
    rw [hrun, hrun'] at h <;> simp only [andThen, hrun, hrun']
  · exact h
  · cases h
  · cases h
  · exact hg mid mid'

theorem attempt_unkept (r : Registry) (steps : Nat) (stack : List String) (a : Applied)
    (done done' : List Applied) :
    (r.attempt false steps stack a done).1 = (r.attempt false steps stack a done').1 := by
  induction steps generalizing stack a done done' with
  | zero =>
    unfold attempt
    simp only [Bool.false_eq_true, false_and, if_false]
    split
    · rfl
    · cases r.applied a <;> rfl
  | succ steps ih =>
    unfold attempt
    simp only [Bool.false_eq_true, false_and, if_false]
    split
    · rfl
    · cases r.applied a with
      | error e => rfl
      | ok shape =>
        simp only [after]
        cases r.effectiveFields shape (Registry.bind shape.params a.2) with
        | error e => rfl
        | ok fields =>
          refine andThen_unkept (fun done done' => ?_) (fun _ _ => rfl) done done'
          exact attemptAll_unkept (fun b done done' => ih (a.1 :: stack) b done done') _ done done'

/-! ## Where all is kept that was done -/

section
variable {r : Registry} {steps : Nat} {stack : List String} {a : Applied}
  {done done' later : List Applied} {o : Except SpecError Unit}

/-- Nothing was kept after `done` but shapes that can be derived by themselves. -/
def KeptAlone (r : Registry) (done later : List Applied) : Prop :=
  ∀ b ∈ later, b ∉ done → r.Alone b

theorem KeptAlone.mono (h : r.KeptAlone done later) (hdone : done ⊆ done') : r.KeptAlone done' later :=
  fun b hb hnew => h b hb fun hmem => hnew (hdone hmem)

/-- A shape that cannot be derived below the stack is not kept afterwards. -/
theorem not_mem_of_error (hsteps : steps ≤ r.shapes.length) {e : SpecError}
    (h : r.attempt true steps stack a done = (.error e, done')) (hlater : r.KeptAlone done later) :
    a ∉ later := by
  intro hmem
  by_cases hdone : a ∈ done
  · cases attempt_cases h with
    | unfit hkept | fieldless hkept | stopped hkept => exact hkept ⟨rfl, hdone⟩
  · have hok := (hlater a hmem hdone).attempt true hsteps stack done
    rw [h] at hok
    cases hok

theorem attemptAll_replay {f : Applied → List Applied → Outcome}
    (hgrows : ∀ {a done o done'}, f a done = (o, done') → done ⊆ done') {as : List Applied}
    (hf : ∀ {a done o done'}, f a done = (o, done') → done' ⊆ later → r.KeptAlone done later →
      f a later = (o, later))
    (h : attemptAll f as done = (o, done')) (hsub : done' ⊆ later)
    (hlater : r.KeptAlone done later) : attemptAll f as later = (o, later) := by
  induction as generalizing done with
  | nil =>
    cases h
    rfl
  | cons a as ih =>
    rcases attemptAll_cases h with ⟨mid, ha, hrest⟩ | ⟨e, ha, rfl⟩
    · have hagain := hf ha (List.Subset.trans (attemptAll_subset hgrows hrest) hsub) hlater
      rw [attemptAll_cons_ok (by rw [hagain]), hagain]
      exact ih hrest (hlater.mono (hgrows ha))
    · have hagain := hf ha hsub hlater
      rw [attemptAll_cons_error (by rw [hagain]), hagain]

theorem attempt_replay (hsteps : steps ≤ r.shapes.length)
    (h : r.attempt true steps stack a done = (o, done')) (hsub : done' ⊆ later)
    (hlater : r.KeptAlone done later) : r.attempt true steps stack a later = (o, later) := by
  induction steps generalizing stack a done o done' with
  | zero =>
    cases attempt_cases h with
    | kept _ hmem =>
      unfold attempt
      rw [if_pos ⟨rfl, hsub hmem⟩]
    | lazily _ hstack => exact attempt_lazily hstack
    | spent _ _ happlied => exact attempt_spent happlied
    | unfit _ hstack happlied =>
      exact attempt_unfit (fun hmem => not_mem_of_error hsteps h hlater hmem.2) hstack happlied
  | succ steps ih =>
    cases attempt_cases h with
    | kept _ hmem =>
      unfold attempt
      rw [if_pos ⟨rfl, hsub hmem⟩]
    | lazily _ hstack => exact attempt_lazily hstack
    | unfit _ hstack happlied =>
      exact attempt_unfit (fun hmem => not_mem_of_error hsteps h hlater hmem.2) hstack happlied
    | fieldless _ hstack happlied hfields =>
      exact attempt_fieldless (fun hmem => not_mem_of_error hsteps h hlater hmem.2) hstack happlied
        hfields
    | @stopped _ _ _ _ _ fields e _ _ hstack happlied hfields hall =>
      rw [attempt_fields (fun hmem => not_mem_of_error hsteps h hlater hmem.2) hstack happlied hfields]
      have hagain : attemptAll (r.attempt true steps (a.1 :: stack)) (Field.recordsOfAll fields) later =
          (.error e, later) :=
        attemptAll_replay attempt_subset (fun hrun => ih (Nat.le_of_succ_le hsteps) hrun) hall hsub
          hlater
      rw [andThen_error (by rw [hagain]), hagain]
    | finished =>
      unfold attempt
      rw [if_pos ⟨rfl, hsub List.mem_cons_self⟩]

/-! ## Looks behind references -/

theorem mem_of_start_ok (h : r.start true a done = (.ok (), done')) : a ∈ done' := by
  obtain ⟨steps, hsteps⟩ : ∃ n, r.shapes.length = n := ⟨_, rfl⟩
  unfold start at h
  rw [hsteps] at h
  cases attempt_cases h with
  | kept _ hmem => exact hmem
  | lazily _ hstack => cases hstack
  | spent _ _ happlied => exact absurd hsteps (shapes_ne_nil happlied)
  | finished => exact List.mem_cons_self

variable {memoize : Bool} {target : Target}

theorem start_again (h : r.start memoize a done = (.ok (), done'))
    (hkept : memoize = true → done' ⊆ later) : (r.start memoize a later).1 = .ok () := by
  cases memoize with
  | false =>
    unfold start at h ⊢
    rw [attempt_unkept r _ _ a later done, h]
  | true =>
    unfold start attempt
    rw [if_pos ⟨rfl, hkept rfl (mem_of_start_ok h)⟩]

theorem start_replay (h : r.start memoize a done = (o, done'))
    (hkept : memoize = true → done' ⊆ later ∧ r.KeptAlone done later) :
    (r.start memoize a later).1 = o ∧
      (memoize = true → (r.start memoize a later).2 ⊆ later) := by
  cases memoize with
  | false =>
    refine ⟨?_, fun hmemoize => by cases hmemoize⟩
    unfold start at h ⊢
    rw [attempt_unkept r _ _ a later done, h]
  | true =>
    have hagain : r.start true a later = (o, later) :=
      attempt_replay (Nat.le_refl _) h (hkept rfl).1 (hkept rfl).2
    rw [hagain]
    exact ⟨rfl, fun _ _ hb => hb⟩

/-- What was found behind a reference is found again. -/
theorem seek_again (h : r.seek memoize target done = (.ok (), done'))
    (hkept : memoize = true → done' ⊆ later) : (r.seek memoize target later).1 = .ok () := by
  cases target with
  | shape registry name args => exact start_again h hkept
  | bound name => cases h
  | forward registry name args =>
    simp only [seek] at h ⊢
    by_cases hname : r.contains name = true
    · rw [if_pos hname] at h ⊢
      exact start_again h hkept
    · rw [if_neg hname] at h ⊢
      split at h
      · next hkind => rw [if_pos hkind]
      · cases h

/-- A look behind a reference goes again as it went, and nothing more is kept by it. -/
theorem seek_replay (h : r.seek memoize target done = (o, done'))
    (hkept : memoize = true → done' ⊆ later ∧ r.KeptAlone done later) :
    (r.seek memoize target later).1 = o ∧
      (memoize = true → (r.seek memoize target later).2 ⊆ later) := by
  cases target with
  | shape registry name args => exact start_replay h hkept
  | bound name =>
    cases h
    exact ⟨rfl, fun _ _ hb => hb⟩
  | forward registry name args =>
    simp only [seek] at h ⊢
    by_cases hname : r.contains name = true
    · rw [if_pos hname] at h ⊢
      exact start_replay h hkept
    · rw [if_neg hname] at h ⊢
      split at h
      · next hkind =>
        cases h
        rw [if_pos hkind]
        exact ⟨rfl, fun _ _ hb => hb⟩
      · next hkind =>
        cases h
        rw [if_neg hkind]
        exact ⟨rfl, fun _ _ hb => hb⟩

end

end Conform.Registry

import Conform.Proofs.Check.Blame
import Conform.Proofs.Check.Walk
import Conform.Proofs.Session.Retains
/-!
Checks that refuse to go on where a look behind a reference ends in an error. A check that comes
through although it refuses every error has filled all the cells it needs, and is replayed by every
later check of the same value.
-/

namespace Conform

open Check (Compositional)

/-! ## Whole trees in step -/

namespace Spec

section
variable {P : {α : Type} → Check α → Check α → Prop} {d d' : Delegate}

theorem inStep_leaf {s : Spec} {v : Value} (hP : Compositional P) {c : Conformed}
    {problems : Path → List Problem} (hconform : ∀ d, conformWith d s v = pure c)
    (hexplain : ∀ d path, explainWith d s path v = pure (problems path)) : InStep P d d' s v where
  conform := by
    rw [hconform, hconform]
    exact hP.pure c
  explain path := by
    rw [hexplain, hexplain]
    exact hP.pure (problems path)

theorem inStep_coerce (hP : Compositional P) {s : Spec} (h : ∀ v, InStep P d d' s v) (i : Instance)
    (coercer : Coercer) (failureReason : Option (Value → String → String)) (v : Value) :
    InStep P d d' (coerce i coercer s failureReason) v := by
  constructor
  · unfold conformWith
    cases coercer.apply v with
    | ok w => exact (h w).conform
    | error e => exact hP.pure _
  · intro path
    unfold explainWith
    cases coercer.apply v with
    | ok w => exact (h w).explain path
    | error e => exact hP.pure _

theorem conformThrough_inStep (hP : Compositional P) {ss : List Spec}
    (h : ∀ s ∈ ss, ∀ v, InStep P d d' s v) (v : Value) :
    P (conformThrough d ss v) (conformThrough d' ss v) := by
  induction ss generalizing v with
  | nil =>
    unfold conformThrough
    exact hP.pure _
  | cons s ss ih =>
    unfold conformThrough
    refine hP.bind (h s List.mem_cons_self v).conform fun c => ?_
    cases c with
    | valid w => exact ih (fun s hs => h s (List.mem_cons_of_mem _ hs)) w
    | invalid => exact hP.pure _

theorem explainThrough_inStep (hP : Compositional P) {ss : List Spec}
    (h : ∀ s ∈ ss, ∀ v, InStep P d d' s v) (path : Path) (v : Value) :
    P (explainThrough d ss path v) (explainThrough d' ss path v) := by
  induction ss generalizing v with
  | nil =>
    unfold explainThrough
    exact hP.pure _
  | cons s ss ih =>
    unfold explainThrough
    refine hP.bind (h s List.mem_cons_self v).conform fun c => ?_
    cases c with
    | valid w => exact ih (fun s hs => h s (List.mem_cons_of_mem _ hs)) w
    | invalid => exact (h s List.mem_cons_self v).explain path

theorem inStep_allOf (hP : Compositional P) {ss : List Spec}
    (h : ∀ s ∈ ss, ∀ v, InStep P d d' s v) (i : Instance) (v : Value) :
    InStep P d d' (allOf i ss) v := by
  constructor
  · unfold conformWith
    exact conformThrough_inStep hP h v
  · intro path
    unfold explainWith
    exact explainThrough_inStep hP h path v

mutual

/-- Walks of any tree are in step if they are at its lazy references. -/
theorem inStep_of_lazily (hP : Compositional P)
    (hlazy : ∀ i reference v, InStep P d d' (deferred i reference) v) :
    ∀ (s : Spec) (v : Value), InStep P d d' s v
  | anything _, _ | never _, _ | predicate _ _, _ | equalTo _ _, _ | isInstance _ _, _
  | isIn _ _, _ =>
    inStep_leaf hP (fun _ => by unfold conformWith; rfl) fun _ _ => by unfold explainWith; rfl
  | unbound i p, v => inStep_unbound hP i p v
  | consistency i groups, v => inStep_consistency hP i groups v
  | decorated i s description, v => (inStep_of_lazily hP hlazy s v).decorated i description
  | coerce i coercer s failureReason, v =>
    inStep_coerce hP (inStep_of_lazily hP hlazy s) i coercer failureReason v
  | oneOf i ss, v => inStep_oneOf hP (fun s hs => inStep_all_of_lazily hP hlazy ss s hs v) i
  | allOf i ss, v => inStep_allOf hP (inStep_all_of_lazily hP hlazy ss) i v
  | collOf i item, _ => inStep_collOf hP (fun _ _ w _ => inStep_of_lazily hP hlazy item w) i
  | dict i keys extra, _ =>
    inStep_dict hP (fun key hkey w _ => inStep_keys_of_lazily hP hlazy keys key hkey w) i extra
  | deferred i reference, v => hlazy i reference v

theorem inStep_all_of_lazily (hP : Compositional P)
    (hlazy : ∀ i reference v, InStep P d d' (deferred i reference) v) :
    ∀ (ss : List Spec), ∀ s ∈ ss, ∀ v, InStep P d d' s v
  | [] => fun _ hs => absurd hs List.not_mem_nil
  | s :: ss =>
    List.forall_mem_cons.mpr
      ⟨inStep_of_lazily hP hlazy s, inStep_all_of_lazily hP hlazy ss⟩

theorem inStep_keys_of_lazily (hP : Compositional P)
    (hlazy : ∀ i reference v, InStep P d d' (deferred i reference) v) :
    ∀ (keys : List (String × Spec)), ∀ key ∈ keys, ∀ v, InStep P d d' key.2 v
  | [] => fun _ hkey => absurd hkey List.not_mem_nil
  | (_, s) :: keys =>
    List.forall_mem_cons.mpr
      ⟨inStep_of_lazily hP hlazy s, inStep_keys_of_lazily hP hlazy keys⟩

end

end

end Spec

/-! ## Walks along a relation of sessions -/

/-- A relation of sessions that every look behind a reference goes along, and one look after another. -/
structure Session.Course (P : Session → Session → Prop) : Prop where
  refl (s : Session) : P s s
  trans {s t u : Session} : P s t → P t u → P s u
  look (reference : Reference) (s : Session) : P s ((resolve reference).run s).2

namespace Check

variable {P : Session → Session → Prop}

/-- Whatever the check answers, it leaves a session that is related to the one it began with. -/
def Along (P : Session → Session → Prop) {α : Type} (x _y : Check α) : Prop :=
  ∀ s a t, x s = some (a, t) → P s t

theorem compositional_along (hP : Session.Course P) : Compositional (Along P) where
  pure a := by
    intro s _ _ h
    cases h
    exact hP.refl s
  bind {_ _ x _ f _} hx hf := by
    intro s b t h
    rw [bind_apply] at h
    obtain ⟨⟨a, m⟩, hrun, hrest⟩ := Option.bind_eq_some_iff.mp h
    exact hP.trans (hx s a m hrun) (hf a m b t hrest)

/-- A check that goes on behind a reference goes along if it does so there. -/
theorem along_behind (hP : Session.Course P) {α : Type} {reference : Reference} {x y : Check α}
    {f : Spec → Check α} {missing : SpecError → α}
    (hx : ∀ s, x s =
      match (Session.resolve reference).run s with
      | (.ok spec, t) => f spec t
      | (.error e, t) => some (missing e, t))
    (hf : ∀ spec, Along P (f spec) (f spec)) : Along P x y := by
  intro s a t h
  have hlook := hP.look reference s
  rw [hx] at h
  rcases hrun : (Session.resolve reference).run s with ⟨e | spec, m⟩
  · rw [hrun] at h hlook
    cases h
    exact hlook
  · rw [hrun] at h hlook
    exact hP.trans hlook (hf spec m a t h)

end Check

open Check (Along along_behind)

/-- The induction is on how many references the walk may still go through. -/
theorem Spec.along_within {P : Session → Session → Prop} (hP : Session.Course P) (n : Nat) (s : Spec)
    (v : Value) : InStep (Along P) (.within n) (.within n) s v := by
  induction n generalizing s v with
  | zero =>
    refine inStep_of_lazily (Check.compositional_along hP) (fun i reference v => ⟨?_, ?_⟩) s v
    · exact along_behind hP (conformWith_resolve rfl i reference v) fun _ _ _ _ h => by cases h
    · exact fun path =>
        along_behind hP (explainWith_resolve rfl i reference path v) fun _ _ _ _ h => by cases h
  | succ n ih =>
    refine inStep_of_lazily (Check.compositional_along hP) (fun i reference v => ⟨?_, ?_⟩) s v
    · exact along_behind hP (conformWith_deferred n i reference v) fun spec => (ih spec v).conform
    · exact fun path => along_behind hP (explainWith_deferred n i reference path v)
        fun spec => (ih spec v).explain path

/-! ### Walks that lose nothing -/

theorem Session.course_advances : Course Advances where
  refl _ := .refl
  trans := .trans
  look := resolve_advances

namespace Check

/-- Whatever the check answers, the session only advances. -/
def Advancing {α : Type} (x _y : Check α) : Prop := ∀ s a t, x s = some (a, t) → s.Advances t

theorem compositional_advancing : Compositional Advancing := compositional_along Session.course_advances

end Check

open Check (Advancing)

theorem Spec.advancing_within (n : Nat) (s : Spec) (v : Value) :
    InStep Advancing (.within n) (.within n) s v :=
  along_within Session.course_advances n s v

/-! ## Checks that refuse errors -/

/-- Looks behind a reference, and has no result if that ends in an error which is refused. -/
def Session.resolveUnless (refuse : SpecError → Bool) (reference : Reference) :
    Check (Except SpecError Spec) := fun s =>
  match (resolve reference).run s with
  | (.ok spec, t) => some (.ok spec, t)
  | (.error e, t) => if refuse e then none else some (.error e, t)

/-- Walks that stop where a look ends in an error which is refused. -/
def Delegate.refusing (refuse : SpecError → Bool) : Nat → Delegate
  | 0 => ⟨Session.resolveUnless refuse, fun _ _ _ => none, fun _ _ _ _ => none, fun _ _ => none⟩
  | n + 1 =>
    ⟨Session.resolveUnless refuse, fun s v => s.conformWith (refusing refuse n) v,
      fun s path v => s.explainWith (refusing refuse n) path v,
      fun s => s.describeWith (refusing refuse n)⟩

namespace Check

def conformRefusing (refuse : SpecError → Bool) (spec : Spec) (v : Value) : Check Conformed :=
  fun s => spec.conformWith (.refusing refuse (reach v s)) v s

def explainRefusing (refuse : SpecError → Bool) (spec : Spec) (path : Path) (v : Value) :
    Check (List Problem) :=
  fun s => spec.explainWith (.refusing refuse (reach v s)) path v s

/-- While the value is conformed, no look behind a reference fails: the check gets to its end although
it refuses every error. -/
def ConformResolves (spec : Spec) (v : Value) (s : Session) : Prop :=
  (conformRefusing (fun _ => true) spec v s).isSome = true

/-- While the value is explained, no look behind a reference fails. -/
def ExplainResolves (spec : Spec) (path : Path) (v : Value) (s : Session) : Prop :=
  (explainRefusing (fun _ => true) spec path v s).isSome = true

end Check

namespace Spec

variable {refuse : SpecError → Bool}

theorem conformWith_resolveUnless {d : Delegate} (hd : d.resolve = Session.resolveUnless refuse)
    (i : Instance) (reference : Reference) (v : Value) (s : Session) :
    conformWith d (deferred i reference) v s =
      match (Session.resolve reference).run s with
      | (.ok spec, t) => d.conform spec v t
      | (.error e, t) => if refuse e then none else some (.invalid, t) := by
  conv => lhs; unfold conformWith
  rw [Check.bind_apply, hd]
  unfold Session.resolveUnless
  rcases (Session.resolve reference).run s with ⟨e | spec, t⟩
  · simp only
    split <;> rfl
  · rfl

theorem explainWith_resolveUnless {d : Delegate} (hd : d.resolve = Session.resolveUnless refuse)
    (i : Instance) (reference : Reference) (path : Path) (v : Value) (s : Session) :
    explainWith d (deferred i reference) path v s =
      match (Session.resolve reference).run s with
      | (.ok spec, t) => d.explain spec path v t
      | (.error e, t) =>
        if refuse e then none
        else some ([⟨path, v, deferred i reference, "unresolved reference: " ++ e.message⟩], t) := by
  conv => lhs; unfold explainWith
  rw [Check.bind_apply, hd]
  unfold Session.resolveUnless
  rcases (Session.resolve reference).run s with ⟨e | spec, t⟩
  · simp only
    split <;> rfl
  · rfl

end Spec

/-! ### What they blame -/

/-- If a lazy reference is blamed, the look behind it ended in an error that is not refused. -/
def Problem.Unrefused (refuse : SpecError → Bool) (p : Problem) : Prop :=
  ∀ i reference, p.spec = .deferred i reference →
    ∃ e, refuse e = false ∧ p.reason = "unresolved reference: " ++ e.message

namespace Spec

open Check (Ensures)

variable {refuse : SpecError → Bool}

theorem elsewhereGood_unrefused : Problem.ElsewhereGood (Problem.Unrefused refuse) :=
  fun _ h i reference hspec => absurd hspec (h i reference)

theorem resolveUnless_ensures (reference : Reference) :
    Ensures True (fun _ => True) (Session.resolveUnless refuse reference) fun found =>
      ∀ e, found = .error e → ∀ i path v,
        Problem.Unrefused refuse
          ⟨path, v, .deferred i reference, "unresolved reference: " ++ e.message⟩ := by
  intro s _
  unfold Session.resolveUnless
  rcases (Session.resolve reference).run s with ⟨e | spec, t⟩
  · cases hrefuse : refuse e with
    | true => simp only [hrefuse, if_true]
    | false =>
      simp only [hrefuse, Bool.false_eq_true, if_false]
      refine ⟨fun e' he' i path v i' reference' _ => ?_, trivial⟩
      cases he'
      exact ⟨e, hrefuse, rfl⟩
  · exact ⟨fun e he => (by cases he), trivial⟩

theorem finds_refusing (n : Nat) (s : Spec) (path : Path) (v : Value) :
    Finds (Problem.Unrefused refuse) (explainWith (.refusing refuse n) s path v) := by
  induction n generalizing s path v with
  | zero =>
    refine finds_of_resolve elsewhereGood_unrefused.raised resolveUnless_ensures ?_ s path v
    exact fun _ _ _ => Ensures.of_none trivial fun _ => rfl
  | succ n ih =>
    exact finds_of_resolve elsewhereGood_unrefused.raised resolveUnless_ensures ih s path v

end Spec

/-! ## Checks that are replayed -/

namespace Check

/-- What the one check answers, the other answers too, and again in every session that has lost
nothing since. -/
def Replays {α : Type} (x y : Check α) : Prop :=
  ∀ s a t, x s = some (a, t) →
    y s = some (a, t) ∧ t.Retains s ∧ ∀ u, u.Retains t → y u = some (a, u)

theorem compositional_replays : Compositional Replays where
  pure a := by
    intro s _ _ h
    cases h
    exact ⟨rfl, .refl s, fun _ _ => rfl⟩
  bind {_ _ x y f g} hx hf := by
    intro s b t h
    rw [bind_apply] at h
    obtain ⟨⟨a, m⟩, hrun, hrest⟩ := Option.bind_eq_some_iff.mp h
    obtain ⟨hsame, hm, hagain⟩ := hx s a m hrun
    obtain ⟨hsame', ht, hagain'⟩ := hf a m b t hrest
    refine ⟨?_, hm.trans ht, fun u hu => ?_⟩
    · rw [bind_apply, hsame]
      exact hsame'
    · rw [bind_apply, hagain u (ht.trans hu)]
      exact hagain' u hu

/-- The look did not fail, so its cell is filled from then on. -/
theorem replays_behind {α : Type} {refuse : SpecError → Bool} (hrefuse : ∀ e, refuse e = true)
    {reference : Reference} {x y : Check α} {f g : Spec → Check α} {missing : SpecError → α}
    (hx : ∀ s, x s =
      match (Session.resolve reference).run s with
      | (.ok spec, t) => f spec t
      | (.error e, t) => if refuse e then none else some (missing e, t))
    (hy : ∀ s, y s =
      match (Session.resolve reference).run s with
      | (.ok spec, t) => g spec t
      | (.error e, t) => some (missing e, t))
    (hf : ∀ spec, Replays (f spec) (g spec)) : Replays x y := by
  intro s a t h
  rw [hx] at h
  rcases hrun : (Session.resolve reference).run s with ⟨e | spec, m⟩
  · rw [hrun] at h
    simp only [hrefuse, if_true] at h
    cases h
  · rw [hrun] at h
    obtain ⟨hretains, hfilled⟩ := Session.resolve_retains hrun
    obtain ⟨hsame, ht, hagain⟩ := hf spec m a t h
    refine ⟨?_, hretains.trans ht, fun u hu => ?_⟩
    · rw [hy, hrun]
      exact hsame
    · rw [hy, Session.run_resolve, hu.filled (ht.filled (hfilled spec rfl))]
      exact hagain u hu

end Check

open Check (Replays replays_behind)

theorem Spec.replays_refusing {refuse : SpecError → Bool} (hrefuse : ∀ e, refuse e = true) {n m : Nat}
    (hnm : n ≤ m) (s : Spec) (v : Value) : InStep Replays (.refusing refuse n) (.within m) s v := by
  induction n generalizing m s v with
  | zero =>
    have hwithin : (Delegate.within m).resolve = Session.resolveInCheck := by cases m <;> rfl
    refine inStep_of_lazily Check.compositional_replays (fun i reference v => ⟨?_, ?_⟩) s v
    · exact replays_behind hrefuse (conformWith_resolveUnless rfl i reference v)
        (conformWith_resolve hwithin i reference v) fun _ _ _ _ h => by cases h
    · exact fun path => replays_behind hrefuse (explainWith_resolveUnless rfl i reference path v)
        (explainWith_resolve hwithin i reference path v) fun _ _ _ _ h => by cases h
  | succ n ih =>
    obtain ⟨m, rfl⟩ : ∃ k, m = k + 1 := ⟨m - 1, by omega⟩
    have hbehind := ih (Nat.le_of_succ_le_succ hnm)
    refine inStep_of_lazily Check.compositional_replays (fun i reference v => ⟨?_, ?_⟩) s v
    · exact replays_behind hrefuse (conformWith_resolveUnless rfl i reference v)
        (conformWith_deferred m i reference v) fun spec => (hbehind spec v).conform
    · exact fun path => replays_behind hrefuse (explainWith_resolveUnless rfl i reference path v)
        (explainWith_deferred m i reference path v) fun spec => (hbehind spec v).explain path

namespace Check

variable {spec : Spec} {v : Value} {s t u : Session}

theorem reach_le_of_retains (v : Value) (h : t.Retains s) : reach v s ≤ reach v t :=
  Nat.add_le_add_right (Nat.mul_le_mul_left _ (Nat.add_le_add_right h.nextCell 1)) _

theorem conform_advances {c : Conformed} (h : conform spec v s = some (c, t)) : s.Advances t :=
  (Spec.advancing_within _ spec v).conform s c t h

theorem explain_advances {path : Path} {problems : List Problem}
    (h : explain spec path v s = some (problems, t)) : s.Advances t :=
  (Spec.advancing_within _ spec v).explain path s problems t h

/-- A check in which no look failed is answered the same for as long as nothing is lost. -/
theorem conform_replayed {c : Conformed} (h : conform spec v s = some (c, t))
    (hs : ConformResolves spec v s) (hu : u.Retains t) : conform spec v u = some (c, u) := by
  obtain ⟨⟨c', t'⟩, hrun⟩ := Option.isSome_iff_exists.mp hs
  have hsame := (Spec.replays_refusing (fun _ => rfl) (Nat.le_refl _) spec v).conform s c' t' hrun
  cases hsame.1.symm.trans h
  have hreach := reach_le_of_retains v (hsame.2.1.trans hu)
  exact ((Spec.replays_refusing (fun _ => rfl) hreach spec v).conform s c t hrun).2.2 u hu

theorem explain_replayed {path : Path} {problems : List Problem}
    (h : explain spec path v s = some (problems, t)) (hs : ExplainResolves spec path v s)
    (hu : u.Retains t) : explain spec path v u = some (problems, u) := by
  obtain ⟨⟨problems', t'⟩, hrun⟩ := Option.isSome_iff_exists.mp hs
  have hsame :=
    (Spec.replays_refusing (fun _ => rfl) (Nat.le_refl _) spec v).explain path s problems' t' hrun
  cases hsame.1.symm.trans h
  have hreach := reach_le_of_retains v (hsame.2.1.trans hu)
  exact ((Spec.replays_refusing (fun _ => rfl) hreach spec v).explain path s problems t hrun).2.2 u hu

end Check

end Conform

import Conform.Proofs.Check.Blame
/-!
Checks that insist on direct references: they stop where a shape that is mentioned directly cannot be
derived. What they find wrong with a value is never that such a shape was left unresolved.
-/

namespace Conform

/-- A shape that is mentioned itself, and not only by its name. -/
def Target.isDirect : Target → Bool
  | shape .. => true
  | forward .. | bound _ => false

/-- Looks behind a reference, and has no result if there is nothing behind a direct one. -/
def Session.insist (reference : Reference) : Check (Except SpecError Spec) := fun s =>
  match (resolve reference).run s with
  | (.ok spec, t) => some (.ok spec, t)
  | (.error e, t) => if reference.target.isDirect then none else some (.error e, t)

/-- Walks that insist on the direct references they meet. -/
def Delegate.insisting : Nat → Delegate
  | 0 => ⟨Session.insist, fun _ _ _ => none, fun _ _ _ _ => none, fun _ _ => none⟩
  | n + 1 =>
    ⟨Session.insist, fun s v => s.conformWith (insisting n) v,
      fun s path v => s.explainWith (insisting n) path v, fun s => s.describeWith (insisting n)⟩

namespace Check

def conformInsisting (spec : Spec) (v : Value) : Check Conformed :=
  fun s => spec.conformWith (.insisting (reach v s)) v s

def explainInsisting (spec : Spec) (path : Path) (v : Value) : Check (List Problem) :=
  fun s => spec.explainWith (.insisting (reach v s)) path v s

end Check

open Check (Ensures)

/-! ## What insisting checks blame -/

/-- The problem is not that a shape which is mentioned directly could not be derived. -/
def Problem.SparesDirect (p : Problem) : Prop :=
  ∀ i reference, p.spec = .deferred i reference → reference.target.isDirect = false

namespace Spec

theorem conformWith_insisting (n : Nat) (i : Instance) (reference : Reference) (v : Value)
    (s : Session) :
    conformWith (.insisting (n + 1)) (deferred i reference) v s =
      match (Session.resolve reference).run s with
      | (.ok spec, t) => conformWith (.insisting n) spec v t
      | (.error _, t) => if reference.target.isDirect then none else some (.invalid, t) := by
  conv => lhs; unfold conformWith
  rw [Check.bind_apply]
  change Option.bind (Session.insist reference s) _ = _
  unfold Session.insist
  rcases (Session.resolve reference).run s with ⟨e | spec, t⟩
  · simp only
    split <;> rfl
  · rfl

theorem explainWith_insisting (n : Nat) (i : Instance) (reference : Reference) (path : Path)
    (v : Value) (s : Session) :
    explainWith (.insisting (n + 1)) (deferred i reference) path v s =
      match (Session.resolve reference).run s with
      | (.ok spec, t) => explainWith (.insisting n) spec path v t
      | (.error e, t) =>
        if reference.target.isDirect then none
        else some ([⟨path, v, deferred i reference, "unresolved reference: " ++ e.message⟩], t) := by
  conv => lhs; unfold explainWith
  rw [Check.bind_apply]
  change Option.bind (Session.insist reference s) _ = _
  unfold Session.insist
  rcases (Session.resolve reference).run s with ⟨e | spec, t⟩
  · simp only
    split <;> rfl
  · rfl

theorem elsewhereGood_sparesDirect : Problem.ElsewhereGood Problem.SparesDirect :=
  fun _ h i reference hspec => absurd hspec (h i reference)

theorem insist_ensures (reference : Reference) :
    Ensures True (fun _ => True) (Session.insist reference) fun found =>
      ∀ e, found = .error e → ∀ i path v,
        Problem.SparesDirect
          ⟨path, v, .deferred i reference, "unresolved reference: " ++ e.message⟩ := by
  intro s _
  unfold Session.insist
  rcases (Session.resolve reference).run s with ⟨e | spec, t⟩
  · cases hdirect : reference.target.isDirect with
    | true => trivial
    | false =>
      refine ⟨fun _ _ i path v i' reference' hspec => ?_, trivial⟩
      cases hspec
      exact hdirect
  · exact ⟨fun e he => (by cases he), trivial⟩

/-- Whatever an explanation that insists finds, direct references are not to blame. -/
theorem spares_insisting (n : Nat) (s : Spec) (path : Path) (v : Value) :
    Finds Problem.SparesDirect (explainWith (.insisting n) s path v) := by
  induction n generalizing s path v with
  | zero =>
    refine finds_of_resolve elsewhereGood_sparesDirect.raised insist_ensures (fun _ _ _ => ?_) s path v
    exact Ensures.of_none trivial fun _ => rfl
  | succ n ih => exact finds_of_resolve elsewhereGood_sparesDirect.raised insist_ensures ih s path v

end Spec

end Conform

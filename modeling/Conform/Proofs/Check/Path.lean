import Conform.Proofs.Check.Consistency
import Conform.Proofs.Check.Refuse
/-!
Explaining at a path. The path a value is explained at is handed on to the parts of a spec and comes
out in front of the paths of all problems; nothing else that a walk does depends on it.
-/

namespace Conform

/-! ## Paths and problems -/

namespace Path

theorem append_root (p : Path) : p.append root = p := by
  simp [append, root]

theorem child_append (p q : Path) (step : PathStep) :
    (p.append q).child step = p.append (q.child step) := by
  simp [append, child]

end Path

/-- The problem that it is of a larger value, with this one at the end of the path `p`. -/
def Problem.under (p : Path) (problem : Problem) : Problem :=
  { problem with path := p.append problem.path }

def Explanation.under (p : Path) (e : Explanation) : Explanation := ⟨e.problems.map (·.under p)⟩

namespace Check

variable {α : Type} {p : Path}

/-- What `y` answers, with all its problems under `p`. -/
def under (p : Path) (y : Check (List Problem)) : Check (List Problem) :=
  List.map (Problem.under p) <$> y

theorem under_pure (problems : List Problem) :
    under p (pure problems) = pure (problems.map (Problem.under p)) :=
  map_pure _ _

theorem under_bind (x : Check α) (f : α → Check (List Problem)) :
    under p (x >>= f) = x >>= fun a => under p (f a) :=
  map_bind _ _ _

/-- Problems of two checks in a row. -/
theorem under_append (x y : Check (List Problem)) :
    (do let problems ← under p x; return problems ++ (← under p y)) =
      under p (do let problems ← x; return problems ++ (← y)) := by
  simp [under]

end Check

open Check (under under_pure under_bind under_append)

namespace Spec

variable {d : Delegate} {p : Path}

/-! ## Specs without parts -/

theorem rejection_append (passes : Bool) (s : Spec) (q : Path) (v : Value) (reason : String) :
    rejection passes s (p.append q) v reason =
      (rejection passes s q v reason).map (Problem.under p) := by
  cases passes <;> rfl

theorem explainGroup_append (q : Path) (v : Value) (group : PlaceholderGroup) :
    explainGroup (p.append q) v group = (explainGroup q v group).map (Problem.under p) := by
  unfold explainGroup
  cases presentMembers group v with
  | nil => rfl
  | cons first _ => simp [Problem.under, Path.child_append, Function.comp_def]

/-! ## Parts -/

theorem explainItems_append {explain : Path → Value → Check (List Problem)}
    (h : ∀ q v, explain (p.append q) v = under p (explain q v)) (q : Path) (n : Nat)
    (vs : List Value) :
    explainItems explain (p.append q) n vs = under p (explainItems explain q n vs) := by
  induction vs generalizing n with
  | nil => exact (under_pure []).symm
  | cons v vs ih =>
    unfold explainItems
    rw [Path.child_append, h, ih]
    exact under_append _ _

mutual

/-- A walk puts the path it is given in front of all problems, if it does so behind references. -/
theorem explainWith_append (hd : ∀ s q v, d.explain s (p.append q) v = under p (d.explain s q v)) :
    ∀ (s : Spec) (q : Path) (v : Value),
      explainWith d s (p.append q) v = under p (explainWith d s q v)
  | anything _, _, _ | unbound _ _, _, _ => by
    unfold explainWith
    rfl
  | never _, _, _ => by
    unfold explainWith
    rfl
  | predicate _ _, _, _ | equalTo _ _, _, _ | isInstance _ _, _, _ | isIn _ _, _, _ => by
    unfold explainWith
    rw [under_pure, rejection_append]
  | consistency _ groups, q, v => by
    unfold explainWith
    cases v with
    | object pairs =>
      rw [under_pure, List.map_flatMap]
      simp only [← explainGroup_append]
    | null | bool | int | float | string | bytes | list | tuple => rfl
  | decorated _ s _, q, v => by
    simp only [explainWith_decorated]
    exact explainWith_append hd s q v
  | coerce _ coercer s _, q, v => by
    unfold explainWith
    cases coercer.apply v with
    | ok w => exact explainWith_append hd s q w
    | error e => rfl
  | oneOf _ ss, q, v => by
    unfold explainWith
    rw [under_bind]
    congr 1
    funext c
    split
    · rfl
    · exact explainEach_append hd ss q v
  | allOf _ ss, q, v => by
    unfold explainWith
    exact explainThrough_append hd ss q v
  | collOf _ item, q, v => by
    unfold explainWith
    cases v.items? with
    | some items => exact explainItems_append (explainWith_append hd item) q 0 items
    | none => rfl
  | dict i keys extra, q, v => by
    unfold explainWith
    cases v with
    | object pairs =>
      simp only [explainKeys_append hd keys]
      simp [under, Problem.under, Path.child_append, Function.comp_def]
    | null | bool | int | float | string | bytes | list | tuple => rfl
  | deferred _ reference, q, v => by
    unfold explainWith
    rw [under_bind]
    congr 1
    funext found
    cases found with
    | ok s => exact hd s q v
    | error e => rfl

theorem explainEach_append (hd : ∀ s q v, d.explain s (p.append q) v = under p (d.explain s q v)) :
    ∀ (ss : List Spec) (q : Path) (v : Value),
      explainEach d ss (p.append q) v = under p (explainEach d ss q v)
  | [], _, _ => by
    unfold explainEach
    rfl
  | s :: ss, q, v => by
    unfold explainEach
    rw [explainWith_append hd s q v, explainEach_append hd ss q v]
    exact under_append _ _

theorem explainThrough_append
    (hd : ∀ s q v, d.explain s (p.append q) v = under p (d.explain s q v)) :
    ∀ (ss : List Spec) (q : Path) (v : Value),
      explainThrough d ss (p.append q) v = under p (explainThrough d ss q v)
  | [], _, _ => by
    unfold explainThrough
    rfl
  | s :: ss, q, v => by
    unfold explainThrough
    rw [under_bind]
    congr 1
    funext c
    cases c with
    | valid w => exact explainThrough_append hd ss q w
    | invalid => exact explainWith_append hd s q v

theorem explainKeys_append
    (hd : ∀ s q v, d.explain s (p.append q) v = under p (d.explain s q v)) :
    ∀ (keys : List (String × Spec)) (owner : Spec) (q : Path) (v : Value),
      explainKeys d owner keys (p.append q) v = under p (explainKeys d owner keys q v)
  | [], _, _, _ => by
    unfold explainKeys
    rfl
  | (key, s) :: keys, owner, q, v => by
    unfold explainKeys
    rw [explainKeys_append hd keys owner q v, Path.child_append]
    cases v.get? key with
    | some present =>
      simp only [explainWith_append hd s]
      exact under_append _ _
    | none => exact under_append (pure [⟨q.child (.key key), .null, owner, missingKeyReason key⟩]) _

end

/-! ## References -/

theorem explainWith_within_append (n : Nat) (s : Spec) (q : Path) (v : Value) :
    explainWith (.within n) s (p.append q) v = under p (explainWith (.within n) s q v) := by
  induction n generalizing s q v with
  | zero => exact explainWith_append (fun _ _ _ => rfl) s q v
  | succ n ih => exact explainWith_append ih s q v

theorem explainWith_foreseeing_append (f : Forecast) (n : Nat) (s : Spec) (q : Path) (v : Value) :
    explainWith (.foreseeing f n) s (p.append q) v =
      under p (explainWith (.foreseeing f n) s q v) := by
  induction n generalizing s q v with
  | zero => exact explainWith_append (fun _ _ _ => rfl) s q v
  | succ n ih => exact explainWith_append ih s q v

end Spec

namespace Check

theorem under_apply (y : Check (List Problem)) (s : Session) :
    under p y s = (y s).map fun (problems, t) => (problems.map (Problem.under p), t) := by
  change (y s).bind _ = _
  cases y s <;> rfl

/-- A call at a path has an answer if the call at the root has one, and it is that answer with the
path in front. -/
theorem explain_eq_map_under (spec : Spec) (p : Path) (v : Value) (s : Session) :
    explain spec p v s =
      (explain spec .root v s).map fun (problems, t) => (problems.map (Problem.under p), t) := by
  have h := Spec.explainWith_within_append (p := p) (reach v s) spec .root v
  rw [Path.append_root] at h
  unfold explain
  rw [h, under_apply]

/-- The same of the explanations that callers get. -/
theorem explainData_eq_map_under (spec : Spec) (p : Path) (v : Value) (s : Session) :
    explainData spec p v s =
      (explainData spec .root v s).map fun (e, t) => (e.map (Explanation.under p), t) := by
  unfold explainData
  simp only [bind_apply, explain_eq_map_under spec p v s]
  cases explain spec .root v s with
  | none => rfl
  | some answer =>
    obtain ⟨problems, t⟩ := answer
    cases problems <;> rfl

/-- What a call at a path finds behind references does not depend on the path. -/
theorem ExplainFinds.at_path {f : Forecast} {spec : Spec} {v : Value} {s : Session}
    (h : ExplainFinds f spec .root v s) (p : Path) : ExplainFinds f spec p v s := by
  have hat := Spec.explainWith_foreseeing_append (p := p) f (reach v s) spec .root v
  rw [Path.append_root] at hat
  unfold ExplainFinds at h ⊢
  rw [explain_eq_map_under, ← h, hat, under_apply]

/-- Paths are only extended. A call at a path goes like one at the root from the same session; two
calls that find the same behind every lazy reference differ by the path alone; and when no look of the
call at the root fails, a later call at the path has an answer and differs by the path alone. -/
theorem explain_at_path (spec : Spec) (p : Path) (v : Value) :
    (∀ s, explain spec p v s =
      (explain spec .root v s).map fun (problems, t) => (problems.map (Problem.under p), t)) ∧
    (∀ {f : Forecast} {s s' t t' : Session} {problems others : List Problem},
      explain spec .root v s = some (problems, s') → ExplainFinds f spec .root v s →
      explain spec p v t = some (others, t') → ExplainFinds f spec p v t →
        others = problems.map (Problem.under p)) ∧
    ∀ {s s' t : Session} {problems : List Problem},
      explain spec .root v s = some (problems, s') → ExplainResolves spec .root v s →
      t.Retains s' → explain spec p v t = some (problems.map (Problem.under p), t) := by
  refine ⟨explain_eq_map_under spec p v, ?_, ?_⟩
  · intro f s s' t t' problems others hroot hs hpath ht
    have hat := Spec.explainWith_foreseeing_append (p := p) f (reach v t) spec .root v
    rw [Path.append_root] at hat
    -- The call at the path is a call at the root from the same session, its problems put under the
    -- path.
    obtain ⟨again, hagain, hothers⟩ : ∃ again,
        spec.explainWith (.foreseeing f (reach v t)) .root v t = some (again, t') ∧
          again.map (Problem.under p) = others := by
      have h := ht.trans hpath
      rw [hat, under_apply, Option.map_eq_some_iff] at h
      obtain ⟨⟨again, u⟩, hrun, hpair⟩ := h
      cases hpair
      exact ⟨again, hrun, rfl⟩
    -- Both calls at the root answer what the spec means by a forecast long enough for either.
    let m := max (reach v s) (reach v t) + 1
    have hproblems : problems = (spec.meaning (f.refs m)).explain .root v := by
      simpa using ((foreseeing_implements f (by omega) spec v).explain .root).of_some trivial
        (hs.trans hroot) |>.1
    have hsame : again = (spec.meaning (f.refs m)).explain .root v := by
      simpa using ((foreseeing_implements f (by omega) spec v).explain .root).of_some trivial
        hagain |>.1
    rw [← hothers, hsame, hproblems]
  · intro s s' t problems hroot hs hretains
    rw [explain_eq_map_under, explain_replayed hroot hs hretains]
    rfl

theorem Sample.explain_foreseen_unvisited (n : Nat) :
    record.explainWith (.foreseeing (fun _ => .ok numberOrNull) (n + 1)) .root text unvisited =
      record.explainWith (.within (n + 1)) .root text unvisited := by
  have hfound : Session.resolveAs (fun _ => .ok numberOrNull) lazily unvisited =
      Session.resolveInCheck lazily unvisited := if_pos rfl
  simp only [record, text, Delegate.foreseeing, Delegate.within, Spec.explainWith,
    Spec.explainKeys, Value.get?, List.lookup_cons_self, bind_apply, hfound]
  rfl

open Sample in
/-- A part of a larger value is explained after the value alone was; the first call looks behind the
lazy reference, the second finds it looked up. -/
theorem explain_at_path_lazily :
    ∃ problems others, explain record .root text unvisited = some (problems, visited) ∧
      explain record ⟨[.key "part"]⟩ text visited = some (others, visited) ∧
      others = problems.map (Problem.under ⟨[.key "part"]⟩) := by
  obtain ⟨_, hfind, hlater⟩ := explain_at_path record ⟨[.key "part"]⟩ text
  obtain ⟨problems, hroot⟩ :
      ∃ problems, explain record .root text unvisited = some (problems, visited) := ⟨_, rfl⟩
  have hresolves : ExplainResolves record .root text unvisited := rfl
  have hpath := hlater hroot hresolves (.refl visited)
  exact ⟨problems, _, hroot, hpath,
    hfind hroot (explain_foreseen_unvisited _) hpath (ExplainFinds.at_path (explain_foreseen _) _)⟩

end Check

end Conform

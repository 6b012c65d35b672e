import Conform.Proofs.Check.Ensures
/-!
What explanations blame. A spec that a walk blames rejects the blamed value by itself, unless a key was
not expected or a lazy reference is blamed. So a property that such problems have holds of all that an
explanation finds, if it holds of what is found at the lazy references; and there it is a matter of the
errors that looks end in.
-/

namespace Conform

open Check (Ensures)

/-- The problem is a key of an object that a dictionary spec neither declares nor allows. -/
def Problem.IsUnexpectedKey (p : Problem) : Prop :=
  ∃ i keys, ∃ (path : Path) (key : String), p.spec = .dict i keys .forbid ∧
    p.path = path.child (.key key) ∧ Spec.isDeclared keys key = false ∧
    p.reason = Spec.unexpectedKeyReason key

/-- Walks of the spec do not accept the value, and look behind no reference to find out. -/
def Spec.Rejects (s : Spec) (v : Value) : Prop := ∀ d, s.conformWith d v = pure .invalid

/-- How problems come up, but for those of lazy references. -/
def Problem.Raised (p : Problem) : Prop := p.IsUnexpectedKey ∨ p.spec.Rejects p.value

/-- Of problems that blame no lazy reference nothing is left to show. -/
def Problem.ElsewhereGood (good : Problem → Prop) : Prop :=
  ∀ p, (∀ i reference, p.spec ≠ .deferred i reference) → good p

/-- A reference is looked behind before anything is rejected. -/
theorem Spec.not_rejects_deferred (i : Instance) (reference : Reference) (v : Value) :
    ¬(deferred i reference).Rejects v := by
  intro h
  have hnone := h ⟨fun _ _ => none, fun _ _ _ => none, fun _ _ _ _ => none, fun _ _ => none⟩
  unfold conformWith at hnone
  cases congrFun hnone ⟨[], [], [], [], [], 0, 0⟩

theorem Problem.Raised.not_deferred {p : Problem} (h : p.Raised) (i : Instance)
    (reference : Reference) : p.spec ≠ .deferred i reference := by
  intro hspec
  rcases h with ⟨_, _, _, _, hdict, _⟩ | hrejects
  · cases hdict.symm.trans hspec
  · rw [hspec] at hrejects
    exact Spec.not_rejects_deferred i reference _ hrejects

theorem Problem.ElsewhereGood.raised {good : Problem → Prop} (h : ElsewhereGood good) (p : Problem)
    (hp : p.Raised) : good p :=
  h p hp.not_deferred

namespace Spec

/-- Whatever the explanation finds is good. -/
def Finds (good : Problem → Prop) (x : Check (List Problem)) : Prop :=
  Ensures True (fun _ => True) x fun problems => ∀ p ∈ problems, good p

/-- The explanations of lazy references find what is good. -/
def LazyFinds (good : Problem → Prop) (d : Delegate) : Prop :=
  ∀ i reference path v, Finds good (explainWith d (deferred i reference) path v)

section
variable {good : Problem → Prop}

theorem finds_nil : Finds good (pure []) := Ensures.pure fun _ hp => absurd hp List.not_mem_nil

theorem Finds.append {x y : Check (List Problem)} (hx : Finds good x) (hy : Finds good y) :
    Finds good (do return (← x) ++ (← y)) :=
  Ensures.append hx hy

theorem Finds.bind {α : Type} {x : Check α} {f : α → Check (List Problem)}
    (hf : ∀ a, Finds good (f a)) : Finds good (x >>= f) := by
  refine Ensures.bind (R := fun _ => True) (fun s _ => ?_) fun a _ => hf a
  cases x s <;> trivial

theorem finds_pure {problems : List Problem} (h : ∀ p ∈ problems, good p) :
    Finds good (pure problems) :=
  Ensures.pure h

theorem finds_single {p : Problem} (h : good p) : Finds good (pure [p]) :=
  finds_pure (List.forall_mem_singleton.mpr h)

theorem finds_rejection (hgood : ∀ p : Problem, p.Raised → good p) {passes : Bool} {s : Spec}
    {v : Value} (hs : ∀ d, conformWith d s v = pure (.ofBool passes v)) (path : Path)
    (reason : String) : Finds good (pure (rejection passes s path v reason)) := by
  cases passes with
  | true => exact finds_nil
  | false => exact finds_single (hgood _ (.inr hs))

/-- A member is blamed by the kind of the first one, which is not its own. -/
theorem exists_of_mem_explainGroup {path : Path} {v : Value} {group : PlaceholderGroup} {p : Problem}
    (h : p ∈ explainGroup path v group) :
    ∃ first field w, (field, w) ∈ presentMembers group v ∧ w.kind ≠ first ∧
      p = ⟨path.child (.key field), w, isInstance (.implied first) first,
        isInstanceReason first w⟩ := by
  unfold explainGroup dissenters at h
  cases hpresent : presentMembers group v with
  | nil =>
    rw [hpresent] at h
    cases h
  | cons first rest =>
    rw [hpresent] at h
    obtain ⟨⟨field, w⟩, hmember, rfl⟩ := List.mem_map.mp h
    obtain ⟨hmem, hkind⟩ := List.mem_filter.mp hmember
    exact ⟨first.2.kind, field, w, hmem, of_decide_eq_true hkind, rfl⟩

theorem rejects_of_mem_explainGroup {path : Path} {v : Value} {group : PlaceholderGroup}
    {p : Problem} (h : p ∈ explainGroup path v group) : p.spec.Rejects p.value := by
  obtain ⟨first, field, w, _, hkind, rfl⟩ := exists_of_mem_explainGroup h
  intro d
  unfold conformWith
  simp only [hkind, decide_false]
  rfl

theorem finds_explainItems {explain : Path → Value → Check (List Problem)}
    (h : ∀ path v, Finds good (explain path v)) (path : Path) (n : Nat) (vs : List Value) :
    Finds good (explainItems explain path n vs) := by
  induction vs generalizing n with
  | nil => exact finds_nil
  | cons v vs ih => exact (h _ v).append (ih (n + 1))

variable {d : Delegate}

mutual

/-- Explanations find what is good if they do so at the lazy references. -/
theorem finds_explainWith (hgood : ∀ p : Problem, p.Raised → good p) (hd : LazyFinds good d) :
    ∀ s path v, Finds good (explainWith d s path v)
  | anything _, path, v => by
    unfold explainWith
    exact finds_nil
  | unbound _ _, path, v => by
    unfold explainWith
    exact finds_nil
  | never i, path, v => by
    unfold explainWith
    exact finds_single (hgood _ (.inr fun _ => by unfold conformWith; rfl))
  | predicate i p, path, v => by
    unfold explainWith
    exact finds_rejection hgood (fun _ => by unfold conformWith; rfl) path _
  | equalTo i expected, path, v => by
    unfold explainWith
    exact finds_rejection hgood (fun _ => by unfold conformWith; rfl) path _
  | isInstance i k, path, v => by
    unfold explainWith
    exact finds_rejection hgood (fun _ => by unfold conformWith; rfl) path _
  | isIn i members, path, v => by
    unfold explainWith
    exact finds_rejection hgood (fun _ => by unfold conformWith; rfl) path _
  | decorated i s description, path, v => by
    rw [explainWith_decorated]
    exact finds_explainWith hgood hd s path v
  | coerce i coercer s failureReason, path, v => by
    unfold explainWith
    cases happly : coercer.apply v with
    | ok w => exact finds_explainWith hgood hd s path w
    | error e =>
      refine finds_single (hgood _ (.inr fun _ => ?_))
      unfold conformWith
      simp only [happly]
  | oneOf i ss, path, v => by
    unfold explainWith
    refine Finds.bind fun c => ?_
    split
    · exact finds_nil
    · exact finds_explainEach hgood hd ss path v
  | allOf i ss, path, v => by
    unfold explainWith
    exact finds_explainThrough hgood hd ss path v
  | collOf i item, path, v => by
    unfold explainWith
    cases hitems : v.items? with
    | some items =>
      exact finds_explainItems (fun path v => finds_explainWith hgood hd item path v) path 0 items
    | none =>
      refine finds_single (hgood _ (.inr fun _ => ?_))
      unfold conformWith
      cases v with
      | list | tuple => cases hitems
      | null | bool | int | float | string | bytes | object => rfl
  | dict i keys extra, path, v => by
    unfold explainWith
    cases v with
    | object pairs =>
      have hdeclared : Finds good (explainKeys d (dict i keys extra) keys path (.object pairs)) :=
        finds_explainKeys hgood hd (fun _ => by unfold conformWith; rfl) keys path (.object pairs)
      have hextra : Finds good (pure ((if extra = .forbid then undeclared keys pairs else []).map
          fun (key, w) => ⟨path.child (.key key), w, dict i keys extra, unexpectedKeyReason key⟩)) := by
        refine finds_pure (List.forall_mem_map.mpr fun pair hpair => hgood _ (.inl ?_))
        -- Only a spec that forbids undeclared keys has any to blame.
        by_cases hforbid : extra = .forbid
        · subst hforbid
          rw [if_pos rfl] at hpair
          have hundeclared := (List.mem_filter.mp hpair).2
          exact ⟨i, keys, path, pair.1, rfl, rfl, by simpa using hundeclared, rfl⟩
        · rw [if_neg hforbid] at hpair
          cases hpair
      exact hdeclared.append hextra
    | null | bool | int | float | string | bytes | list | tuple =>
      exact finds_single (hgood _ (.inr fun _ => by unfold conformWith; rfl))
  | deferred i reference, path, v => hd i reference path v
  | consistency i groups, path, v => by
    unfold explainWith
    cases v with
    | object pairs =>
      refine finds_pure fun p hp => ?_
      obtain ⟨group, _, hmem⟩ := List.mem_flatMap.mp hp
      exact hgood p (.inr (rejects_of_mem_explainGroup hmem))
    | null | bool | int | float | string | bytes | list | tuple =>
      exact finds_single (hgood _ (.inr fun _ => by unfold conformWith; rfl))

theorem finds_explainEach (hgood : ∀ p : Problem, p.Raised → good p) (hd : LazyFinds good d) :
    ∀ ss path v, Finds good (explainEach d ss path v)
  | [], path, v => by
    unfold explainEach
    exact finds_nil
  | s :: ss, path, v => by
    unfold explainEach
    exact (finds_explainWith hgood hd s path v).append (finds_explainEach hgood hd ss path v)

theorem finds_explainThrough (hgood : ∀ p : Problem, p.Raised → good p) (hd : LazyFinds good d) :
    ∀ ss path v, Finds good (explainThrough d ss path v)
  | [], path, v => by
    unfold explainThrough
    exact finds_nil
  | s :: ss, path, v => by
    unfold explainThrough
    refine Finds.bind fun c => ?_
    cases c with
    | valid w => exact finds_explainThrough hgood hd ss path w
    | invalid => exact finds_explainWith hgood hd s path v

theorem finds_explainKeys (hgood : ∀ p : Problem, p.Raised → good p) (hd : LazyFinds good d)
    {owner : Spec} (howner : owner.Rejects .null) :
    ∀ keys path v, Finds good (explainKeys d owner keys path v)
  | [], path, v => by
    unfold explainKeys
    exact finds_nil
  | (key, s) :: rest, path, v => by
    unfold explainKeys
    have hrest := finds_explainKeys hgood hd howner rest path v
    cases v.get? key with
    | some present => exact (finds_explainWith hgood hd s (path.child (.key key)) present).append hrest
    | none => exact Finds.append (finds_single (hgood _ (.inr howner))) hrest

end

/-! ## References -/

/-- What is found at the lazy references is good, if it is behind them, and if a look that fails ends
in an error that makes a good problem. -/
theorem lazyFinds_of_resolve
    (hresolve : ∀ reference, Ensures True (fun _ => True) (d.resolve reference) fun found =>
      ∀ e, found = .error e → ∀ i path v,
        good ⟨path, v, .deferred i reference, "unresolved reference: " ++ e.message⟩)
    (h : ∀ s path v, Finds good (d.explain s path v)) : LazyFinds good d := by
  intro i reference path v
  unfold explainWith
  refine Ensures.bind (hresolve reference) fun found hfound => ?_
  cases found with
  | ok spec => exact h spec path v
  | error e => exact finds_single (hfound e rfl i path v)

theorem finds_of_resolve (hgood : ∀ p : Problem, p.Raised → good p)
    (hresolve : ∀ reference, Ensures True (fun _ => True) (d.resolve reference) fun found =>
      ∀ e, found = .error e → ∀ i path v,
        good ⟨path, v, .deferred i reference, "unresolved reference: " ++ e.message⟩)
    (h : ∀ s path v, Finds good (d.explain s path v)) (s : Spec) (path : Path) (v : Value) :
    Finds good (explainWith d s path v) :=
  finds_explainWith hgood (lazyFinds_of_resolve hresolve h) s path v

end

end Spec

end Conform

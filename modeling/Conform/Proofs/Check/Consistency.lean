import Conform.Proofs.Check.Ensures
/-!
The law that conforming and explaining agree: a value has no problems exactly if it is valid. Lazy
references are looked up by both calls, so the law is about two calls that find the same behind them;
`Forecast` says what they find, and calls that find something else are told apart by walks that stop
there.
-/

namespace Conform

/-- What is found behind each lazy reference. -/
abbrev Forecast := Reference → Except SpecError Spec

namespace Forecast

/-- The meaning of references that lead through at most `n` others. -/
def refs (f : Forecast) : Nat → Instance → Reference → Meaning
  | 0, id, reference => .ofCheck (.deferred id reference) (fun _ => false) fun _ => ""
  | n + 1, id, reference =>
    match f reference with
    | .error e => .unresolved (.deferred id reference) e
    | .ok s => s.meaning (f.refs n)

/-- Every union in the specs that are found has an alternative. -/
def HasAlternatives (f : Forecast) : Prop := ∀ reference s, f reference = .ok s → s.HasAlternatives

theorem lawful_refs {f : Forecast} (hf : f.HasAlternatives) (n : Nat) (id : Instance)
    (reference : Reference) : (f.refs n id reference).Lawful := by
  induction n generalizing id reference with
  | zero => exact Meaning.lawful_ofCheck _ _ _
  | succ n ih =>
    unfold refs
    cases h : f reference with
    | error e => exact Meaning.lawful_unresolved _ e
    | ok s => exact Spec.lawful_meaning ih s (hf reference s h)

end Forecast

open Classical in
/-- Looks behind a reference, and has no result if something else is there than foreseen. -/
noncomputable def Session.resolveAs (f : Forecast) (reference : Reference) :
    Check (Except SpecError Spec) := fun s =>
  if ((resolve reference).run s).1 = f reference then resolveInCheck reference s else none

/-- Walks that stop where something else is found than foreseen. -/
noncomputable def Delegate.foreseeing (f : Forecast) : Nat → Delegate
  | 0 => ⟨Session.resolveAs f, fun _ _ _ => none, fun _ _ _ _ => none, fun _ _ => none⟩
  | n + 1 =>
    ⟨Session.resolveAs f, fun s v => s.conformWith (foreseeing f n) v,
      fun s path v => s.explainWith (foreseeing f n) path v,
      fun s => s.describeWith (foreseeing f n)⟩

namespace Check

/-- While it conforms the value, the call finds behind references what is foreseen. -/
def ConformFinds (f : Forecast) (spec : Spec) (v : Value) (s : Session) : Prop :=
  spec.conformWith (.foreseeing f (reach v s)) v s = conform spec v s

/-- While it explains the value, the call finds behind references what is foreseen. -/
def ExplainFinds (f : Forecast) (spec : Spec) (path : Path) (v : Value) (s : Session) : Prop :=
  spec.explainWith (.foreseeing f (reach v s)) path v s = explain spec path v s

theorem resolveAs_ensures (f : Forecast) (reference : Reference) :
    Ensures True (fun _ => True) (Session.resolveAs f reference) (· = f reference) := by
  intro s _
  unfold Session.resolveAs
  by_cases h : ((Session.resolve reference).run s).1 = f reference
  · rw [if_pos h]
    exact ⟨h, trivial⟩
  · rw [if_neg h]
    trivial

/-- A walk through at most `n` references that finds what is foreseen answers what the spec means,
also by a longer forecast. The induction is on how many references are left to go through. -/
theorem foreseeing_implements (f : Forecast) {n m : Nat} (hnm : n < m) (s : Spec) (v : Value) :
    Spec.Implements True (fun _ => True) (.foreseeing f n) (fun p => p) s (s.meaning (f.refs m)) v := by
  induction n generalizing m s v with
  | zero =>
    refine Spec.implements_meaning ?_ s v
    intro id reference v
    obtain ⟨m, rfl⟩ : ∃ k, m = k + 1 := ⟨m - 1, by omega⟩
    refine Spec.implements_deferred (resolveAs_ensures f reference) ?_ ?_
    · intro e he
      simp [Forecast.refs, he, Meaning.unresolved]
    · intro s _
      exact ⟨Ensures.of_none trivial fun _ => rfl, fun _ => Ensures.of_none trivial fun _ => rfl⟩
  | succ n ih =>
    refine Spec.implements_meaning ?_ s v
    intro id reference v
    obtain ⟨m, rfl⟩ : ∃ k, m = k + 1 := ⟨m - 1, by omega⟩
    refine Spec.implements_deferred (resolveAs_ensures f reference) ?_ ?_
    · intro e he
      simp [Forecast.refs, he, Meaning.unresolved]
    · intro s hs
      have hwalk := ih (m := m) (by omega) s v
      simp only [Forecast.refs, hs]
      exact ⟨hwalk.conform, hwalk.explain⟩

/-! ## Calls that find the same -/

section
variable {f : Forecast} {spec spec' : Spec} {v : Value} {s s' t t' : Session}
  (hmeaning : ∀ refs, spec.meaning refs = spec'.meaning refs)
include hmeaning

theorem conform_eq_of_meaning_eq {c c' : Conformed} (hrun : conform spec v s = some (c, t))
    (hs : ConformFinds f spec v s) (hrun' : conform spec' v s' = some (c', t'))
    (hs' : ConformFinds f spec' v s') : c = c' := by
  let m := max (reach v s) (reach v s') + 1
  have hc : c = (spec.meaning (f.refs m)).conform v :=
    ((foreseeing_implements f (by omega) spec v).conform.of_some trivial (hs.trans hrun)).1
  have hc' : c' = (spec'.meaning (f.refs m)).conform v :=
    ((foreseeing_implements f (by omega) spec' v).conform.of_some trivial (hs'.trans hrun')).1
  rw [hc, hc', hmeaning]

theorem explain_eq_of_meaning_eq {path : Path} {problems problems' : List Problem}
    (hrun : explain spec path v s = some (problems, t)) (hs : ExplainFinds f spec path v s)
    (hrun' : explain spec' path v s' = some (problems', t')) (hs' : ExplainFinds f spec' path v s') :
    problems = problems' := by
  let m := max (reach v s) (reach v s') + 1
  have hp : problems = (spec.meaning (f.refs m)).explain path v := by
    simpa using ((foreseeing_implements f (by omega) spec v).explain path).of_some trivial
      (hs.trans hrun) |>.1
  have hp' : problems' = (spec'.meaning (f.refs m)).explain path v := by
    simpa using ((foreseeing_implements f (by omega) spec' v).explain path).of_some trivial
      (hs'.trans hrun') |>.1
  rw [hp, hp', hmeaning]

end

/-- The consistency law: of two calls that find the same behind every lazy reference, the one
explains a value without problems exactly if the other conforms it to a valid one. -/
theorem explain_eq_nil_iff_conform_isValid {f : Forecast} {spec : Spec}
    (hspec : spec.HasAlternatives) (hf : f.HasAlternatives) {path : Path} {v : Value}
    {s s' t t' : Session} {c : Conformed} {problems : List Problem}
    (hconform : conform spec v s = some (c, s')) (hs : ConformFinds f spec v s)
    (hexplain : explain spec path v t = some (problems, t')) (ht : ExplainFinds f spec path v t) :
    problems = [] ↔ c.isValid = true := by
  let m := max (reach v s) (reach v t) + 1
  have hc : c = (spec.meaning (f.refs m)).conform v :=
    ((foreseeing_implements f (by omega) spec v).conform.of_some trivial (hs.trans hconform)).1
  have hp : problems = (spec.meaning (f.refs m)).explain path v := by
    simpa using ((foreseeing_implements f (by omega) spec v).explain path).of_some trivial
      (ht.trans hexplain) |>.1
  rw [hc, hp]
  exact Spec.lawful_meaning (Forecast.lawful_refs hf m) spec hspec path v

/-! ## A lazy reference looked up by the first of two calls -/

namespace Sample

open Spec

def numberOrNull : Spec :=
  .oneOf (.made 2) [.isInstance (.made 0) .int, .isInstance (.made 1) .null]

def lazily : Reference := ⟨0, "number or null", .bound "n"⟩

def record : Spec := .dict (.made 4) [("n", .deferred (.made 3) lazily)] .forbid

def unvisited : Session := ⟨[("n", numberOrNull)], [], [], [], [], 1, 5⟩

def visited : Session := { unvisited with filled := [(0, numberOrNull)] }

def text : Value := .object [("n", .string "one")]

theorem conform_foreseen (n : Nat) :
    record.conformWith (.foreseeing (fun _ => .ok numberOrNull) (n + 1)) text unvisited =
      record.conformWith (.within (n + 1)) text unvisited := by
  have hfound : Session.resolveAs (fun _ => .ok numberOrNull) lazily unvisited =
      Session.resolveInCheck lazily unvisited := if_pos rfl
  simp only [record, text, Delegate.foreseeing, Delegate.within, conformWith, conformKeys,
    Value.get?, List.lookup_cons_self, bind_apply, hfound]
  rfl

theorem explain_foreseen (n : Nat) :
    record.explainWith (.foreseeing (fun _ => .ok numberOrNull) (n + 1)) .root text visited =
      record.explainWith (.within (n + 1)) .root text visited := by
  have hfound : Session.resolveAs (fun _ => .ok numberOrNull) lazily visited =
      Session.resolveInCheck lazily visited := if_pos rfl
  simp only [record, text, Delegate.foreseeing, Delegate.within, explainWith, explainKeys,
    Value.get?, List.lookup_cons_self, bind_apply, hfound]
  rfl

end Sample

open Sample in
theorem explain_eq_nil_iff_conform_isValid_lazily :
    ∃ problems, explain record .root text visited = some (problems, visited) ∧
      (problems = [] ↔ Conformed.invalid.isValid = true) := by
  have hconform : conform record text unvisited = some (.invalid, visited) := rfl
  obtain ⟨problems, hexplain⟩ :
      ∃ problems, explain record .root text visited = some (problems, visited) := ⟨_, rfl⟩
  have hspec : record.HasAlternatives := by
    simp [record, Spec.HasAlternatives, Spec.KeysHaveAlternatives]
  have hf : Forecast.HasAlternatives fun _ => .ok numberOrNull := by
    intro _ s hs
    cases hs
    simp [numberOrNull, Spec.HasAlternatives, Spec.AllHaveAlternatives]
  exact ⟨problems, hexplain,
    explain_eq_nil_iff_conform_isValid hspec hf hconform (conform_foreseen _) hexplain
      (explain_foreseen _)⟩

end Check

end Conform

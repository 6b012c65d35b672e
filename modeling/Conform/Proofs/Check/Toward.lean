import Conform.Proofs.Check.Consistency
import Conform.Proofs.Check.Walk
/-!
Checks on the way to a later session. What a later session holds in the cells gives every spec a
meaning, in which a reference with an empty cell accepts nothing. A walk that stops wherever it finds
something that the later session does not hold, or misses something that it does, answers what the
spec means there.
-/

namespace Conform

namespace Session

/-- What the session holds behind references. The error stands for all there may be. -/
def forecast (e : Session) : Forecast := fun reference =>
  match e.filled.lookup reference.cell with
  | some spec => .ok spec
  | none => .error .registryDropped

/-- Looks behind a reference, and has no result unless the later session holds a spec there if and
only if one is found. -/
def resolveToward (e : Session) (reference : Reference) : Check (Except SpecError Spec) := fun s =>
  match e.filled.lookup reference.cell, (resolve reference).run s with
  | some spec, (.ok _, t) => some (.ok spec, t)
  | none, (.error error, t) => some (.error error, t)
  | _, _ => none

end Session

/-- Walks that stop where they leave the way to a later session. -/
def Delegate.toward (e : Session) : Nat → Delegate
  | 0 => ⟨Session.resolveToward e, fun _ _ _ => none, fun _ _ _ _ => none, fun _ _ => none⟩
  | n + 1 =>
    ⟨Session.resolveToward e, fun s v => s.conformWith (toward e n) v,
      fun s path v => s.explainWith (toward e n) path v, fun s => s.describeWith (toward e n)⟩

open Check (Ensures)

section
variable {e s t : Session} {reference : Reference}

theorem Session.resolveToward_ok {found spec : Spec}
    (hcell : e.filled.lookup reference.cell = some spec)
    (hrun : (resolve reference).run s = (.ok found, t)) :
    resolveToward e reference s = some (.ok spec, t) := by
  unfold resolveToward
  rw [hcell, hrun]

theorem Session.resolveToward_error {error : SpecError}
    (hcell : e.filled.lookup reference.cell = none)
    (hrun : (resolve reference).run s = (.error error, t)) :
    resolveToward e reference s = some (.error error, t) := by
  unfold resolveToward
  rw [hcell, hrun]

/-- The later session tells what is found, but not which error there is if nothing is. -/
theorem Check.resolveToward_ensures (e : Session) (reference : Reference) :
    Ensures True (fun _ => True) (Session.resolveToward e reference) fun found =>
      match e.forecast reference with
      | .ok spec => found = .ok spec
      | .error _ => ∃ error, found = .error error := by
  intro s _
  unfold Session.resolveToward Session.forecast
  rcases (Session.resolve reference).run s with ⟨error | found, t⟩ <;>
    cases e.filled.lookup reference.cell
  · exact ⟨⟨error, rfl⟩, trivial⟩
  · trivial
  · trivial
  · exact ⟨rfl, trivial⟩

end

namespace Spec

variable {e : Session} {v : Value}

/-- How many problems there are, whatever they tell. -/
theorem implements_toward {d : Delegate} (hd : d.resolve = Session.resolveToward e) (i : Instance)
    (reference : Reference) {m : Meaning}
    (herror : ∀ error, e.forecast reference = .error error →
      m.conform v = .invalid ∧ ∀ path, (m.explain path v).length = 1)
    (hok : ∀ spec, e.forecast reference = .ok spec →
      Ensures True (fun _ => True) (d.conform spec v) (· = m.conform v) ∧
      ∀ path, Ensures True (fun _ => True) (d.explain spec path v) fun ps =>
        ps.map (fun _ => ()) = (m.explain path v).map fun _ => ()) :
    Implements True (fun _ => True) d (fun _ => ()) (deferred i reference) m v := by
  have hfound := Check.resolveToward_ensures e reference
  rw [← hd] at hfound
  cases hforecast : e.forecast reference with
  | ok spec =>
    rw [hforecast] at hfound
    exact implements_deferred hfound (fun error herror => by cases herror) fun spec' hspec => by
      cases hspec
      exact hok spec hforecast
  | error error =>
    rw [hforecast] at hfound
    obtain ⟨hconform, hexplain⟩ := herror error hforecast
    constructor
    · unfold conformWith
      refine hfound.bind fun found hmissing => ?_
      obtain ⟨_, rfl⟩ := hmissing
      exact Ensures.pure hconform.symm
    · intro path
      unfold explainWith
      refine hfound.bind fun found hmissing => ?_
      obtain ⟨_, rfl⟩ := hmissing
      obtain ⟨problem, hproblem⟩ := List.length_eq_one_iff.mp (hexplain path)
      refine Ensures.pure ?_
      rw [hproblem]
      rfl

end Spec

/-- On the way to a later session a walk through at most `n` references answers what the spec means
there. The induction is on how many references are left to go through. -/
theorem Check.toward_implements (e : Session) {n m : Nat} (hnm : n < m) (s : Spec) (v : Value) :
    Spec.Implements True (fun _ => True) (.toward e n) (fun _ => ()) s
      (s.meaning (e.forecast.refs m)) v := by
  induction n generalizing m s v with
  | zero =>
    refine Spec.implements_meaning (fun id reference v => ?_) s v
    obtain ⟨m, rfl⟩ : ∃ k, m = k + 1 := ⟨m - 1, by omega⟩
    refine Spec.implements_toward rfl id reference (fun error herror => ?_) fun _ _ => ?_
    · simp [Forecast.refs, herror, Meaning.unresolved]
    · exact ⟨Ensures.of_none trivial fun _ => rfl, fun _ => Ensures.of_none trivial fun _ => rfl⟩
  | succ n ih =>
    refine Spec.implements_meaning (fun id reference v => ?_) s v
    obtain ⟨m, rfl⟩ : ∃ k, m = k + 1 := ⟨m - 1, by omega⟩
    refine Spec.implements_toward rfl id reference (fun error herror => ?_) fun spec hspec => ?_
    · simp [Forecast.refs, herror, Meaning.unresolved]
    · have hwalk := ih (m := m) (by omega) spec v
      simp only [Forecast.refs, hspec]
      exact ⟨hwalk.conform, hwalk.explain⟩

end Conform

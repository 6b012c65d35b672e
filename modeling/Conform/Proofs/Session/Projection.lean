import Conform.Proofs.Check.Consistency
import Conform.Proofs.Check.Projection
import Conform.Proofs.Session.Events
/-!
Derived specs only project. There is no coercion in what stands for a kind, nor in what answers for a
reference, so no check of a derived spec meets one.
-/

namespace Conform

open Session (IntactOver)
open Spec (InStep)

section
variable {id : Nat} {r : Registry} {Q : Target → Prop} {cells : List Target}

theorem RecordForm.uncoerced {config : DeriveConfig} {groups : List PlaceholderGroup}
    {keys : List (String × Spec)} {s : Spec} (h : RecordForm config groups keys s)
    (hkeys : Spec.keysUncoerced keys = true) : s.uncoerced = true := by
  cases h with
  | plain => simp only [Spec.uncoerced, hkeys]
  | grouped => simp only [Spec.uncoerced, Spec.allUncoerced, hkeys, Bool.and_self]

mutual

theorem Stands.uncoerced : ∀ {k : Kind} {s : Spec}, Stands id r Q cells k s → s.uncoerced = true
  | _, _, .leaf .. | _, _, .nothing _ | _, _, .placeholder .. | _, _, .lazyRecord ..
  | _, _, .forward .. => by simp only [Spec.uncoerced]
  | _, _, .record h => h.uncoerced
  | _, _, .list _ h => by simp only [Spec.uncoerced, h.uncoerced]
  | _, _, .union _ hs => by simp only [Spec.uncoerced, hs.uncoerced]

theorem StandAll.uncoerced :
    ∀ {ks : List Kind} {ss : List Spec}, StandAll id r Q cells ks ss → Spec.allUncoerced ss = true
  | _, _, .nil => by simp only [Spec.allUncoerced]
  | _, _, .cons h hs => by simp only [Spec.allUncoerced, h.uncoerced, hs.uncoerced, Bool.and_self]

theorem StandFields.uncoerced :
    ∀ {fields : List Field} {keys : List (String × Spec)}, StandFields id r Q cells fields keys →
      Spec.keysUncoerced keys = true
  | _, _, .nil => by simp only [Spec.keysUncoerced]
  | _, _, .cons h hs => by simp only [Spec.keysUncoerced, h.uncoerced, hs.uncoerced, Bool.and_self]

theorem StandsRecord.uncoerced :
    ∀ {a : Applied} {s : Spec}, StandsRecord id r Q cells a s → s.uncoerced = true
  | _, _, .mk _ _ hkeys hform => hform.uncoerced hkeys.uncoerced

end

theorem Answers.uncoerced {target : Target} {s : Spec} (h : Answers id r Q cells target s) :
    s.uncoerced = true := by
  cases h with
  | shape h => exact h.uncoerced
  | forward _ h => exact h.uncoerced
  | builtin => simp only [Spec.uncoerced]

end

/-! ## Walks that accept all they find -/

namespace Spec

variable {accept : Spec → Bool}

theorem conformWith_resolveAmong {d : Delegate} (hd : d.resolve = Session.resolveAmong accept)
    (i : Instance) (reference : Reference) (v : Value) (s : Session) :
    conformWith d (deferred i reference) v s =
      match (Session.resolve reference).run s with
      | (.ok spec, t) => if accept spec then d.conform spec v t else none
      | (.error _, t) => some (.invalid, t) := by
  conv => lhs; unfold conformWith
  rw [Check.bind_apply, hd]
  unfold Session.resolveAmong
  rcases (Session.resolve reference).run s with ⟨e | spec, t⟩
  · rfl
  · simp only
    split <;> rfl

theorem explainWith_resolveAmong {d : Delegate} (hd : d.resolve = Session.resolveAmong accept)
    (i : Instance) (reference : Reference) (path : Path) (v : Value) (s : Session) :
    explainWith d (deferred i reference) path v s =
      match (Session.resolve reference).run s with
      | (.ok spec, t) => if accept spec then d.explain spec path v t else none
      | (.error e, t) =>
        some ([⟨path, v, deferred i reference, "unresolved reference: " ++ e.message⟩], t) := by
  conv => lhs; unfold explainWith
  rw [Check.bind_apply, hd]
  unfold Session.resolveAmong
  rcases (Session.resolve reference).run s with ⟨e | spec, t⟩
  · rfl
  · simp only
    split <;> rfl

end Spec

section
variable {id : Nat} {r : Registry} {cells : List Target} {n : Nat} {v : Value}

/-- No walk of what answers for a reference is stopped for a coercion. -/
theorem deferred_uncoerced (n : Nat) (cells : List Target) :
    LazyInStep (Answering id r cells) (.within n) (.accepting Spec.uncoerced n) id (fun _ => True) cells
      n := by
  induction n generalizing cells with
  | zero => exact fun _ _ _ _ _ _ hv => absurd hv (Nat.not_lt_zero _)
  | succ n ih =>
    have hnothing := spared_nothing id r
    intro i reference v hcell htarget _ hv
    have hwalk : ∀ {cells' : List Target} {spec : Spec},
        Answers id r (fun _ => True) cells' reference.target spec →
        InStep (Answering id r cells') (.within n) (.accepting Spec.uncoerced n) spec v :=
      fun h => h.inStep (compositional_answering _) hnothing.inwards (ih _) trivial
        (fun _ _ _ _ => trivial) v (Nat.le_of_lt_succ hv)
    constructor
    · refine answering_behind hnothing hcell htarget trivial (Spec.conformWith_deferred n i reference v)
        (Spec.conformWith_resolveAmong rfl i reference v) fun h => ?_
      simp only [h.uncoerced, if_true]
      exact (hwalk h).conform
    · intro path
      refine answering_behind hnothing hcell htarget trivial
        (Spec.explainWith_deferred n i reference path v)
        (Spec.explainWith_resolveAmong rfl i reference path v) fun h => ?_
      simp only [h.uncoerced, if_true]
      exact (hwalk h).explain path

theorem Stands.meets_uncoerced {k : Kind} {spec : Spec}
    (h : Stands id r (fun _ => True) cells k spec) {s : Session} (hs : Session.Intact id r cells s)
    (v : Value) :
    Check.ConformMeets Spec.uncoerced spec v s ∧ ∃ c t, Check.conform spec v s = some (c, t) := by
  have hwalk : InStep (Answering id r cells) (.within (Check.reach v s))
      (.accepting Spec.uncoerced (Check.reach v s)) spec v :=
    h.inStep (compositional_answering cells) (spared_nothing id r).inwards
      (deferred_uncoerced _ cells) (fun _ _ => trivial) v (Check.depth_lt_reach v s)
  obtain ⟨c, t, hrun, hsame, _⟩ := hwalk.conform s ⟨cells, List.prefix_refl _, hs⟩
  exact ⟨hsame.trans hrun.symm, c, t, hrun⟩

end

/-! ## Checks without coercions -/

/-- A check that meets no coercion makes a projection of the value: nothing is invented or altered.
Checks of derived specs come to an end, and meet none. -/
theorem Check.conform_projects :
    (∀ {spec : Spec} {v w : Value} {s t : Session}, spec.uncoerced = true →
      ConformMeets Spec.uncoerced spec v s → conform spec v s = some (.valid w, t) → w.Projects v) ∧
    ∀ {t : History}, t.derived.1 = .made → ∀ v, ∃ outcome c,
      t.caller.call 0 (.conform t.opening.specs.length v) = (.conformed outcome, c) ∧
        outcome.Projects v := by
  refine ⟨projects_of_meets, fun {t} hmade v => ?_⟩
  obtain ⟨r, kinds, _, ⟨cells, hintact, hspecs⟩, hkind⟩ := History.intact_made hmade
  obtain ⟨spec, hspec, hstands⟩ := hspecs.of_kind hkind
  obtain ⟨hmeets, outcome, s, hrun⟩ := hstands.meets_uncoerced hintact v
  refine ⟨outcome, ⟨s, t.caller.specs⟩, ?_, ?_⟩
  · simp only [Caller.call, hspec, hrun]
  · rintro w rfl
    exact projects_of_meets hstands.uncoerced hmeets hrun

/-! ## A key asked for twice, and a record in a list -/

namespace Check.Sample

/-- Both keys lead to the first pair of the value; the second pair is dropped. -/
def twice : Spec :=
  .dict (.made 5) [("n", .deferred (.made 3) lazily), ("n", .deferred (.made 4) lazily)] .ignore

def twofold : Value := .object [("n", .null), ("n", .string "one")]

def onefold : Value := .object [("n", .null), ("n", .null)]

theorem conform_twice (n : Nat) :
    twice.conformWith (.accepting Spec.uncoerced (n + 1)) twofold unvisited =
      some (.valid onefold, visited) := rfl

end Check.Sample

def History.points : History where
  name := "shapes"
  config := .default
  before := [.step (.register ⟨"Point", [], [⟨"at", .union [.leaf .int, .nothing]⟩], []⟩)]
  kind := .list (.record "Point" [])
  after := [.step (.register ⟨"Line", [], [⟨"from", .record "Point" []⟩], []⟩)]

open Check Check.Sample in
theorem Check.conform_projects_twice :
    conform twice twofold unvisited = some (.valid onefold, visited) ∧ onefold.Projects twofold ∧
      History.points.derived.1 = .made ∧ ∃ w c,
        History.points.caller.call 0 (.conform History.points.opening.specs.length
          (.list [.object [("more", .null), ("at", .null)]])) = (.conformed (.valid w), c) ∧
        w.Projects (.list [.object [("more", .null), ("at", .null)]]) := by
  have hrun : conform twice twofold unvisited = some (.valid onefold, visited) := rfl
  have hmeets : ConformMeets Spec.uncoerced twice twofold unvisited := (conform_twice _).trans hrun.symm
  have hmade : History.points.derived.1 = .made := by decide +kernel
  have hvalid : (History.points.caller.call 0 (.conform History.points.opening.specs.length
      (.list [.object [("more", .null), ("at", .null)]]))).1 =
        .conformed (.valid (.list [.object [("at", .null)]])) := by
    decide +kernel
  have htwice : twice.uncoerced = true := rfl
  obtain ⟨hany, hderived⟩ := conform_projects
  obtain ⟨outcome, c, hcall, hprojects⟩ :=
    hderived hmade (.list [.object [("more", .null), ("at", .null)]])
  refine ⟨hrun, hany htwice hmeets hrun, hmade, .list [.object [("at", .null)]], c, ?_, ?_⟩
  · rw [hcall] at hvalid ⊢
    rw [show outcome = _ from Answer.conformed.inj hvalid]
  · rw [hcall] at hvalid
    exact hprojects _ (Answer.conformed.inj hvalid)

end Conform

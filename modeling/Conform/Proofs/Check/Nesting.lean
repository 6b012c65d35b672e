import Conform.Proofs.Check.Consistency
import Conform.Proofs.Check.Refuse
import Conform.Proofs.Spec.Nesting
/-!
Checks of nested combinators. A check of the whole tree goes through the leaves as the one of the flat
combinator does; where it explains, it goes through some of them again, and finds them as it left them.
-/

namespace Conform

open Nesting (Splices)
open Check (Replays)

namespace Spec

variable {d : Delegate}

/-! ## Conforming -/

theorem conformThrough_append (ss ts : List Spec) (v : Value) :
    conformThrough d (ss ++ ts) v = (do
      match ← conformThrough d ss v with
      | .valid w => conformThrough d ts w
      | .invalid => return .invalid) := by
  induction ss generalizing v with
  | nil => rfl
  | cons s ss ih =>
    rw [List.cons_append, conformThrough, conformThrough, bind_assoc]
    congr 1
    funext c
    cases c with
    | valid w => exact ih w
    | invalid => rfl

theorem conformFirst_append (ss ts : List Spec) (v : Value) :
    conformFirst d (ss ++ ts) v = (do
      match ← conformFirst d ss v with
      | .valid w => return .valid w
      | .invalid => conformFirst d ts v) := by
  induction ss with
  | nil => rfl
  | cons s ss ih =>
    rw [List.cons_append, conformFirst, conformFirst, bind_assoc]
    congr 1
    funext c
    cases c with
    | valid w => rfl
    | invalid => exact ih

theorem splices_conformThrough :
    Splices allOf fun ss ts => ∀ v, conformThrough d ss v = conformThrough d ts v where
  refl _ _ := rfl
  trans h h' v := (h v).trans (h' v)
  cons s _ _ h v := by
    rw [conformThrough, conformThrough]
    simp only [h]
  splice i ss ts v := by
    rw [conformThrough, conformWith]
    exact (conformThrough_append ss ts v).symm

theorem splices_conformFirst :
    Splices oneOf fun ss ts => ∀ v, conformFirst d ss v = conformFirst d ts v where
  refl _ _ := rfl
  trans h h' v := (h v).trans (h' v)
  cons s _ _ h v := by
    rw [conformFirst, conformFirst]
    simp only [h]
  splice i ss ts v := by
    rw [conformFirst, conformWith]
    exact (conformFirst_append ss ts v).symm

/-! ## Explaining stages -/

section
variable {v w : Value} {s m t : Session} {ss ts : List Spec} {c : Conformed}

theorem explainThrough_append_of_valid (h : conformThrough d ss v s = some (.valid w, m)) (path : Path) :
    explainThrough d (ss ++ ts) path v s = explainThrough d ts path w m := by
  induction ss generalizing v s with
  | nil =>
    rw [conformThrough] at h
    cases h
    rfl
  | cons first ss ih =>
    rw [conformThrough, Check.bind_apply] at h
    obtain ⟨⟨c, u⟩, hfirst, hrest⟩ := Option.bind_eq_some_iff.mp h
    rw [List.cons_append, explainThrough, Check.bind_apply, hfirst]
    cases c with
    | valid v' => exact ih hrest
    | invalid => cases hrest

theorem explainThrough_append_of_invalid (h : conformThrough d ss v s = some (.invalid, m))
    (path : Path) : explainThrough d (ss ++ ts) path v s = explainThrough d ss path v s := by
  induction ss generalizing v s with
  | nil =>
    rw [conformThrough] at h
    cases h
  | cons first ss ih =>
    rw [conformThrough, Check.bind_apply] at h
    obtain ⟨⟨c, u⟩, hfirst, hrest⟩ := Option.bind_eq_some_iff.mp h
    rw [List.cons_append, explainThrough, explainThrough, Check.bind_apply, Check.bind_apply, hfirst]
    cases c with
    | valid v' => exact ih hrest
    | invalid => rfl

end

/-- What is answered with the one delegate is answered with the other one, and again as long as nothing is
lost. -/
def Replayed (d d' : Delegate) : Prop := ∀ s v, InStep Replays d d' s v

theorem replayed_refusing (n : Nat) : Replayed (.refusing (fun _ => true) n) (.within n) :=
  replays_refusing (fun _ => rfl) (Nat.le_refl n)

section
variable {d' : Delegate} {v : Value} {s m : Session} {ss ts : List Spec} {c : Conformed}

theorem Replayed.conformThrough (h : Replayed d d') (ss : List Spec) (v : Value) :
    Replays (conformThrough d ss v) (conformThrough d' ss v) :=
  conformThrough_inStep Check.compositional_replays (fun s _ => h s) v

/-- The stages before the one that fails are passed again, on the way to it. -/
theorem Replayed.explainThrough_again (h : Replayed d d')
    (hrun : Spec.conformThrough d ss v s = some (.invalid, m)) (path : Path) :
    explainThrough d' ss path v m = explainThrough d' ss path v s := by
  induction ss generalizing v s with
  | nil =>
    rw [Spec.conformThrough] at hrun
    cases hrun
  | cons first ss ih =>
    rw [Spec.conformThrough, Check.bind_apply] at hrun
    obtain ⟨⟨c, u⟩, hfirst, hrest⟩ := Option.bind_eq_some_iff.mp hrun
    obtain ⟨hsame, -, hagain⟩ := (h first v).conform s c u hfirst
    rw [explainThrough, Check.bind_apply, Check.bind_apply, hsame]
    cases c with
    | valid w =>
      have hretains : m.Retains u := (h.conformThrough ss w u _ m hrest).2.1
      rw [hagain m hretains]
      exact ih hrest
    | invalid =>
      cases hrest
      rw [hagain _ (.refl _)]

/-- Of the stages that conform alike, without a look that fails, the same one fails and is explained. -/
theorem Replayed.splices_explainThrough (h : Replayed d d') : Splices allOf fun ss ts =>
    (∀ v, Spec.conformThrough d ss v = Spec.conformThrough d ts v) ∧
      ∀ path v s, (Spec.conformThrough d ts v s).isSome = true →
        explainThrough d' ss path v s = explainThrough d' ts path v s where
  refl _ := ⟨fun _ => rfl, fun _ _ _ _ => rfl⟩
  trans h h' := ⟨fun v => (h.1 v).trans (h'.1 v), fun path v s hs =>
    (h.2 path v s (by rwa [h'.1])).trans (h'.2 path v s hs)⟩
  cons first ss ts hrest := by
    refine ⟨splices_conformThrough.cons first hrest.1, fun path v s hs => ?_⟩
    obtain ⟨⟨c, t⟩, hrun⟩ := Option.isSome_iff_exists.mp hs
    rw [Spec.conformThrough, Check.bind_apply] at hrun
    obtain ⟨⟨c', m⟩, hfirst, hrun⟩ := Option.bind_eq_some_iff.mp hrun
    rw [explainThrough, explainThrough, Check.bind_apply, Check.bind_apply, ((h first v).conform s c' m hfirst).1]
    cases c' with
    | valid w => exact hrest.2 path w m (Option.isSome_iff_exists.mpr ⟨_, hrun⟩)
    | invalid => rfl
  splice i ss ts := by
    refine ⟨splices_conformThrough.splice i ss ts, fun path v s hs => ?_⟩
    obtain ⟨⟨c, t⟩, hrun⟩ := Option.isSome_iff_exists.mp hs
    rw [conformThrough_append, Check.bind_apply] at hrun
    obtain ⟨⟨c', m⟩, hfirst, hrun⟩ := Option.bind_eq_some_iff.mp hrun
    have hsame := (h.conformThrough ss v s c' m hfirst).1
    rw [explainThrough, conformWith, Check.bind_apply, hsame]
    cases c' with
    | valid w => exact (explainThrough_append_of_valid hsame path).symm
    | invalid =>
      calc explainWith d' (allOf i ss) path v m
          = explainThrough d' ss path v m := by rw [explainWith]
        _ = explainThrough d' ss path v s := h.explainThrough_again hfirst path
        _ = explainThrough d' (ss ++ ts) path v s :=
          (explainThrough_append_of_invalid hsame path).symm

end

/-! ## Explaining alternatives -/

theorem explainEach_parts_append (ss ts : List Spec) (path : Path) (v : Value) :
    explainEach d (ss ++ ts) path v = (do
      let problems ← explainEach d ss path v
      return problems ++ (← explainEach d ts path v)) := by
  induction ss with
  | nil =>
    rw [explainEach, pure_bind]
    exact (bind_pure (explainEach d ts path v)).symm
  | cons first ss ih =>
    rw [List.cons_append, explainEach, explainEach, ih]
    simp only [bind_assoc, pure_bind, List.append_assoc]

/-- None of the alternatives holds, in any session that has lost nothing. -/
def Dismissed (d : Delegate) (ss : List Spec) (v : Value) (s : Session) : Prop :=
  ∀ spec ∈ ss, ∀ t, t.Retains s → conformWith d spec v t = some (.invalid, t)

section
variable {d' : Delegate} {v : Value} {s t : Session} {ss ts : List Spec}

theorem Dismissed.retains (h : Dismissed d ss v s) (ht : t.Retains s) : Dismissed d ss v t :=
  fun spec hspec u hu => h spec hspec u (ht.trans hu)

theorem Dismissed.conformFirst (h : Dismissed d ss v s) : conformFirst d ss v s = some (.invalid, s) := by
  induction ss with
  | nil => rfl
  | cons first ss ih =>
    obtain ⟨hfirst, hrest⟩ := List.forall_mem_cons.mp h
    rw [Spec.conformFirst, Check.bind_apply, hfirst s (.refl s)]
    exact ih hrest

theorem Replayed.conformFirst (h : Replayed d d') (ss : List Spec) (v : Value) :
    Replays (Spec.conformFirst d ss v) (Spec.conformFirst d' ss v) :=
  conformFirst_inStep Check.compositional_replays fun s _ => h s v

/-- All alternatives are gone through before a value is invalid. -/
theorem Replayed.dismissed (h : Replayed d d') (hrun : Spec.conformFirst d ss v s = some (.invalid, t)) :
    Dismissed d' ss v t := by
  induction ss generalizing s with
  | nil => nofun
  | cons first ss ih =>
    rw [Spec.conformFirst, Check.bind_apply] at hrun
    obtain ⟨⟨c, m⟩, hfirst, hrest⟩ := Option.bind_eq_some_iff.mp hrun
    cases c with
    | valid w => cases hrest
    | invalid =>
      have ht : t.Retains m := (h.conformFirst ss v m _ t hrest).2.1
      exact List.forall_mem_cons.mpr
        ⟨fun u hu => ((h first v).conform s _ m hfirst).2.2 u (ht.trans hu), ih hrest⟩

/-- Where none of the alternatives holds, those of a nested one are explained in its place. -/
theorem splices_explainEach
    (hretains : ∀ {spec path v s problems t}, explainWith d spec path v s = some (problems, t) → t.Retains s)
    (v : Value) : Splices oneOf fun ss ts => ∀ s, Dismissed d ts v s →
      Dismissed d ss v s ∧ ∀ path, explainEach d ss path v s = explainEach d ts path v s where
  refl _ _ h := ⟨h, fun _ => rfl⟩
  trans h h' s hs :=
    have ⟨hts, hexplain⟩ := h' s hs
    ⟨(h s hts).1, fun path => ((h s hts).2 path).trans (hexplain path)⟩
  cons first ss ts hrest s hs := by
    obtain ⟨hfirst, hts⟩ := List.forall_mem_cons.mp hs
    refine ⟨List.forall_mem_cons.mpr ⟨hfirst, (hrest s hts).1⟩, fun path => ?_⟩
    rw [explainEach, explainEach, Check.bind_apply, Check.bind_apply]
    cases hrun : explainWith d first path v s with
    | none => rfl
    | some p =>
      have hmore := (hrest p.2 (Dismissed.retains hts (hretains hrun))).2 path
      simp only [Option.bind_some, Check.bind_apply, hmore]
  splice i ss ts s hs := by
    obtain ⟨hss, hts⟩ := List.forall_mem_append.mp hs
    have hnested : ∀ t, t.Retains s → conformFirst d ss v t = some (.invalid, t) := fun t ht =>
      (Dismissed.retains hss ht).conformFirst
    refine ⟨List.forall_mem_cons.mpr ⟨fun t ht => ?_, hts⟩, fun path => ?_⟩
    · rw [conformWith]
      exact hnested t ht
    · have hexplain : explainWith d (oneOf i ss) path v s = explainEach d ss path v s := by
        rw [explainWith, Check.bind_apply, hnested s (.refl s)]
        rfl
      rw [explainEach, explainEach_parts_append, Check.bind_apply, Check.bind_apply, hexplain]

end

end Spec

namespace Check

/-! ## Nested combinators -/

/-- Checks of the two specs are one, and find the same problems. -/
structure Interchangeable (spec spec' : Spec) : Prop where
  meaning (refs : Instance → Reference → Meaning) : spec.meaning refs = spec'.meaning refs
  conform (v : Value) (s : Session) : conform spec v s = conform spec' v s
  explain (path : Path) (v : Value) (s : Session) :
    ConformResolves spec' v s → explain spec path v s = explain spec' path v s

theorem interchangeable_allOf (i j : Instance) (parts : List Nesting) :
    Interchangeable (.allOf i (Nesting.specs .allOf parts)) (.allOf j (Nesting.allLeaves parts)) where
  meaning refs := by
    rw [Spec.meaning, Spec.meaning]
    exact Nesting.flat (Spec.splices_allOf refs) parts
  conform v s := by
    rw [Check.conform, Check.conform, Spec.conformWith, Spec.conformWith,
      Nesting.flat Spec.splices_conformThrough parts v]
  explain path v s h := by
    rw [ConformResolves, conformRefusing, Spec.conformWith] at h
    rw [Check.explain, Check.explain, Spec.explainWith, Spec.explainWith]
    exact (Nesting.flat (Spec.replayed_refusing _).splices_explainThrough parts).2 path v s h

theorem interchangeable_oneOf (i j : Instance) (parts : List Nesting) :
    Interchangeable (.oneOf i (Nesting.specs .oneOf parts)) (.oneOf j (Nesting.allLeaves parts)) where
  meaning refs := by
    rw [Spec.meaning, Spec.meaning]
    exact Nesting.flat (Spec.splices_oneOf refs) parts
  conform v s := by
    rw [Check.conform, Check.conform, Spec.conformWith, Spec.conformWith,
      Nesting.flat Spec.splices_conformFirst parts v]
  explain path v s h := by
    have hreplayed := Spec.replayed_refusing (reach v s)
    have hretains : ∀ {spec path w s' problems t},
        Spec.explainWith (.within (reach v s)) spec path w s' = some (problems, t) → t.Retains s' :=
      fun {spec path w s' problems t} hrun =>
        ((Spec.advancing_within _ spec w).explain path s' problems t hrun).retains
    rw [ConformResolves, conformRefusing, Spec.conformWith] at h
    obtain ⟨⟨c, t⟩, hrun⟩ := Option.isSome_iff_exists.mp h
    rw [Check.explain, Check.explain, Spec.explainWith, Spec.explainWith,
      Nesting.flat Spec.splices_conformFirst parts v, bind_apply, bind_apply,
      (hreplayed.conformFirst _ v s c t hrun).1]
    cases c with
    | valid w => rfl
    | invalid =>
      exact (Nesting.flat (Spec.splices_explainEach hretains v) parts t (hreplayed.dismissed hrun)).2 path

/-- A combinator that is nested in itself, in any shape, conforms and explains as the flat one over the leaves.
They conform in one way from any session; they find the same problems in any session from which no look
behind a lazy reference fails while the value is conformed; and calls that find the same behind lazy
references answer the same, though they are made in different sessions. -/
theorem nesting_associative : ∀ combine ∈ [Spec.allOf, Spec.oneOf], ∀ (i j : Instance)
    (parts : List Nesting) (nested flat : Spec), nested = (Nesting.node i parts).spec combine →
    flat = combine j (Nesting.node i parts).leaves →
      (∀ v s, conform nested v s = conform flat v s) ∧
      (∀ path v s, ConformResolves flat v s → explain nested path v s = explain flat path v s) ∧
      (∀ f v s s' c c' t t', conform nested v s = some (c, t) → ConformFinds f nested v s →
        conform flat v s' = some (c', t') → ConformFinds f flat v s' → c = c') ∧
      ∀ f path v s s' problems problems' t t', explain nested path v s = some (problems, t) →
        ExplainFinds f nested path v s → explain flat path v s' = some (problems', t') →
          ExplainFinds f flat path v s' → problems = problems' := by
  rintro combine hcombine i j parts _ _ rfl rfl
  have hflat : Interchangeable ((Nesting.node i parts).spec combine)
      (combine j (Nesting.node i parts).leaves) := by
    rw [Nesting.spec, Nesting.leaves]
    rcases List.mem_cons.mp hcombine with rfl | hcombine
    · exact interchangeable_allOf i j parts
    · obtain rfl := List.mem_singleton.mp hcombine
      exact interchangeable_oneOf i j parts
  refine ⟨hflat.conform, hflat.explain, ?_, ?_⟩
  · intro f v s s' c c' t t' hrun hs hrun' hs'
    exact conform_eq_of_meaning_eq hflat.meaning hrun hs hrun' hs'
  · intro f path v s s' problems problems' t t' hrun hs hrun' hs'
    exact explain_eq_of_meaning_eq hflat.meaning hrun hs hrun' hs'

namespace Sample

open Spec

/-- A node without parts, a stage that wraps the value, the spec in a node of its own, and another stage. -/
def stages (s : Spec) : Nesting :=
  .node (.made 9) [
    .node (.made 8) [],
    .node (.made 7) [
      .leaf (.coerce (.made 6) ⟨"wrap", fun v => .ok (.list [v])⟩ (.anything (.made 5)) none),
      .node (.made 10) [.leaf s]],
    .leaf (.anything (.made 11))]

def flat (s : Spec) : Spec := .allOf (.made 12) (stages s).leaves

/-- The stages stop at the spec if it rejects the wrapped value, and it explains why. -/
theorem explain_stages {d : Delegate} {s : Spec} {u t : Session} {problems : List Problem}
    (hfirst : conformWith d s (.list [text]) u = some (.invalid, t))
    (hagain : conformWith d s (.list [text]) t = some (.invalid, t))
    (hexplain : explainWith d s .root (.list [text]) t = some (problems, t)) :
    explainWith d ((stages s).spec .allOf) .root text u = some (problems, t) ∧
      explainWith d (flat s) .root text u = some (problems, t) := by
  have hpure : ∀ {α : Type} (a : α) (u : Session), (pure a : Check α) u = some (a, u) := fun _ _ => rfl
  constructor
  · simp only [stages, Nesting.spec, Nesting.specs, explainWith, explainThrough, conformWith,
      conformThrough, Coercer.apply, Except.mapError, bind_apply, hpure, Option.bind_some, hfirst,
      hagain, hexplain]
  · simp only [flat, stages, Nesting.leaves, Nesting.allLeaves, List.nil_append, List.append_nil,
      List.cons_append, explainWith, explainThrough, conformWith, Coercer.apply, Except.mapError,
      bind_apply, hpure, Option.bind_some, hfirst, hexplain]

def behind : Spec := .deferred (.made 3) lazily

/-- What is wrong with a list that should be a number or null. -/
def mismatch : List Problem :=
  [⟨.root, .list [text], .isInstance (.made 0) .int, isInstanceReason .int (.list [text])⟩,
    ⟨.root, .list [text], .isInstance (.made 1) .null, isInstanceReason .null (.list [text])⟩]

theorem explain_behind {d d' : Delegate} {u : Session}
    (hfirst : d.resolve lazily u = some (.ok numberOrNull, visited))
    (hagain : d.resolve lazily visited = some (.ok numberOrNull, visited))
    (hconform : d.conform = fun s v => conformWith d' s v)
    (hexplain : d.explain = fun s path v => explainWith d' s path v) :
    explainWith d ((stages behind).spec .allOf) .root text u = some (mismatch, visited) ∧
      explainWith d (flat behind) .root text u = some (mismatch, visited) := by
  apply explain_stages
  · rw [behind, conformWith, bind_apply, hfirst, hconform]
    rfl
  · rw [behind, conformWith, bind_apply, hagain, hconform]
    rfl
  · rw [behind, explainWith, bind_apply, hagain, hexplain]
    rfl

theorem explain_stages_found (n : Nat) {u : Session} (hu : u = unvisited ∨ u = visited) :
    (explainWith (.within (n + 1)) ((stages behind).spec .allOf) .root text u = some (mismatch, visited) ∧
      explainWith (.within (n + 1)) (flat behind) .root text u = some (mismatch, visited)) ∧
    explainWith (.foreseeing (fun _ => .ok numberOrNull) (n + 1)) ((stages behind).spec .allOf) .root text u =
        some (mismatch, visited) ∧
      explainWith (.foreseeing (fun _ => .ok numberOrNull) (n + 1)) (flat behind) .root text u =
        some (mismatch, visited) := by
  have hforeseen : ∀ {s}, ((Session.resolve lazily).run s).1 = .ok numberOrNull →
      Session.resolveAs (fun _ => .ok numberOrNull) lazily s = Session.resolveInCheck lazily s :=
    fun h => if_pos h
  rcases hu with rfl | rfl
  · exact ⟨explain_behind rfl rfl rfl rfl, explain_behind (hforeseen rfl) (hforeseen rfl) rfl rfl⟩
  · exact ⟨explain_behind rfl rfl rfl rfl, explain_behind (hforeseen rfl) (hforeseen rfl) rfl rfl⟩

end Sample

open Sample in
/-- The stage behind a reference rejects what the stage before it makes of the value, in a session where the
reference was never looked up and in one where it was. -/
theorem nesting_associative_lazily :
    (ConformResolves (flat behind) text unvisited ∧
      explain ((stages behind).spec .allOf) .root text unvisited =
        explain (flat behind) .root text unvisited) ∧
    ∃ problems problems' t t',
      explain ((stages behind).spec .allOf) .root text unvisited = some (problems, t) ∧
        explain (flat behind) .root text visited = some (problems', t') ∧ problems = problems' ∧
          problems ≠ [] := by
  have hresolves : ConformResolves (flat behind) text unvisited := rfl
  obtain ⟨⟨hnested, -⟩, hnestedForeseen, -⟩ := explain_stages_found _ (.inl rfl)
  obtain ⟨⟨-, hflat⟩, -, hflatForeseen⟩ := explain_stages_found _ (.inr rfl)
  obtain ⟨-, hsame, -, hforeseen⟩ := nesting_associative .allOf List.mem_cons_self (.made 9) (.made 12) _
    ((stages behind).spec .allOf) (flat behind) rfl rfl
  refine ⟨⟨hresolves, hsame _ _ _ hresolves⟩, mismatch, mismatch, visited, visited, hnested, hflat, ?_,
    List.cons_ne_nil _ _⟩
  exact hforeseen (fun _ => .ok numberOrNull) .root text unvisited visited mismatch mismatch visited visited
    hnested (hnestedForeseen.trans hnested.symm) hflat (hflatForeseen.trans hflat.symm)

end Check

end Conform

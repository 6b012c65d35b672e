import Conform.Proofs.Session.Calls
import Conform.Proofs.Session.Construct
import Conform.Proofs.Session.Matching
/-!
What callers are told of a value. Every question about a value and a spec goes with one outcome: the
one that the spec means. So whichever questions are asked of it, when and in which order, the answers
agree, for all specs that callers can have by deriving them and by putting them together.
-/

namespace Conform

open Check (Ensures)

/-! ## Answers that go with an outcome -/

namespace Check

section
variable {α : Type} {stuck : Prop} {I : Session → Prop} {spec : Spec} {v : Value} {s : Session}

/-- The answer is as it should be; whether there may be none is what `stuck` says. -/
def Yields (stuck : Prop) (x : Check α) (s : Session) (R : α → Prop) : Prop :=
  match x s with
  | some (a, _) => R a
  | none => stuck

theorem Ensures.yields {x : Check α} {R : α → Prop} (hx : Ensures stuck I x R) (hs : I s) :
    Yields stuck x s R := by
  have h := hx s hs
  unfold Yields
  cases hrun : x s with
  | none =>
    rw [hrun] at h
    exact h
  | some p =>
    rw [hrun] at h
    exact h.1

/-- The session is as it should be also if there is no answer: it is left as it was. -/
theorem Ensures.leaves {x : Check α} {R : α → Prop} (hx : Ensures stuck I x R) (hs : I s) :
    I (((x s).map Prod.snd).getD s) := by
  have h := hx s hs
  cases hrun : x s with
  | none => exact hs
  | some p =>
    rw [hrun] at h
    exact h.2

/-- What an assertion should answer: the conformed value, or else what is wrong with this value. -/
def Asserted (v : Value) (outcome : Conformed) : Except Violation Value → Prop
  | .ok w => outcome = .valid w
  | .error violation =>
    outcome = .invalid ∧ violation.value = v ∧ violation.explanation.problems ≠ []

/-- In the session every question about the value goes with the outcome. -/
structure Agree (stuck : Prop) (spec : Spec) (v : Value) (outcome : Conformed) (s : Session) :
    Prop where
  conform : Yields stuck (conform spec v) s (· = outcome)
  isValid : Yields stuck (isValid spec v) s (· = outcome.isValid)
  isInvalid : Yields stuck (isInvalid spec v) s (· = !outcome.isValid)
  explain : ∀ path, Yields stuck (explain spec path v) s (· = [] ↔ outcome.isValid = true)
  explainData : ∀ path, Yields stuck (explainData spec path v) s (· = none ↔ outcome.isValid = true)
  assertSpec : Yields stuck (assertSpec spec v) s (Asserted v outcome)

variable {m : Meaning}

theorem conform_ensures
    (hwalk : ∀ t, Spec.Implements stuck I (.within (reach v t)) Problem.report spec m v) :
    Ensures stuck I (conform spec v) (· = m.conform v) :=
  fun t ht => (hwalk t).conform t ht

theorem explain_ensures (hm : m.Lawful)
    (hwalk : ∀ t, Spec.Implements stuck I (.within (reach v t)) Problem.report spec m v)
    (path : Path) :
    Ensures stuck I (explain spec path v) (· = [] ↔ (m.conform v).isValid = true) := by
  intro t ht
  refine ((hwalk t).explain path).mono (fun problems hproblems => ?_) t ht
  rw [← hm path v, ← List.map_eq_nil_iff, hproblems, List.map_eq_nil_iff]

/-- If the walks of a spec do what is meant and that is lawful, all questions go with its outcome. -/
theorem agree (hm : m.Lawful)
    (hwalk : ∀ t, Spec.Implements stuck I (.within (reach v t)) Problem.report spec m v) (hs : I s) :
    Agree stuck spec v (m.conform v) s where
  conform := (conform_ensures hwalk).yields hs
  isValid := by
    refine Ensures.yields ((conform_ensures hwalk).bind fun c hc => ?_) hs
    exact Ensures.pure (congrArg Conformed.isValid hc)
  isInvalid := by
    refine Ensures.yields ((conform_ensures hwalk).bind fun c hc => ?_) hs
    exact Ensures.pure (congrArg Conformed.isInvalid hc)
  explain path := (explain_ensures hm hwalk path).yields hs
  explainData path := by
    refine Ensures.yields ((explain_ensures hm hwalk path).bind fun problems hproblems => ?_) hs
    refine Ensures.pure (Iff.trans ?_ hproblems)
    cases problems <;> simp
  assertSpec := by
    refine Ensures.yields ((conform_ensures hwalk).bind fun c hc => ?_) hs
    cases c with
    | valid w => exact Ensures.pure hc.symm
    | invalid =>
      refine (explain_ensures hm hwalk .root).bind fun problems hproblems => ?_
      refine Ensures.pure ⟨hc.symm, rfl, fun hnil => ?_⟩
      rw [hproblems, ← hc] at hnil
      cases hnil

end

end Check

/-! ## Callers with sure specs -/

namespace Caller

/-- A step of a caller that keeps only specs put together of those it has, or made of kinds that
resolve and have no empty unions. Whatever else it calls for, it lets go. -/
inductive Moves (r : Registry) : Caller → Caller → Prop
  | construct (c : Caller) {x : Build Spec} : Build.Constructs c.specs x →
    Moves r c (c.keep (x.run c.session)).2
  | specFor (c : Caller) {k : Kind} : k.Resolves 0 r → k.HasAlternatives r →
    Moves r c (c.call 0 (.specFor k)).2
  | aside (c : Caller) (x : Call) : Moves r c ⟨(c.call 0 x).2.session, c.specs⟩

/-- The session is sound, and every spec that was kept is sure. -/
structure Sure (r : Registry) (cells : List Target) (c : Caller) : Prop where
  sound : Session.Sound 0 r r.BuiltinUnregistered cells c.session
  specs : ∀ spec ∈ c.specs, spec.Sure (Reference.Sure 0 r cells)

section
variable {r : Registry} {cells : List Target} {c c' : Caller}

theorem sure_of (r : Registry) : Sure r [] (.of r) where
  sound := Session.sound_holding r _
  specs _ hspec := absurd hspec List.not_mem_nil

theorem Sure.keep (h : c.Sure r cells) {cells' : List Target} (hcells : cells <+: cells')
    {made : Except SpecError Spec × Session}
    (hsound : Session.Sound 0 r r.BuiltinUnregistered cells' made.2)
    (hspec : ∀ spec, made.1 = .ok spec → spec.Sure (Reference.Sure 0 r cells')) :
    (c.keep made).2.Sure r cells' := by
  have hspecs : ∀ spec ∈ c.specs, spec.Sure (Reference.Sure 0 r cells') :=
    fun spec hmem => (h.specs spec hmem).mono hcells
  rcases made with ⟨e | spec, s⟩
  · exact ⟨hsound, hspecs⟩
  · refine ⟨hsound, fun other hmem => ?_⟩
    rcases List.mem_append.mp hmem with hold | hnew
    · exact hspecs other hold
    · obtain rfl := List.mem_singleton.mp hnew
      exact hspec other rfl

theorem session_conform {id i : Nat} {spec : Spec} (hspec : c.specs[i]? = some spec) (v : Value) :
    (c.call id (.conform i v)).2.session =
      ((Check.conform spec v c.session).map Prod.snd).getD c.session := by
  simp only [Caller.call, hspec]
  cases Check.conform spec v c.session <;> rfl

theorem session_explain {id i : Nat} {spec : Spec} (hspec : c.specs[i]? = some spec) (path : Path)
    (v : Value) :
    (c.call id (.explain i path v)).2.session =
      ((Check.explain spec path v c.session).map Prod.snd).getD c.session := by
  simp only [Caller.call, hspec]
  cases Check.explain spec path v c.session <;> rfl

/-- Every call leaves the session sound. -/
theorem Sure.call (h : c.Sure r cells) (x : Call) :
    Session.SoundOver 0 r r.BuiltinUnregistered cells (c.call 0 x).2.session := by
  have hover : Session.SoundOver 0 r r.BuiltinUnregistered cells c.session :=
    ⟨cells, List.prefix_refl _, h.sound⟩
  have hspecFor : ∀ k, Session.SoundOver 0 r r.BuiltinUnregistered cells
      (c.call 0 (.specFor k)).2.session := by
    intro k
    obtain ⟨cells', hmade⟩ := Session.specFor_follows k cells c.session cells (c.session.kept 0)
      (List.prefix_refl _) h.sound (Session.tallies_kept _) fun _ _ => trivial
    refine ⟨cells', hmade.cells, ?_⟩
    rw [call_specFor, keep_session]
    exact hmade.sound
  cases x with
  | derive name args => exact hspecFor (.record name args)
  | specFor k => exact hspecFor k
  | conform i v =>
    cases hspec : c.specs[i]? with
    | none =>
      simp only [Caller.call, hspec]
      exact hover
    | some spec =>
      have hspec' := h.specs spec (List.mem_of_getElem? hspec)
      rw [session_conform hspec]
      exact (Check.conform_ensures (hspec'.implements v fun _ => trivial)).leaves hover
  | explain i path v =>
    cases hspec : c.specs[i]? with
    | none =>
      simp only [Caller.call, hspec]
      exact hover
    | some spec =>
      have hspec' := h.specs spec (List.mem_of_getElem? hspec)
      rw [session_explain hspec]
      exact (Check.explain_ensures (hspec'.lawful r 0) (hspec'.implements v fun _ => trivial)
        path).leaves hover

theorem Sure.moves (h : c.Sure r cells) (hmoves : Moves r c c') :
    ∃ cells', cells <+: cells' ∧ c'.Sure r cells' := by
  cases hmoves with
  | construct hconstructs =>
    have hmade := hconstructs.keeps h.specs c.session h.sound
    exact ⟨cells, List.prefix_refl _, h.keep (List.prefix_refl _) hmade.1 hmade.2⟩
  | specFor hresolves halternatives =>
    obtain ⟨spec, s, cells', hrun, hcells, hsound, hspec, _⟩ :=
      Kind.Resolves.specFor_ok hresolves halternatives h.sound
    refine ⟨cells', hcells, ?_⟩
    rw [call_specFor, hrun]
    refine h.keep hcells hsound fun _ hmade => ?_
    cases hmade
    exact hspec
  | aside x =>
    obtain ⟨cells', hcells, hsound⟩ := h.call x
    exact ⟨cells', hcells, hsound, fun spec hmem => (h.specs spec hmem).mono hcells⟩

theorem Sure.reaches (h : c.Sure r cells) (hreaches : Relation.ReflTransGen (Moves r) c c') :
    ∃ cells', cells <+: cells' ∧ c'.Sure r cells' := by
  induction hreaches with
  | refl => exact ⟨cells, List.prefix_refl _, h⟩
  | tail _ hmoves ih =>
    obtain ⟨between, hbetween, hsure⟩ := ih
    obtain ⟨cells', hcells, hsure'⟩ := hsure.moves hmoves
    exact ⟨cells', hbetween.trans hcells, hsure'⟩

end

/-- Every spec that a caller can have puts each value to one outcome, and from then on all questions
about that value go with it; they may only be left unanswered if some coercion in the spec makes
values too deep. A spec can be had of every kind that resolves without empty unions, and there is no
coercion in it. -/
theorem agree_of_moves {r : Registry} {c : Caller}
    (hc : Relation.ReflTransGen (Moves r) (.of r) c) :
    (∀ spec ∈ c.specs, ∀ v, ∃ outcome, ∀ c', Relation.ReflTransGen (Moves r) c c' →
      Check.Agree (¬ spec.RisesTo Check.coercionAllowance) spec v outcome c'.session) ∧
    ∀ k : Kind, k.Resolves 0 r → k.HasAlternatives r → ∃ spec s,
      (Session.specFor 0 k).run c.session = (.ok spec, s) ∧ ∀ n, spec.RisesTo n := by
  obtain ⟨cells, _, hsure⟩ := (sure_of r).reaches hc
  refine ⟨fun spec hspec v => ⟨(spec.meaning (r.sureRefs 0)).conform v, fun c' hc' => ?_⟩, ?_⟩
  · obtain ⟨cells', hcells, hsure'⟩ := hsure.reaches hc'
    have hmean := hsure.specs spec hspec
    exact Check.agree (hmean.lawful r 0) (hmean.implements v fun h => h)
      ⟨cells', hcells, hsure'.sound⟩
  · intro k hresolves halternatives
    obtain ⟨spec, s, _, hrun, _, _, _, hrises⟩ :=
      Kind.Resolves.specFor_ok hresolves halternatives hsure.sound
    exact ⟨spec, s, hrun, hrises⟩

/-- A caller that has the spec of a node of numbers, and then that of such a node or null. -/
def withNodes : Caller :=
  let c := ((Caller.of .chain).call 0 (.specFor (.record "Node" [.leaf .int]))).2
  (c.keep ((Build.oneOf (.kind .null :: c.specs.map .spec)).run c.session)).2

theorem resolves_node : (Kind.record "Node" [.leaf .int]).Resolves 0 .chain :=
  Kind.WellFormed.resolves Registry.wellFormed_chain (by decide +kernel)

theorem hasAlternatives_node : (Kind.record "Node" [.leaf .int]).HasAlternatives .chain :=
  Kind.hasAlternatives_of_throughout (by decide +kernel) (by decide +kernel)

theorem moves_withNodes : Relation.ReflTransGen (Moves .chain) (.of .chain) withNodes := by
  refine .tail (.single (.specFor _ resolves_node hasAlternatives_node)) (.construct _ (.oneOf ?_ ?_))
  · exact List.cons_ne_nil _ _
  · refine List.forall_mem_cons.mpr ⟨trivial, fun part hpart => ?_⟩
    obtain ⟨spec, hspec, rfl⟩ := List.mem_map.mp hpart
    exact hspec

theorem agree_of_moves_withNodes :
    Relation.ReflTransGen (Moves .chain) (.of .chain) withNodes ∧
      (withNodes.call 0 (.conform 1 (.object []))).1 = .conformed .invalid ∧
      ∃ spec, withNodes.specs[1]? = some spec ∧ spec.RisesTo Check.coercionAllowance ∧ ∃ outcome,
        Check.Agree (¬ spec.RisesTo Check.coercionAllowance) spec (.object []) outcome
          withNodes.session := by
  obtain ⟨node, s, hrun, hrises⟩ :=
    (agree_of_moves .refl).2 (.record "Node" [.leaf .int]) resolves_node hasAlternatives_node
  have hspecs : withNodes.specs = [node,
      .oneOf (.made (s.nextSerial + 1)) [.isInstance (.made s.nextSerial) .null, node]] := by
    unfold withNodes
    rw [call_specFor, hrun]
    rfl
  have hspec : withNodes.specs[1]? = some _ := congrArg (·[1]?) hspecs
  obtain ⟨outcome, hagree⟩ :=
    (agree_of_moves moves_withNodes).1 _ (List.mem_of_getElem? hspec) (.object [])
  refine ⟨moves_withNodes, by decide +kernel, _, hspec, ?_, outcome, hagree _ .refl⟩
  rw [Spec.RisesTo]
  exact ⟨trivial, hrises _, trivial⟩

/-- A union of nothing takes no value and has no problem with any. -/
theorem oneOf_nil_disagrees : ∃ spec s,
    (Build.oneOf []).run (.holding ⟨"shapes", .default, []⟩) = (.ok spec, s) ∧
      Check.isValid spec .null s = some (false, s) ∧
      Check.explainData spec .root .null s = some (none, s) ∧
      Check.assertSpec spec .null s = some (.error ⟨.null, ⟨[]⟩⟩, s) :=
  ⟨_, _, rfl, rfl, rfl, rfl⟩

end Caller

end Conform

import Conform.Proofs.Registry.Translation
import Conform.Proofs.Session.Matching
/-!
Derivations from two registries. What is handed out for a well-formed kind does what the kind means. So
where the registries refuse the same, and a shape means the same in both, nobody can tell their specs
apart.
-/

namespace Conform

namespace Registry

theorem undeclared_map (g : Kind → Kind) (fields : List Field) :
    undeclared (fields.map (Field.map g)) = undeclared fields := by
  funext pairs
  have hany : ∀ key : String, (fields.map (Field.map g)).any (fun f => decide (f.name = key)) =
      fields.any fun f => decide (f.name = key) := fun _ => List.any_map
  unfold undeclared
  simp only [hany]

theorem applied_of_not_takes {r : Registry} {name : String} {args : List Kind} (h : ¬ r.Takes name args.length) :
    ∃ e, r.applied (name, args) = .error e := by
  cases happlied : r.applied (name, args) with
  | error e => exact ⟨e, rfl⟩
  | ok shape => exact absurd (takes_of_applied happlied) h

end Registry

section
variable {r : Registry} {Q : Target → Prop} {kinds : List Kind} {c : Caller}

/-- A shape that cannot be had under the arguments is refused, whatever was derived before. -/
theorem Caller.Sound.derive_refused (hc : c.Sound 0 r Q kinds) (hQ : Closed 0 r Q) {a : Applied}
    {e : SpecError} (ha : r.applied a = .error e) :
    ∃ c', c.call 0 (.derive a.1 a.2) = (.refused e, c') := by
  have hkept : a ∉ c.session.kept 0 := by
    intro hmem
    obtain ⟨cells, hsound, _⟩ := hc
    obtain ⟨spec, hspec⟩ := Option.isSome_iff_exists.mp ((Session.mem_kept _ 0 a).mp hmem)
    cases hsound.memo hspec with
    | mk _ hfields =>
      obtain ⟨shape, hshape, _⟩ := Registry.bind_eq_ok.mp hfields
      cases hshape.symm.trans ha
  have hattempt : (Registry.attemptAll (r.start r.config.memoize) (Kind.record a.1 a.2).records
      (c.session.kept 0)).1 = .error e := by
    have hunfit : r.attempt r.config.memoize r.shapes.length [] a (c.session.kept 0) =
        (.error e, c.session.kept 0) :=
      Registry.attempt_unfit (fun h => hkept h.2) List.not_mem_nil ha
    have hall := Registry.attemptAll_singleton (r.start r.config.memoize) a
    change (Registry.attemptAll (r.start r.config.memoize) [a] _).1 = _
    rw [hall]
    exact congrArg Prod.fst hunfit
  rcases hc.specFor (k := .record a.1 a.2) (hQ.attemptAll _ fun _ h => hc.kept h) with
    ⟨hok, _⟩ | ⟨e', he', c', hcall, _⟩
  · cases hattempt.symm.trans hok
  · cases hattempt.symm.trans he'
    exact ⟨c', hcall⟩

/-- The spec of a well-formed kind can be had at any time, and from then on it does what the kind
means. -/
theorem Caller.Sound.specFor_means (hr : r.WellFormed)
    (hc : c.Sound 0 r r.BuiltinUnregistered kinds) {k : Kind} (hk : k.WellFormed r) :
    ∃ c', c.call 0 (.specFor k) = (.made, c') ∧ ∀ after : List Call,
      (∀ v, ((c'.run 0 after).2.call 0 (.conform c.specs.length v)).1 =
        .conformed ((k.meaning 0 (r.refs 0 (v.depth + 1))).conform v)) ∧
      ∀ path v, ((c'.run 0 after).2.call 0 (.explain c.specs.length path v)).1 =
        .explained (((k.meaning 0 (r.refs 0 (v.depth + 1))).explain path v).map Problem.report) := by
  have hS : Settled 0 r r.BuiltinUnregistered (Target.WellFormed r) := hr.settled
  rcases hc.specFor (k := k) fun _ _ => trivial with ⟨_, c', hcall, hc'⟩ | ⟨e, herror, _⟩
  · refine ⟨c', hcall, fun after => ?_⟩
    obtain ⟨more, hafter⟩ := hc'.run hS.toClosed after
    have hkind := hc.kind_of_next k more
    have hwalk : ∀ {j s cells n v}, (kinds ++ [k] ++ more)[c.specs.length]? = some j →
        Stands 0 r r.BuiltinUnregistered cells j s → v.depth < n →
        Spec.Implements False (Session.SoundOver 0 r r.BuiltinUnregistered cells) (.within n)
          Problem.report s (j.meaning 0 (r.refs 0 (v.depth + 1))) v := by
      intro j s cells n v hj hstands hv
      cases hkind.symm.trans hj
      exact hstands.implements_meaning hS hk.targets hv (Nat.lt_succ_self _)
    constructor
    · intro v
      rcases hafter.conform c.specs.length v fun hj hstands hv => (hwalk hj hstands hv).conform with
        ⟨hnone, _⟩ | ⟨j, outcome, c'', hj, hconform, rfl, _⟩
      · cases hkind.symm.trans hnone
      · cases hkind.symm.trans hj
        rw [hconform]
    · intro path v
      rcases hafter.explain c.specs.length path v fun hj hstands hv =>
          (hwalk hj hstands hv).explain path with
        ⟨hnone, _⟩ | ⟨j, problems, c'', hj, hexplain, hproblems, _⟩
      · cases hkind.symm.trans hnone
      · cases hkind.symm.trans hj
        rw [hexplain, hproblems]
  · cases (hr.attemptAll_ok hk _ _).symm.trans herror

end

/-- Registries that refuse the same, and in which a shape means the same, answer alike to its derivation,
and the specs that they hand out have the same outcomes and the same reports, whatever either of them
is asked for before and after. -/
theorem Caller.derive_eq_of_meaning_eq {r r' : Registry} (hr : r.WellFormed) (hr' : r'.WellFormed)
    {name : String} {args : List Kind} (hargs : ∀ k ∈ args, k.WellFormed r)
    (hargs' : ∀ k ∈ args, k.WellFormed r')
    (htakes : r'.Takes name args.length ↔ r.Takes name args.length)
    (happlied : ∀ {e}, r.applied (name, args) = .error e → r'.applied (name, args) = .error e)
    (hmeaning : (Kind.record name args).WellFormed r → ∀ b,
      (Kind.record name args).meaning 0 (r'.refs 0 b) = (Kind.record name args).meaning 0 (r.refs 0 b))
    (before before' : List Call) :
    let c := ((Caller.of r).run 0 before).2
    let c' := ((Caller.of r').run 0 before').2
    ∃ answer d d', c.call 0 (.derive name args) = (answer, d) ∧
      c'.call 0 (.derive name args) = (answer, d') ∧
      (answer = .made ↔ r.Takes name args.length) ∧
      (answer = .made → ∀ after after' : List Call,
        (∀ v, ∃ outcome,
          ((d.run 0 after).2.call 0 (.conform c.specs.length v)).1 = .conformed outcome ∧
          ((d'.run 0 after').2.call 0 (.conform c'.specs.length v)).1 = .conformed outcome) ∧
        ∀ path v, ∃ problems,
          ((d.run 0 after).2.call 0 (.explain c.specs.length path v)).1 = .explained problems ∧
          ((d'.run 0 after').2.call 0 (.explain c'.specs.length path v)).1 = .explained problems) := by
  intro c c'
  obtain ⟨kinds, hc⟩ := (Caller.Sound.of r r.BuiltinUnregistered).run hr.settled.toClosed before
  obtain ⟨kinds', hc'⟩ := (Caller.Sound.of r' r'.BuiltinUnregistered).run hr'.settled.toClosed before'
  by_cases hfits : r.Takes name args.length
  · have hk : (Kind.record name args).WellFormed r := Kind.wellFormed_record.mpr ⟨hfits, hargs⟩
    have hk' : (Kind.record name args).WellFormed r' :=
      Kind.wellFormed_record.mpr ⟨htakes.mpr hfits, hargs'⟩
    obtain ⟨d, hmade, hmeans⟩ := hc.specFor_means hr hk
    obtain ⟨d', hmade', hmeans'⟩ := hc'.specFor_means hr' hk'
    refine ⟨.made, d, d', hmade, hmade', iff_of_true rfl hfits, fun _ after after' => ⟨?_, ?_⟩⟩
    · intro v
      refine ⟨_, (hmeans after).1 v, ?_⟩
      rw [(hmeans' after').1 v, hmeaning hk]
    · intro path v
      refine ⟨_, (hmeans after).2 path v, ?_⟩
      rw [(hmeans' after').2 path v, hmeaning hk]
  · obtain ⟨e, he⟩ := Registry.applied_of_not_takes hfits
    obtain ⟨d, hrefused⟩ := hc.derive_refused hr.settled.toClosed he
    obtain ⟨d', hrefused'⟩ := hc'.derive_refused hr'.settled.toClosed (happlied he)
    refine ⟨.refused e, d, d', hrefused, hrefused', ?_, fun h => by cases h⟩
    exact iff_of_false (fun h => by cases h) hfits

end Conform

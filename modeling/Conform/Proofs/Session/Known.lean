import Conform.Proofs.Registry.Known
import Conform.Proofs.Session.Events
/-!
Names that are known when a spec is made are known at every check of it. If the references of a
registry are in order, and those in the kind that is asked for, then neither the derivation nor any
look behind a lazy reference, however far in, ends at a name that means nothing.
-/

namespace Conform

/-- No look behind a known reference ends at a name that means nothing. -/
theorem spared_known {id : Nat} {r : Registry} (hr : r.checkReferences = .ok ()) :
    Spared id r SpecError.isUnknownName (Target.Known r) where
  inwards := inwards_known hr
  forward h hname := Kind.Known.record_of_forward h hname
  dropped := rfl
  seek htarget h := Registry.seek_error hr htarget h

/-- A lazy reference is blamed, as a name means nothing. -/
def Problem.BlamesUnknownName (p : Problem) : Prop :=
  (∃ i reference, p.spec = .deferred i reference) ∧
    ∃ e : SpecError, e.isUnknownName = true ∧ p.reason = "unresolved reference: " ++ e.message

theorem Problem.Unrefused.not_blamesUnknownName {p : Problem}
    (h : p.Unrefused SpecError.isUnknownName) : ¬ p.BlamesUnknownName := by
  rintro ⟨⟨i, reference, hspec⟩, e, he, hreason⟩
  obtain ⟨e', he', hreason'⟩ := h i reference hspec
  have hmessage : e.message = e'.message :=
    (String.append_right_inj _).mp (hreason.symm.trans hreason')
  rw [SpecError.isUnknownName_of_message_eq hmessage he] at he'
  cases he'

namespace Check

/-- Every check of the spec has an answer, and has the same one if it stops where a look ends at a
name that means nothing; so no problem blames one. -/
structure MeetsNoUnknownName (spec : Spec) (s : Session) : Prop where
  conform : ∀ v, ∃ c t, conform spec v s = some (c, t) ∧
    conformRefusing SpecError.isUnknownName spec v s = some (c, t)
  explain : ∀ path v, ∃ problems t, explain spec path v s = some (problems, t) ∧
    explainRefusing SpecError.isUnknownName spec path v s = some (problems, t) ∧
    ∀ p ∈ problems, ¬ p.BlamesUnknownName

end Check

theorem Stands.meetsNoUnknownName {id : Nat} {r : Registry} {cells : List Target} {k : Kind}
    {spec : Spec} {s : Session} (h : Stands id r (fun _ => True) cells k spec)
    (hr : r.checkReferences = .ok ()) (hk : k.Known r) (hs : Session.Intact id r cells s) :
    Check.MeetsNoUnknownName spec s := by
  have hwalk : ∀ v, Spec.InStep (Answering id r cells) (.within (Check.reach v s))
      (.refusing SpecError.isUnknownName (Check.reach v s)) spec v := fun v =>
    h.answering_refusing (spared_known hr) (Kind.Throughout.targets hk) (Check.depth_lt_reach v s)
  constructor
  · intro v
    obtain ⟨c, t, hrun, hsame, _⟩ := (hwalk v).conform s ⟨cells, List.prefix_refl _, hs⟩
    exact ⟨c, t, hrun, hsame⟩
  · intro path v
    obtain ⟨problems, t, hrun, hsame, _⟩ :=
      (hwalk v).explain path s ⟨cells, List.prefix_refl _, hs⟩
    have hfinds := ((Spec.finds_refusing _ spec path v).of_some trivial hsame).1
    exact ⟨problems, t, hrun, hsame, fun p hp => (hfinds p hp).not_blamesUnknownName⟩

namespace History

/-- If the references of the registry are in order and those in the kind are known, the derivation does
not fail for a name; and as long as nothing more is registered, no check of the spec that was made
meets a name that means nothing, whatever else happens. -/
theorem meets_no_unknown_name {t : History} {r : Registry}
    (hr : t.opening.session.registryAt? 0 = some r) (hrefs : r.checkReferences = .ok ())
    (hkind : t.kind.Known r) (hafter : ∀ shape, .step (.register shape) ∉ t.after) :
    (∃ e, t.derived.1 = .refused e ∧ e.isUnknownName = false) ∨
      t.derived.1 = .made ∧ ∃ spec, t.caller.specs[t.opening.specs.length]? = some spec ∧
        Check.MeetsNoUnknownName spec t.caller.session := by
  obtain ⟨r', kinds, hopening⟩ := t.intact_opening
  obtain rfl := Option.some.inj (hopening.registry.symm.trans hr)
  rcases hopening.specFor t.kind with ⟨c, hcall, _⟩ | ⟨e, c, hcall, _, he⟩
  · have hmade : t.derived.1 = .made := congrArg Prod.fst hcall
    obtain ⟨cells, spec, hspec, hintact, hstands⟩ := History.stands hmade hr hafter
    exact .inr ⟨hmade, spec, hspec, hstands.meetsNoUnknownName hrefs hkind hintact⟩
  · refine .inl ⟨e, congrArg Prod.fst hcall, ?_⟩
    rcases he with rfl | he
    · rfl
    · obtain ⟨a, ha, mid, hrun⟩ := Registry.attemptAll_error (Prod.ext he rfl : _ = (_, _))
      exact Registry.attempt_error hrefs (hkind.records a ha) hrun

/-- Boxes hold pairs and mention larger and larger boxes by name. That nothing is registered as a pair
shows when a box is derived too early. -/
def boxed : History where
  name := "shapes"
  config := .default
  before := [
    .step (.register ⟨"Box", ["T"],
      [⟨"held", .record "Pair" [.placeholder "T", .forward "int" []]⟩,
        ⟨"inner", .optional (.forward "Box" [.list (.placeholder "T")])⟩], [⟨"Named", []⟩]⟩),
    .step (.register ⟨"Named", [], [⟨"name", .leaf .string⟩], []⟩),
    .step (.call (.derive "Box" [.record "Pair" []])),
    .step (.register ⟨"Pair", ["A", "B"],
      [⟨"first", .placeholder "A"⟩, ⟨"second", .placeholder "B"⟩], []⟩)]
  kind := .record "Box" [.forward "Named" []]
  after := [.clone "registry" "copy", .drop "registry", .step (.call (.conform 0 .null))]

def boxes : Registry :=
  ⟨"shapes", .default,
    [⟨"Box", ["T"],
      [⟨"held", .record "Pair" [.placeholder "T", .forward "int" []]⟩,
        ⟨"inner", .optional (.forward "Box" [.list (.placeholder "T")])⟩], [⟨"Named", []⟩]⟩,
      ⟨"Named", [], [⟨"name", .leaf .string⟩], []⟩,
      ⟨"Pair", ["A", "B"], [⟨"first", .placeholder "A"⟩, ⟨"second", .placeholder "B"⟩], []⟩]⟩

theorem meets_no_unknown_name_boxed :
    boxed.opening.session.registryAt? 0 = some boxes ∧ boxes.checkReferences = .ok () ∧
      boxed.kind.Known boxes ∧ boxed.derived.1 = .made ∧
      ∃ spec, boxed.caller.specs[boxed.opening.specs.length]? = some spec ∧
        Check.MeetsNoUnknownName spec boxed.caller.session := by
  have hr : boxed.opening.session.registryAt? 0 = some boxes :=
    Registry.eq_some_of_parts (by decide +kernel)
  have hrefs : boxes.checkReferences = .ok () := Registry.checkReferences_eq_ok.mpr (by decide)
  have hkind : boxed.kind.Known boxes := by decide
  have hafter : ∀ shape, .step (.register shape) ∉ boxed.after := fun shape hmem => by
    simp [boxed] at hmem
  have hmade : boxed.derived.1 = .made := by decide +kernel
  rcases meets_no_unknown_name hr hrefs hkind hafter with ⟨e, he, _⟩ | ⟨_, hchecks⟩
  · cases he.symm.trans hmade
  · exact ⟨hr, hrefs, hkind, hmade, hchecks⟩

end History

end Conform

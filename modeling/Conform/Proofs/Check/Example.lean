import Conform.Proofs.Session.Follows
import Conform.Proofs.Spec.References
import Conform.Proofs.Value.Extension
import Conform.Spec.Build
/-!
Specs of examples. The spec that is built for an example accepts what extends the example, and makes the
excerpt of it.
-/

namespace Conform

open Check (Ensures)

/-- A spec without lazy references answers what it means, and leaves the session as it is. -/
theorem Check.conform_of_references_nil {spec : Spec} (h : spec.references = [])
    (refs : Instance → Reference → Meaning) (v : Value) (s : Session) :
    conform spec v s = some ((spec.meaning refs).conform v, s) := by
  have hrefers : spec.Refers fun _ => False := fun reference hmem => by
    rw [h] at hmem
    cases hmem
  have himplements : Spec.Implements False (· = s) (.within (reach v s)) id spec
      (spec.meaning refs) v :=
    Spec.implements_fitting (Spec.handsOn_refers fun _ => False)
      (fun _ _ _ hdeferred => (Spec.refers_deferred.mp hdeferred).elim) spec v hrefers
  obtain ⟨outcome, t, hrun, rfl, rfl⟩ := himplements.conform.exists_some rfl
  exact hrun

/-! ## What is built -/

/-- The spec makes the excerpts of what extends the example, and accepts nothing else. -/
structure Spec.Exemplifies (spec : Spec) (sample : Value) : Prop where
  references : spec.references = []
  conform (refs : Instance → Reference → Meaning) (v w : Value) :
    (spec.meaning refs).conform v = .valid w ↔ sample.ExtendedBy v ∧ sample.Excerpt v w

namespace Spec

def KeyExemplifies (pair : String × Value) (key : String × Spec) : Prop :=
  key.1 = pair.1 ∧ key.2.Exemplifies pair.2

theorem exemplifies_equalTo {sample : Value} (h : sample.kind ≠ .object) (i : Instance) :
    (equalTo i sample).Exemplifies sample where
  references := rfl
  conform refs v w := by
    rw [Value.extendedBy_of_ne h, Value.excerpt_of_ne h]
    change Conformed.ofBool (v.looselyEqual sample) v = .valid w ↔ _
    cases v.looselyEqual sample <;> simp [Conformed.ofBool, eq_comm]

section
variable {pairs : List (String × Value)} {keys : List (String × Spec)}

/-- Specs that exemplify one by one make what an object of them takes. -/
theorem makes_iff_of_exemplifies
    (h : List.Forall₂ KeyExemplifies pairs keys)
    (refs : Instance → Reference → Meaning) (v : Value) (made : List (String × Value)) :
    List.Forall₂ (Meaning.Makes v) (keyMeanings refs keys) made ↔
      (∀ pair ∈ pairs, ∃ own, v.get? pair.1 = some own ∧ pair.2.ExtendedBy own) ∧
        List.Forall₂ (Value.PairExcerpt v) pairs made := by
  induction h generalizing made with
  | nil => simp [keyMeanings]
  | @cons pair key pairs keys hkey _ ih =>
    obtain ⟨name, spec⟩ := key
    obtain ⟨rfl, hspec⟩ := hkey
    rw [keyMeanings, List.forall₂_cons_left_iff, List.forall₂_cons_left_iff, List.forall_mem_cons]
    constructor
    · rintro ⟨⟨_, w⟩, rest, ⟨rfl, own, hget, hmade⟩, hmakes, rfl⟩
      obtain ⟨hextended, hexcerpt⟩ := (hspec.conform refs own w).mp hmade
      obtain ⟨hall, hrest⟩ := (ih rest).mp hmakes
      exact ⟨⟨⟨own, hget, hextended⟩, hall⟩, (pair.1, w), rest, ⟨rfl, own, hget, hexcerpt⟩, hrest, rfl⟩
    · rintro ⟨⟨⟨own, hget, hextended⟩, hall⟩, ⟨_, w⟩, rest, ⟨rfl, own', hget', hexcerpt⟩, hrest, rfl⟩
      cases hget.symm.trans hget'
      have hmade := (hspec.conform refs own w).mpr ⟨hextended, hexcerpt⟩
      exact ⟨(pair.1, w), rest, ⟨rfl, own, hget, hmade⟩, (ih rest).mpr ⟨hall, hrest⟩, rfl⟩

theorem exemplifies_dict
    (h : List.Forall₂ KeyExemplifies pairs keys) (i : Instance) :
    (dict i keys .ignore).Exemplifies (.object pairs) where
  references := by
    change referencesOfKeys keys = []
    induction h with
    | nil => rfl
    | cons hkey _ ih => rw [referencesOfKeys, hkey.2.references, ih, List.nil_append]
  conform refs v w := by
    rw [Value.extendedBy_object, Value.excerpt_object]
    refine Meaning.dict_eq_valid.trans ⟨?_, ?_⟩
    · rintro ⟨members, made, others, rfl, hmakes, hothers, rfl⟩
      cases hothers
      obtain ⟨hall, hmade⟩ := (makes_iff_of_exemplifies h refs _ made).mp hmakes
      exact ⟨⟨rfl, hall⟩, made, by rw [List.append_nil], hmade⟩
    · rintro ⟨⟨hkind, hall⟩, made, rfl, hmade⟩
      obtain ⟨members, rfl⟩ : ∃ members, v = .object members := by
        cases v with
        | object members => exact ⟨members, rfl⟩
        | null | bool | int | float | string | bytes | list | tuple => cases hkind
      refine ⟨members, made, [], rfl, ?_, rfl, by rw [List.append_nil]⟩
      exact (makes_iff_of_exemplifies h refs _ made).mpr ⟨hall, hmade⟩

end

end Spec

namespace Build

mutual

theorem run_ofExample : ∀ (sample : Value) (s : Session),
    ∃ spec t, (ofExample sample).run s = (.ok spec, t) ∧ spec.Exemplifies sample
  | .object pairs, s => by
    obtain ⟨keys, t, hrun, hkeys⟩ := run_ofExamplePairs pairs s
    unfold ofExample
    rw [run_bind, hrun]
    exact ⟨_, _, rfl, Spec.exemplifies_dict hkeys _⟩
  | .null, s | .bool _, s | .int _, s | .float _, s | .string _, s | .bytes _, s | .list _, s
  | .tuple _, s => by
    unfold ofExample
    exact ⟨_, _, rfl, Spec.exemplifies_equalTo (by nofun) _⟩

theorem run_ofExamplePairs : ∀ (pairs : List (String × Value)) (s : Session),
    ∃ keys t, (ofExamplePairs pairs).run s = (.ok keys, t) ∧
      List.Forall₂ Spec.KeyExemplifies pairs keys
  | [], s => ⟨[], s, rfl, .nil⟩
  | (key, v) :: pairs, s => by
    obtain ⟨spec, t, hrun, hspec⟩ := run_ofExample v s
    obtain ⟨keys, t', hrun', hkeys⟩ := run_ofExamplePairs pairs t
    unfold ofExamplePairs
    rw [run_bind, hrun]
    simp only
    rw [run_bind, hrun']
    exact ⟨_, _, rfl, .cons ⟨rfl, hspec⟩ hkeys⟩

end

/-- In any session an example has a spec. It accepts what extends the example and nothing else, and makes
the excerpt by the example's keys. The example itself is left as it is, if no key stands twice in it and
all its floats are numbers. -/
theorem dictExample_accepts_extensions (pairs : List (String × Value)) (s : Session) :
    ∃ spec t, (dictExample pairs).run s = (.ok spec, t) ∧
      (∀ v u,
        ((Value.object pairs).ExtendedBy v →
          ∃ w, Check.conform spec v u = some (.valid w, u) ∧ (Value.object pairs).Excerpt v w) ∧
        (¬ (Value.object pairs).ExtendedBy v → Check.conform spec v u = some (.invalid, u))) ∧
      ((Value.object pairs).KeysDiffer → (Value.object pairs).NumbersOnly →
        ∀ u, Check.conform spec (.object pairs) u = some (.valid (.object pairs), u)) := by
  obtain ⟨spec, t, hrun, hspec⟩ := run_ofExample (.object pairs) s
  have hconform := fun v u =>
    Check.conform_of_references_nil hspec.references (fun _ _ => .anything) v u
  refine ⟨spec, t, hrun, fun v u => ⟨fun hextended => ?_, fun hnot => ?_⟩, fun hkeys hnumbers u => ?_⟩
  · obtain ⟨w, hw⟩ := hextended.exists_excerpt
    exact ⟨w, by rw [hconform, (hspec.conform _ v w).mpr ⟨hextended, hw⟩], hw⟩
  · rw [hconform]
    cases hmade : (spec.meaning _).conform v with
    | invalid => rfl
    | valid w => exact absurd ((hspec.conform _ v w).mp hmade).1 hnot
  · rw [hconform, (hspec.conform _ _ _).mpr (hnumbers.extendedBy_self hkeys)]

/-- The value has its keys in another order and one more, at both levels, and a whole float. -/
theorem dictExample_accepts_extensions_nested :
    let sample : List (String × Value) := [("a", .int 1), ("b", .object [("c", .list [.int 2])])]
    let v : Value := .object [("b", .object [("d", .null), ("c", .list [.int 2])]), ("x", .null),
      ("a", .float ⟨false, 1023, 0⟩)]
    (Value.object sample).ExtendedBy v ∧ ¬ (Value.object sample).ExtendedBy .null ∧
      (Value.object sample).KeysDiffer ∧ (Value.object sample).NumbersOnly ∧
      ∃ spec t, (dictExample sample).run .empty = (.ok spec, t) ∧
        Check.conform spec v .empty = some (.valid (.object [("a", .float ⟨false, 1023, 0⟩),
          ("b", .object [("c", .list [.int 2])])]), .empty) ∧
        Check.conform spec .null .empty = some (.invalid, .empty) ∧
        Check.conform spec (.object sample) .empty = some (.valid (.object sample), .empty) := by
  intro sample v
  have hextended : (Value.object sample).ExtendedBy v := by
    have hone : (Value.float ⟨false, 1023, 0⟩).looselyEqual (.int 1) = true := by decide +kernel
    have htwo : (Value.list [.int 2]).looselyEqual (.list [.int 2]) = true := by decide +kernel
    simp [sample, v, Value.ExtendedBy, Value.PairsExtendedBy, Value.kind, Value.get?,
      List.lookup_cons, hone, htwo]
  have hnot : ¬ (Value.object sample).ExtendedBy .null := by
    simp [sample, Value.ExtendedBy, Value.kind]
  have hkeys : (Value.object sample).KeysDiffer := by
    simp [sample, Value.KeysDiffer, Value.PairsKeysDiffer]
  have hnumbers : (Value.object sample).NumbersOnly := by
    simp [sample, Value.NumbersOnly]
  obtain ⟨spec, t, hrun, hconform, hself⟩ := dictExample_accepts_extensions sample .empty
  obtain ⟨w, hw, hexcerpt⟩ := (hconform v .empty).1 hextended
  have hmade : w = .object [("a", .float ⟨false, 1023, 0⟩),
      ("b", .object [("c", .list [.int 2])])] := by
    simpa [sample, v, Value.Excerpt, Value.PairsExcerpt, Value.get?, List.lookup_cons] using hexcerpt
  exact ⟨hextended, hnot, hkeys, hnumbers, spec, t, hrun, hmade ▸ hw, (hconform .null .empty).2 hnot,
    hself hkeys hnumbers .empty⟩

end Build

end Conform

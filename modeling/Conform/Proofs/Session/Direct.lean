import Conform.Proofs.Registry.Direct
import Conform.Proofs.Session.Translation
/-!
Lazy and direct references lead to the same. In a well-formed registry it makes no difference to what
a kind means whether its references are forward or direct ones. So registries that are equal once all
their references are direct hand out specs that cannot be told apart.
-/

namespace Conform

/-! ## Meanings -/

def Target.direct (known : String → Bool) : Target → Target
  | .shape id name args => .shape id name (Kind.directAll known args)
  | .forward id name args =>
    if known name then .shape id name (Kind.directAll known args)
    else .forward id name (Kind.directAll known args)
  | .bound name => .bound name

section
variable {id : Nat} {known : String → Bool} {refs refs' : Target → Meaning}

mutual

theorem Kind.meaning_direct :
    ∀ {k : Kind}, (∀ target ∈ k.targets id, refs' (target.direct known) = refs target) →
      (k.direct known).meaning id refs' = k.meaning id refs
  | .leaf _, _ | .nothing, _ | .placeholder _, _ => by
    unfold direct meaning
    rfl
  | .record name args, h => by
    unfold direct meaning
    exact h _ (List.mem_singleton_self _)
  | .forward name args, h => by
    have htarget := h _ (List.mem_singleton_self _)
    simp only [Target.direct] at htarget
    unfold direct
    by_cases hname : known name = true
    · rw [if_pos hname] at htarget ⊢
      unfold meaning
      exact htarget
    · rw [if_neg hname] at htarget ⊢
      unfold meaning
      exact htarget
  | .list item, h => by
    have hitem := Kind.meaning_direct (k := item) h
    unfold direct meaning
    rw [hitem]
  | .union ks, h => by
    unfold direct meaning
    rw [Kind.meanings_direct h]

theorem Kind.meanings_direct :
    ∀ {ks : List Kind}, (∀ target ∈ Kind.targetsOfAll id ks, refs' (target.direct known) = refs target) →
      Kind.meanings id refs' (Kind.directAll known ks) = Kind.meanings id refs ks
  | [], _ => rfl
  | k :: ks, h => by
    have hhead := @Kind.meaning_direct k fun t ht => h t (List.mem_append_left _ ht)
    have htail := @Kind.meanings_direct ks fun t ht => h t (List.mem_append_right _ ht)
    unfold Kind.directAll Kind.meanings
    rw [hhead, htail]

end

theorem placeholderGroups_direct (fields : List Field) :
    Session.placeholderGroups (fields.map (Field.direct known)) = Session.placeholderGroups fields := by
  unfold Session.placeholderGroups
  rw [List.foldl_map]
  congr 1
  funext groups f
  rcases f with ⟨name, kind⟩
  cases kind with
  | forward target args =>
    unfold Field.direct Kind.direct
    cases known target <;> rfl
  | _ => rfl

namespace Registry

theorem undeclared_direct (fields : List Field) :
    undeclared (fields.map (Field.direct known)) = undeclared fields :=
  undeclared_map (Kind.direct known) fields

theorem fieldMeanings_direct {fields : List Field}
    (h : ∀ f ∈ fields, ∀ target ∈ f.kind.targets id, refs' (target.direct known) = refs target) :
    fieldMeanings id refs' (fields.map (Field.direct known)) = fieldMeanings id refs fields := by
  unfold fieldMeanings
  rw [List.map_map]
  refine List.map_congr_left fun f hf => ?_
  exact congrArg (Prod.mk f.name) (Kind.meaning_direct (h f hf))

section
variable {r : Registry}

theorem recordMeaning_direct (hr : r.WellFormed) {name : String} {args : List Kind}
    (ha : (Kind.record name args).WellFormed r)
    (h : ∀ {target : Target}, target.WellFormed r →
      refs' (target.direct r.contains) = refs target) :
    r.direct.recordMeaning id refs' (name, Kind.directAll r.contains args) =
      r.recordMeaning id refs (name, args) := by
  obtain ⟨fields, hfields, hwell⟩ := @WellFormed.fieldsOf r hr (name, args) ha
  have hfields' : r.direct.fieldsOf (name, Kind.directAll r.contains args) =
      .ok (fields.map (Field.direct r.contains)) := by
    rw [fieldsOf_direct, hfields]
    rfl
  have ha' : (Kind.record name (Kind.directAll r.contains args)).WellFormed r.direct := by
    have hdirect := Kind.wellFormed_direct.mpr ha
    unfold Kind.direct at hdirect
    exact hdirect
  have halone : r.Alone (name, args) := hr.alone ha
  have halone' : r.direct.Alone (name, Kind.directAll r.contains args) :=
    (wellFormed_direct.mpr hr).alone ha'
  rw [recordMeaning_eq halone hfields, recordMeaning_eq halone' hfields',
    fieldMeanings_direct fun f hf target htarget => h ((hwell f hf).targets target htarget)]
  unfold formMeaning
  rw [placeholderGroups_direct, undeclared_direct]
  rfl

/-- What is behind a reference means the same where it is direct. -/
theorem refs_direct (hr : r.WellFormed) (b : Nat) {target : Target} (h : target.WellFormed r) :
    r.direct.refs id b (target.direct r.contains) = r.refs id b target := by
  induction b generalizing target with
  | zero => rfl
  | succ b ih =>
    cases target with
    | bound name => exact h.elim
    | shape registry name args => exact recordMeaning_direct hr h ih
    | forward registry name args =>
      simp only [Target.direct]
      by_cases hname : r.contains name = true
      · rw [if_pos hname]
        unfold refs
        rw [if_pos hname]
        exact recordMeaning_direct hr (Kind.wellFormed_of_forward h hname) ih
      · rw [if_neg hname]
        unfold refs
        rw [contains_direct, if_neg hname, if_neg hname, builtin?_direct]
        rfl

theorem meaning_refs_direct (hr : r.WellFormed) (b : Nat) {k : Kind} (hk : k.WellFormed r) :
    (k.direct r.contains).meaning id (r.direct.refs id b) = k.meaning id (r.refs id b) :=
  Kind.meaning_direct fun target htarget => refs_direct hr b (hk.targets target htarget)

/-! ## Registries with one direct form -/

variable {r' : Registry}

theorem contains_of_direct_eq (h : r'.direct = r.direct) : r'.contains = r.contains := by
  rw [← contains_direct, h, contains_direct]

theorem wellFormed_of_direct_eq (hr : r.WellFormed) (h : r'.direct = r.direct) : r'.WellFormed := by
  rw [← wellFormed_direct, h, wellFormed_direct]
  exact hr

theorem wellFormed_kind_of_direct_eq {k : Kind} (hk : k.WellFormed r) (h : r'.direct = r.direct) :
    k.WellFormed r' := by
  rw [← Kind.wellFormed_direct, h, contains_of_direct_eq h, Kind.wellFormed_direct]
  exact hk

theorem meaning_of_direct_eq (hr : r.WellFormed) (h : r'.direct = r.direct) (b : Nat) {k : Kind}
    (hk : k.WellFormed r) : k.meaning id (r'.refs id b) = k.meaning id (r.refs id b) := by
  have hr' := wellFormed_of_direct_eq hr h
  have hk' := wellFormed_kind_of_direct_eq hk h
  rw [← meaning_refs_direct hr' b hk', ← meaning_refs_direct hr b hk, h, contains_of_direct_eq h]

theorem applied_of_direct_eq (h : r'.direct = r.direct) {a : Applied} {e : SpecError}
    (ha : r.applied a = .error e) : r'.applied a = .error e := by
  have hboth := r'.applied_direct a.1 a.2
  rw [h, r.applied_direct a.1 a.2, show r.applied (a.1, a.2) = .error e from ha] at hboth
  cases happlied : r'.applied a with
  | error e' =>
    rw [show r'.applied (a.1, a.2) = .error e' from happlied] at hboth
    exact hboth.symm
  | ok shape =>
    rw [show r'.applied (a.1, a.2) = .ok shape from happlied] at hboth
    cases hboth

end

end Registry

end

/-! ## Callers -/

/-- Registries with one direct form answer alike to a derivation with well-formed arguments, and the
specs that they hand out have the same outcomes and the same reports, whatever either of them is asked
for before and after. -/
theorem Caller.derive_eq_of_direct_eq {r r' : Registry} (hr : r.WellFormed)
    (hdirect : r'.direct = r.direct) (name : String) {args : List Kind}
    (hargs : ∀ k ∈ args, k.WellFormed r) (before before' : List Call) :
    let c := ((Caller.of r).run 0 before).2
    let c' := ((Caller.of r').run 0 before').2
    ∃ answer d d', c.call 0 (.derive name args) = (answer, d) ∧
      c'.call 0 (.derive name args) = (answer, d') ∧
      (answer = .made ↔ r.Takes name args.length) ∧
      (answer = .made → ∀ after after' : List Call,
        (∀ v, ∃ outcome,
          ((d.run 0 after).2.call 0 (.conform c.specs.length v)).1 = .conformed outcome ∧
          ((d'.run 0 after').2.call 0 (.conform c'.specs.length v)).1 = .conformed outcome) ∧
        ∀ path v, ∃ problems,
          ((d.run 0 after).2.call 0 (.explain c.specs.length path v)).1 = .explained problems ∧
          ((d'.run 0 after').2.call 0 (.explain c'.specs.length path v)).1 = .explained problems) := by
  have htakes : r'.Takes name args.length ↔ r.Takes name args.length := by
    rw [← r'.takes_direct, hdirect, r.takes_direct]
  exact derive_eq_of_meaning_eq hr (Registry.wellFormed_of_direct_eq hr hdirect) hargs
    (fun k hk => Registry.wellFormed_kind_of_direct_eq (hargs k hk) hdirect) htakes
    (Registry.applied_of_direct_eq hdirect)
    (fun hk b => Registry.meaning_of_direct_eq hr hdirect b hk) before before'

/-- The chain, with the next node and the note referred to the other way where that can be. -/
def Registry.lazyChain : Registry :=
  ⟨"shapes", .default,
    [⟨"Named", [], [⟨"name", .leaf .string⟩], []⟩,
      ⟨"Node", ["T"], [⟨"value", .placeholder "T"⟩, ⟨"note", .forward "str" []⟩,
        ⟨"next", .optional (.forward "Node" [.placeholder "T"])⟩], [⟨"Named", []⟩]⟩]⟩

/-- A chain of numbers, after other derivations from either registry. -/
theorem Caller.derive_eq_of_direct_eq_chain :
    let c := ((Caller.of .chain).run 0 [.derive "Missing" []]).2
    let c' := ((Caller.of .lazyChain).run 0 [.derive "Named" []]).2
    Registry.chain.WellFormed ∧ Registry.lazyChain.direct = Registry.chain.direct ∧
      (∀ k ∈ [Kind.leaf .int], k.WellFormed .chain) ∧
      ∃ answer d d', c.call 0 (.derive "Node" [.leaf .int]) = (answer, d) ∧
        c'.call 0 (.derive "Node" [.leaf .int]) = (answer, d') ∧
        (answer = .made ↔ Registry.chain.Takes "Node" 1) ∧
        (answer = .made → ∀ after after' : List Call,
          (∀ v, ∃ outcome,
            ((d.run 0 after).2.call 0 (.conform c.specs.length v)).1 = .conformed outcome ∧
            ((d'.run 0 after').2.call 0 (.conform c'.specs.length v)).1 = .conformed outcome) ∧
          ∀ path v, ∃ problems,
            ((d.run 0 after).2.call 0 (.explain c.specs.length path v)).1 = .explained problems ∧
            ((d'.run 0 after').2.call 0 (.explain c'.specs.length path v)).1 =
              .explained problems) :=
  have hdirect : Registry.lazyChain.direct = Registry.chain.direct := rfl
  have hargs : ∀ k ∈ [Kind.leaf .int], k.WellFormed .chain := by decide +kernel
  ⟨Registry.wellFormed_chain, hdirect, hargs,
    derive_eq_of_direct_eq Registry.wellFormed_chain hdirect "Node" hargs [.derive "Missing" []]
      [.derive "Named" []]⟩

/-- A shape with another in it, and in that an optional third, mentioned in a given way. -/
def Registry.nested (mention : String → List Kind → Kind) : Registry :=
  ⟨"shapes", .default,
    [⟨"Outer", ["U"], [⟨"n", .forward "Middle" [.placeholder "U"]⟩], []⟩,
      ⟨"Middle", ["U"], [⟨"e", .optional (mention "Inner" [.placeholder "U"])⟩], []⟩,
      ⟨"Inner", ["U"], [⟨"u", .placeholder "U"⟩], []⟩]⟩

/-- With a shape for an argument that is not there, the mention has to be looked at where it is
direct, and need not be where it is lazy. -/
theorem Caller.derive_nested_ne :
    let v := Value.object [("n", .object [("e", .null)])]
    let calls := [Call.derive "Outer" [.record "Missing" []], .conform 0 v]
    (Registry.nested .record).WellFormed ∧
      (Registry.nested .forward).direct = (Registry.nested .record).direct ∧
      ((Caller.of (.nested .record)).run 0 calls).1 = [.made, .conformed .invalid] ∧
      ((Caller.of (.nested .forward)).run 0 calls).1 = [.made, .conformed (.valid v)] := by
  refine ⟨⟨by decide +kernel, by decide +kernel, fun name h => ?_⟩, rfl, ?_, ?_⟩
  · have hstep : ∀ {a b}, ¬ (Registry.nested .record).HasParent a b := by
      rintro a b ⟨shape, hshape, _, p, hp, _⟩
      simp only [Registry.nested, List.mem_cons, List.not_mem_nil, or_false] at hshape
      rcases hshape with rfl | rfl | rfl <;> cases hp
    cases h with
    | single h => exact hstep h
    | tail _ h => exact hstep h
  · decide +kernel
  · decide +kernel

end Conform

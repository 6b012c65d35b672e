import Conform.Proofs.Kind.Groups
import Conform.Proofs.Registry.Renaming
import Conform.Proofs.Session.Translation
/-!
Parameters may be called anything. Where a parameter of a shape stays apart from others of its name,
every shape of a well-formed registry means the same after it was renamed: of the names of placeholders
a record only keeps which of its fields have one in common. Where it does not stay apart, a new name
can make a difference.
-/

namespace Conform

/-! ## Groups -/

/-- The group under the new name of its placeholder. -/
def PlaceholderGroup.rename (old new : String) (group : PlaceholderGroup) : PlaceholderGroup :=
  ⟨Kind.renamed old new group.placeholder, group.fields⟩

section
variable {old new : String}

namespace Session

theorem joinGroup_rename {field p : String} (hp : p ≠ new) {groups : List PlaceholderGroup}
    (hgroups : ∀ group ∈ groups, group.placeholder ≠ new) :
    joinGroup field (Kind.renamed old new p) (groups.map (PlaceholderGroup.rename old new)) =
      (joinGroup field p groups).map (PlaceholderGroup.rename old new) := by
  induction groups with
  | nil => rfl
  | cons group groups ih =>
    have hrest := ih fun e he => hgroups e (List.mem_cons_of_mem group he)
    have hsame : (group.rename old new).placeholder = Kind.renamed old new p ↔
        group.placeholder = p :=
      Kind.renamed_inj (hgroups group List.mem_cons_self) hp
    rw [List.map_cons]
    unfold joinGroup
    simp only [hsame]
    split
    · rfl
    · rw [hrest, List.map_cons]

/-- Renaming keeps groups apart, if the new name is not there before. -/
theorem placeholderGroups_rename {fields : List Field}
    (h : ∀ f ∈ fields, f.kind ≠ .placeholder new) :
    placeholderGroups (fields.map (Field.map (Kind.rename old new))) =
      (placeholderGroups fields).map (PlaceholderGroup.rename old new) := by
  induction fields using List.reverseRecOn with
  | nil => rfl
  | append_singleton fields f ih =>
    have hbefore : ∀ e ∈ fields, e.kind ≠ .placeholder new := fun e he =>
      h e (List.mem_append_left _ he)
    have hgroups : ∀ group ∈ placeholderGroups fields, group.placeholder ≠ new := by
      rintro group hgroup rfl
      obtain ⟨e, he, hkind⟩ := exists_field_of_mem_placeholderGroups hgroup
      exact hbefore e he hkind
    rw [List.map_append, List.map_singleton, placeholderGroups_concat, placeholderGroups_concat,
      ih hbefore]
    rcases f with ⟨name, kind⟩
    cases kind with
    | placeholder p =>
      have hp : p ≠ new := by
        rintro rfl
        exact h _ (List.mem_append_right _ (List.mem_singleton_self _)) rfl
      exact joinGroup_rename hp hgroups
    | leaf | nothing | record | forward | list | union => rfl

end Session

/-- What groups ask does not depend on the names of their placeholders. -/
theorem Meaning.consistency_rename (owner : Spec) (groups : List PlaceholderGroup) :
    Meaning.consistency owner (groups.map (PlaceholderGroup.rename old new)) =
      Meaning.consistency owner groups := by
  have hgroups : ∀ (v : Value) (output : List (String × Value)),
      Spec.conformGroups v (groups.map (PlaceholderGroup.rename old new)) output =
        Spec.conformGroups v groups output := by
    intro v output
    induction groups generalizing output with
    | nil => rfl
    | cons group groups ih =>
      rw [List.map_cons, Spec.conformGroups, Spec.conformGroups, funext ih]
      rfl
  unfold Meaning.consistency
  congr 1
  · funext v
    unfold Spec.conformConsistency
    simp only [hgroups]
  · funext path v
    simp only [List.flatMap_map]
    rfl

/-! ## Meanings -/

def Target.rename (old new : String) : Target → Target
  | .shape id name args => .shape id name (Kind.renameAll old new args)
  | .forward id name args => .forward id name (Kind.renameAll old new args)
  | .bound name => .bound name

variable {id : Nat} {refs refs' : Target → Meaning}

mutual

theorem Kind.meaning_rename :
    ∀ {k : Kind}, (∀ target ∈ k.targets id, refs' (target.rename old new) = refs target) →
      (k.rename old new).meaning id refs' = k.meaning id refs
  | .leaf _, _ | .nothing, _ | .placeholder _, _ => by
    unfold rename meaning
    rfl
  | .record name args, h | .forward name args, h => by
    unfold rename meaning
    exact h _ (List.mem_singleton_self _)
  | .list item, h => by
    have hitem := Kind.meaning_rename (k := item) h
    unfold rename meaning
    rw [hitem]
  | .union ks, h => by
    unfold rename meaning
    rw [Kind.meanings_rename h]

theorem Kind.meanings_rename :
    ∀ {ks : List Kind}, (∀ target ∈ Kind.targetsOfAll id ks, refs' (target.rename old new) = refs target) →
      Kind.meanings id refs' (Kind.renameAll old new ks) = Kind.meanings id refs ks
  | [], _ => rfl
  | k :: ks, h => by
    have hhead := @Kind.meaning_rename k fun t ht => h t (List.mem_append_left _ ht)
    have htail := @Kind.meanings_rename ks fun t ht => h t (List.mem_append_right _ ht)
    unfold Kind.renameAll Kind.meanings
    rw [hhead, htail]

end

namespace Registry

theorem formMeaning_rename {fields : List Field}
    (h : new = old ∨ ∀ f ∈ fields, f.kind ≠ .placeholder new) (config : DeriveConfig)
    (keys : List (String × Meaning)) :
    formMeaning config (fields.map (Field.map (Kind.rename old new))) keys =
      formMeaning config fields keys := by
  rcases h with rfl | h
  · rw [map_rename_self]
  · simp only [formMeaning, undeclared_map, Session.placeholderGroups_rename h,
      Meaning.consistency_rename, List.isEmpty_map]

theorem fieldMeanings_rename {fields : List Field}
    (h : ∀ f ∈ fields, ∀ target ∈ f.kind.targets id, refs' (target.rename old new) = refs target) :
    fieldMeanings id refs' (fields.map (Field.map (Kind.rename old new))) =
      fieldMeanings id refs fields := by
  unfold fieldMeanings
  rw [List.map_map]
  exact List.map_congr_left fun f hf => congrArg (Prod.mk f.name) (Kind.meaning_rename (h f hf))

variable {r : Registry} {owner outer : String} {scope heirs : String → Prop}

/-- The name that the parameter goes by in a reference cannot be taken for another. -/
def Clear (old new outer : String) (scope : String → Prop) (target : Target) : Prop :=
  outer = old ∨ outer = new ∧ target.Throughout (Kind.Confined new scope)

theorem Clear.behind {registry : Nat} {name : String} {args : List Kind}
    (h : Clear old new outer scope (.forward registry name args)) :
    Clear old new outer scope (.shape registry name args) := by
  refine Or.imp_right (fun ⟨hnew, hconfined⟩ => ⟨hnew, ?_⟩) h
  obtain ⟨⟨_, hhands⟩, hargs⟩ := Kind.throughout_forward.mp hconfined
  exact Kind.throughout_record.mpr ⟨⟨by simp, hhands⟩, hargs⟩

theorem Confines.recordMeaning_rename (hr : r.Confines owner old scope heirs) (hfresh : r.Fresh new)
    (hwell : r.WellFormed) {name : String} {args : List Kind}
    (ha : (Kind.record name args).WellFormed r)
    (hclear : Clear old new outer scope (.shape id name args))
    (h : ∀ {outer} {target : Target}, target.WellFormed r → Clear old new outer scope target →
      refs' (target.rename old outer) = refs target) :
    (r.rename owner old new).recordMeaning id refs' (name, Kind.renameAll old outer args) =
      r.recordMeaning id refs (name, args) := by
  obtain ⟨fields, hfields, hkinds⟩ := @WellFormed.fieldsOf r hwell (name, args) ha
  -- The parameter may go by another name in the fields than in the reference, if that had no arguments.
  obtain ⟨outer', hclear', hfields'⟩ := hr.fieldsOf_rename hfresh hclear hfields
  have halone : r.Alone (name, args) := hwell.alone ha
  have halone' : (r.rename owner old new).Alone (name, Kind.renameAll old outer args) := by
    refine ((hr.wellFormed hfresh).mpr hwell).alone ?_
    have hrenamed : ((Kind.record name args).rename old outer).WellFormed (r.rename owner old new) :=
      (hr.wellFormed_kind hfresh).mpr ha
    unfold Kind.rename at hrenamed
    exact hrenamed
  have hkeys : fieldMeanings id refs' (fields.map (Field.map (Kind.rename old outer'))) =
      fieldMeanings id refs fields :=
    fieldMeanings_rename fun f hf target htarget =>
      h ((hkinds f hf).targets target htarget)
        (hclear'.imp_right fun hnew => ⟨hnew.1, (hnew.2 f hf).targets target htarget⟩)
  rw [recordMeaning_eq halone hfields, recordMeaning_eq halone' hfields', hkeys]
  refine formMeaning_rename (hclear'.imp_right ?_) r.config _
  rintro ⟨rfl, hconfined⟩ f hf
  exact (hconfined f hf).self.1

/-- What is behind a reference means the same whatever the parameter is called in it. The induction is
on how deep the values are that the meaning is for. -/
theorem Confines.refs_rename (hr : r.Confines owner old scope heirs) (hfresh : r.Fresh new)
    (hwell : r.WellFormed) (b : Nat) {target : Target} (h : target.WellFormed r)
    (hclear : Clear old new outer scope target) :
    (r.rename owner old new).refs id b (target.rename old outer) = r.refs id b target := by
  induction b generalizing target outer with
  | zero => rfl
  | succ b ih =>
    cases target with
    | bound name => exact h.elim
    | shape registry name args => exact hr.recordMeaning_rename hfresh hwell h hclear ih
    | forward registry name args =>
      have hcontains : (r.rename owner old new).contains = r.contains :=
        (hr.translates hfresh old).contains_eq
      unfold Target.rename refs
      rw [hcontains]
      by_cases hname : r.contains name = true
      · rw [if_pos hname, if_pos hname]
        exact hr.recordMeaning_rename hfresh hwell (Kind.wellFormed_of_forward h hname) hclear.behind ih
      · rw [if_neg hname, if_neg hname, builtin?_rename]
        rfl

theorem Confines.meaning_rename (hr : r.Confines owner old scope heirs) (hfresh : r.Fresh new)
    (hwell : r.WellFormed) (b : Nat) {k : Kind} (hk : k.WellFormed r) :
    k.meaning id ((r.rename owner old new).refs id b) = k.meaning id (r.refs id b) := by
  have hrenamed : (k.rename old old).meaning id ((r.rename owner old new).refs id b) =
      k.meaning id (r.refs id b) :=
    Kind.meaning_rename fun target htarget =>
      hr.refs_rename hfresh hwell b (hk.targets target htarget) (.inl rfl)
  rwa [Kind.rename_self] at hrenamed

end Registry

end

/-! ## Callers -/

/-- After a parameter was renamed that stays apart from others of its name, a registry answers to a
derivation with well-formed arguments as before, and the specs that it hands out have the same outcomes
and the same reports, whatever either of them is asked for before and after. -/
theorem Caller.derive_eq_of_rename {r : Registry} (hr : r.WellFormed) {owner old new : String}
    {scope heirs : String → Prop} (hfresh : r.Fresh new) (hconfines : r.Confines owner old scope heirs)
    (name : String) {args : List Kind} (hargs : ∀ k ∈ args, k.WellFormed r)
    (before before' : List Call) :
    let c := ((Caller.of r).run 0 before).2
    let c' := ((Caller.of (r.rename owner old new)).run 0 before').2
    ∃ answer d d', c.call 0 (.derive name args) = (answer, d) ∧
      c'.call 0 (.derive name args) = (answer, d') ∧
      (answer = .made ↔ r.Takes name args.length) ∧
      (answer = .made → ∀ after after' : List Call,
        (∀ v, ∃ outcome,
          ((d.run 0 after).2.call 0 (.conform c.specs.length v)).1 = .conformed outcome ∧
          ((d'.run 0 after').2.call 0 (.conform c'.specs.length v)).1 = .conformed outcome) ∧
        ∀ path v, ∃ problems,
          ((d.run 0 after).2.call 0 (.explain c.specs.length path v)).1 = .explained problems ∧
          ((d'.run 0 after').2.call 0 (.explain c'.specs.length path v)).1 = .explained problems) := by
  have ht := hconfines.translates hfresh old
  have hargs' : ∀ k ∈ args, k.WellFormed (r.rename owner old new) := fun k hk => by
    rw [← Kind.rename_self k, hconfines.wellFormed_kind hfresh]
    exact hargs k hk
  have happlied : ∀ {e}, r.applied (name, args) = .error e →
      (r.rename owner old new).applied (name, args) = .error e := by
    intro e he
    rw [ht.applied name rfl, he]
    rfl
  exact derive_eq_of_meaning_eq hr ((hconfines.wellFormed hfresh).mpr hr) hargs hargs' ht.takes
    happlied (fun hk b => hconfines.meaning_rename hfresh hr b hk) before before'

/-- Boxes, alone, in pairs and with a label. A pair says what is in its box, and a labelled box does
not. -/
def Registry.boxes : Registry :=
  ⟨"shapes", .default,
    [⟨"Box", ["T"], [⟨"item", .placeholder "T"⟩,
        ⟨"inner", .optional (.record "Box" [.placeholder "T"])⟩], []⟩,
      ⟨"Pair", ["T"], [⟨"second", .placeholder "T"⟩], [⟨"Box", [.placeholder "T"]⟩]⟩,
      ⟨"Labelled", [], [⟨"label", .leaf .string⟩], [⟨"Box", []⟩]⟩]⟩

/-- Pairs of numbers, after other derivations from either registry. -/
theorem Caller.derive_eq_of_rename_boxes :
    let scope := fun name => name = "Box" ∨ name = "Labelled"
    let c := ((Caller.of .boxes).run 0 [.derive "Missing" []]).2
    let c' := ((Caller.of (Registry.boxes.rename "Box" "T" "U")).run 0 [.derive "Labelled" []]).2
    Registry.boxes.WellFormed ∧ Registry.boxes.Fresh "U" ∧
      Registry.boxes.Confines "Box" "T" scope (· = "Labelled") ∧
      (∀ k ∈ [Kind.leaf .int], k.WellFormed .boxes) ∧
      ∃ answer d d', c.call 0 (.derive "Pair" [.leaf .int]) = (answer, d) ∧
        c'.call 0 (.derive "Pair" [.leaf .int]) = (answer, d') ∧
        (answer = .made ↔ Registry.boxes.Takes "Pair" 1) ∧
        (answer = .made → ∀ after after' : List Call,
          (∀ v, ∃ outcome,
            ((d.run 0 after).2.call 0 (.conform c.specs.length v)).1 = .conformed outcome ∧
            ((d'.run 0 after').2.call 0 (.conform c'.specs.length v)).1 = .conformed outcome) ∧
          ∀ path v, ∃ problems,
            ((d.run 0 after).2.call 0 (.explain c.specs.length path v)).1 = .explained problems ∧
            ((d'.run 0 after').2.call 0 (.explain c'.specs.length path v)).1 =
              .explained problems) :=
  have hr : Registry.boxes.WellFormed :=
    ⟨by decide +kernel, by decide +kernel,
      Registry.acyclic_of_rank (fun name => if name = "Box" then 0 else 1) (by decide +kernel)⟩
  have hfresh : Registry.boxes.Fresh "U" := by decide +kernel
  have hconfines : Registry.boxes.Confines "Box" "T" (fun name => name = "Box" ∨ name = "Labelled")
      (· = "Labelled") :=
    ⟨by decide, by decide +kernel, by decide +kernel, by decide +kernel, by decide +kernel,
      by decide +kernel, by decide +kernel⟩
  have hargs : ∀ k ∈ [Kind.leaf .int], k.WellFormed .boxes := by decide +kernel
  ⟨hr, hfresh, hconfines, hargs,
    derive_eq_of_rename hr hfresh hconfines "Pair" hargs [.derive "Missing" []]
      [.derive "Labelled" []]⟩

/-- A row that extends an entry and gives no argument for the entry's parameter, which is called as its
own. -/
def Registry.rows : Registry :=
  ⟨"shapes", .default,
    [⟨"Entry", ["T"], [⟨"key", .placeholder "T"⟩], []⟩,
      ⟨"Row", ["T"], [⟨"cell", .placeholder "T"⟩], [⟨"Entry", []⟩]⟩]⟩

/-- The entry's parameter is taken for the row's. So key and cell have to be of one kind, and no longer
have to be after the row's parameter is renamed. -/
theorem Caller.derive_rows_ne :
    let v := Value.object [("key", .int 1), ("cell", .string "x")]
    let calls := [Call.derive "Row" [], .conform 0 v]
    Registry.rows.WellFormed ∧ Registry.rows.Fresh "U" ∧
      ((Caller.of .rows).run 0 calls).1 = [.made, .conformed .invalid] ∧
      ((Caller.of (Registry.rows.rename "Row" "T" "U")).run 0 calls).1 =
        [.made, .conformed (.valid v)] := by
  refine ⟨⟨by decide +kernel, by decide +kernel, ?_⟩, by decide +kernel, ?_, ?_⟩
  · exact Registry.acyclic_of_rank (fun name => if name = "Entry" then 0 else 1) (by decide +kernel)
  · decide +kernel
  · decide +kernel

end Conform

import Conform.Proofs.Kind.Matches
import Conform.Proofs.Kind.Resolves
import Conform.Proofs.Session.Calls
/-!
Derived specs accept what matches their kinds. In a well-formed registry no derivation of a
well-formed kind can fail, so looks behind lazy references find the same whenever they are made, and
nothing that is called in between changes what a spec accepts.
-/

namespace Conform

namespace Registry

section
variable {id : Nat} {r : Registry}

theorem contains_of_fieldsOf {a : Applied} {fields : List Field} (h : r.fieldsOf a = .ok fields) :
    r.contains a.1 = true := by
  obtain ⟨_, happlied, _⟩ := bind_eq_ok.mp h
  have hshape := lookup_eq_ok.mp (applied_eq_ok.mp happlied).1
  unfold contains
  rw [hshape]
  rfl

theorem WellFormed.leads (hr : r.WellFormed) {target target' : Target} (h : target.WellFormed r)
    (hleads : r.Leads id target target') : target'.WellFormed r := by
  obtain ⟨a, fields, f, ha, hfields, hf, hmem⟩ := hleads
  have hrecord : (Kind.record a.1 a.2).WellFormed r := by
    cases target with
    | bound name => cases ha
    | shape registry name args =>
      cases ha
      exact h
    | forward registry name args =>
      cases ha
      exact Kind.wellFormed_of_forward h (contains_of_fieldsOf hfields)
  obtain ⟨fields', hfields', hwell⟩ := hr.fieldsOf hrecord
  cases hfields.symm.trans hfields'
  exact (hwell f hf).targets _ hmem

theorem WellFormed.found (hr : r.WellFormed) {target : Target} (h : target.WellFormed r) :
    target.Found r := by
  have hfields : ∀ {name args}, (Kind.record name args).WellFormed r →
      ∃ fields, r.fieldsOf (name, args) = .ok fields := by
    intro name args hrecord
    obtain ⟨fields, hfields, _⟩ := @WellFormed.fieldsOf r hr (name, args) hrecord
    exact ⟨fields, hfields⟩
  cases target with
  | bound name => exact h.elim
  | shape registry name args => exact hfields h
  | forward registry name args =>
    by_cases hname : r.contains name = true
    · simp only [Target.Found, hname, if_true]
      exact hfields (Kind.wellFormed_of_forward h hname)
    · rcases (Kind.wellFormed_forward.mp h).1 with ⟨shape, hshape, _⟩ | ⟨_, hbuiltin⟩
      · exact absurd (by unfold contains; rw [hshape]; rfl) hname
      · simp only [Target.Found, hname, Bool.false_eq_true, if_false]
        exact hbuiltin

/-- All that a well-formed reference leads to is well-formed, so all of it is found. -/
theorem WellFormed.resolves (hr : r.WellFormed) {target : Target} (h : target.WellFormed r) :
    target.Resolves id r := by
  intro target' hleads
  refine hr.found ?_
  induction hleads with
  | refl => exact h
  | tail _ hstep ih => exact hr.leads ih hstep

/-- Looks behind well-formed references are settled. -/
theorem WellFormed.settled (hr : r.WellFormed) :
    Settled id r r.BuiltinUnregistered (Target.WellFormed r) where
  toClosed := closed_builtinUnregistered id r
  seek_eq target done h := (settled_resolves id r).seek_eq target done (hr.resolves h)
  alone a h := (settled_resolves id r).alone a (hr.resolves h)
  notBuiltin _ _ h := h
  fields h hfields f hf _ hmem := hr.leads h ⟨_, _, f, rfl, hfields, hf, hmem⟩
  forward h hname := Kind.wellFormed_of_forward h hname

end

end Registry

/-- In a well-formed registry all references in a well-formed kind resolve. -/
theorem Kind.WellFormed.resolves {id : Nat} {r : Registry} (hr : r.WellFormed) {k : Kind}
    (hk : k.WellFormed r) : k.Resolves id r :=
  fun target hmem => hr.resolves (hk.targets target hmem)

section
variable {r : Registry}

/-- What a well-formed kind reaches is well-formed too, unless it is a record that a builtin name would
mean if there were a shape of that name. -/
theorem Kind.WellFormed.of_reaches (hr : r.WellFormed) {k part : Kind} (h : r.Reaches k part)
    (hk : k.WellFormed r ∨ ∃ name args, k = .record name args ∧ r.contains name = false) :
    part.WellFormed r ∨ ∃ name args, part = .record name args ∧ r.contains name = false := by
  induction h with
  | refl => exact hk
  | item _ ih =>
    rcases hk with hk | ⟨_, _, heq, _⟩
    · exact ih (.inl (wellFormed_list.mp hk))
    · cases heq
  | alternative hmem _ ih =>
    rcases hk with hk | ⟨_, _, heq, _⟩
    · exact ih (.inl (wellFormed_union.mp hk _ hmem))
    · cases heq
  | @field name args fields f _ hfields hf _ ih =>
    have hname : r.contains name = true := Registry.contains_of_fieldsOf hfields
    rcases hk with hk | ⟨_, _, heq, hunknown⟩
    · obtain ⟨fields', hfields', hwell⟩ := @Registry.WellFormed.fieldsOf r hr (name, args) hk
      cases hfields.symm.trans hfields'
      exact ih (.inl (hwell f hf))
    · cases heq
      cases hname.symm.trans hunknown
  | @behind name args _ _ ih =>
    rcases hk with hk | ⟨_, _, heq, _⟩
    · cases hname : r.contains name with
      | true => exact ih (.inl (wellFormed_of_forward hk hname))
      | false => exact ih (.inr ⟨name, args, rfl, hname⟩)
    · cases heq

/-- Every shape that a well-formed kind leads to can be derived by itself. -/
theorem Kind.WellFormed.leadsOnlyTo_alone (hr : r.WellFormed) {k : Kind} (hk : k.WellFormed r) :
    k.LeadsOnlyTo r fun a => r.contains a.1 = true → r.Alone a := by
  intro a ha hname
  rcases of_reaches hr ha (.inl hk) with hwell | ⟨_, _, heq, hunknown⟩
  · exact hr.alone hwell
  · cases heq
    cases hname.symm.trans hunknown

end

/-- The spec of a well-formed kind can be had at any time, and from then on it accepts the values
that match the kind. -/
theorem Caller.conform_isValid_iff_matches {r : Registry} (hr : r.WellFormed) {k : Kind}
    (hk : k.WellFormed r) (before after : List Call) (v : Value) :
    let c := ((Caller.of r).run 0 before).2
    ∃ c', c.call 0 (.specFor k) = (.made, c') ∧
      ∃ outcome, ((c'.run 0 after).2.call 0 (.conform c.specs.length v)).1 = .conformed outcome ∧
        (outcome.isValid = true ↔ Matches r v k) := by
  intro c
  have hS : Settled 0 r r.BuiltinUnregistered (Target.WellFormed r) := hr.settled
  obtain ⟨kinds, hc⟩ := (Caller.Sound.of r r.BuiltinUnregistered).run hS.toClosed before
  rw [List.nil_append] at hc
  have hQ : ∀ a ∈ (Registry.attemptAll (r.start r.config.memoize) k.records
      (c.session.kept 0)).2, r.BuiltinUnregistered (.shape 0 a.1 a.2) := fun _ _ => trivial
  rcases hc.specFor hQ with ⟨_, c', hcall, hc'⟩ | ⟨e, herror, _⟩
  · refine ⟨c', hcall, ?_⟩
    obtain ⟨more, hafter⟩ := hc'.run hS.toClosed after
    have hkind := hc.kind_of_next k more
    rcases hafter.conform c.specs.length v (R := fun _ outcome =>
        outcome = (k.meaning 0 (r.refs 0 (v.depth + 1))).conform v)
      (fun {j s cells n} hj hstands hv => by
        cases hkind.symm.trans hj
        exact (hstands.implements_meaning hS hk.targets hv (Nat.lt_succ_self _)).conform) with
      ⟨hnone, _⟩ | ⟨j, outcome, c'', _, hconform, rfl, _⟩
    · cases hkind.symm.trans hnone
    · refine ⟨_, congrArg Prod.fst hconform, ?_⟩
      exact Kind.meaning_isValid_iff_matches hr hk (Nat.lt_succ_self _)
  · cases (hr.attemptAll_ok hk _ _).symm.trans herror

/-- Nodes of a chain, with values of one kind, a name, and a note that a builtin name stands for. -/
def Registry.chain : Registry :=
  ⟨"shapes", .default,
    [⟨"Named", [], [⟨"name", .leaf .string⟩], []⟩,
      ⟨"Node", ["T"], [⟨"value", .placeholder "T"⟩, ⟨"note", .forward "str" []⟩,
        ⟨"next", .optional (.record "Node" [.placeholder "T"])⟩], [⟨"Named", []⟩]⟩]⟩

theorem Registry.wellFormed_chain : chain.WellFormed where
  kinds := by decide +kernel
  parents := by decide +kernel
  acyclic := acyclic_of_rank (fun name => if name = "Node" then 1 else 0) (by decide +kernel)

/-- A chain of numbers, held against the spec after a derivation that failed and a check. -/
theorem Caller.conform_isValid_iff_matches_chain :
    let c := ((Caller.of .chain).run 0 [.derive "Missing" []]).2
    Registry.chain.WellFormed ∧ (Kind.record "Node" [.leaf .int]).WellFormed .chain ∧
      ∃ c', c.call 0 (.specFor (.record "Node" [.leaf .int])) = (.made, c') ∧
        ∃ outcome, ((c'.run 0 [.conform 0 .null]).2.call 0 (.conform c.specs.length
            (.object [("name", .string "a"), ("next", .null), ("note", .string "b"),
              ("value", .int 1)]))).1 = .conformed outcome ∧
          (outcome.isValid = true ↔ Matches .chain
            (.object [("name", .string "a"), ("next", .null), ("note", .string "b"),
              ("value", .int 1)]) (.record "Node" [.leaf .int])) :=
  have hk : (Kind.record "Node" [.leaf .int]).WellFormed .chain := by decide +kernel
  ⟨Registry.wellFormed_chain, hk,
    conform_isValid_iff_matches Registry.wellFormed_chain hk [.derive "Missing" []]
      [.conform 0 .null] _⟩

end Conform

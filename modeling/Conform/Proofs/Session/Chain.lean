import Conform.Proofs.Registry.Chain
import Conform.Proofs.Session.Events
import Conform.Proofs.Session.Normal
/-!
Records of chains. The fields of the last shape are written down from the declarations along the chain.
If no placeholder is left in the arguments, none is left in the fields, and the record that is derived
is a dictionary of them, without a check that placeholders are taken consistently.
-/

namespace Conform

theorem placeholderGroups_of_closed {fields : List Field} (h : ∀ f ∈ fields, f.kind.ClosedBy []) :
    Session.placeholderGroups fields = [] := by
  refine List.eq_nil_iff_forall_not_mem.mpr fun group hgroup => ?_
  obtain ⟨f, hf, hkind⟩ := Session.exists_field_of_mem_placeholderGroups hgroup
  have hnone := h f hf group.placeholder (hkind ▸ List.mem_singleton_self _)
  cases hnone

theorem Registry.fieldsOf_eq {r : Registry} {shape : Shape} (hshape : r.shape? shape.name = some shape)
    {args : List Kind} (hlength : args.length = shape.params.length) :
    r.fieldsOf (shape.name, args) = r.effectiveFields shape (bind shape.params args) := by
  have happlied : r.applied (shape.name, args) = .ok shape :=
    applied_eq_ok.mpr ⟨lookup_eq_ok.mpr hshape, checkArity_eq_ok.mpr (.inr hlength)⟩
  unfold fieldsOf
  rw [happlied]
  rfl

section
variable {id : Nat} {r : Registry} {Q : Target → Prop} {cells : List Target} {s t : Session}
  {name : String} {args : List Kind} {spec : Spec}

/-- A derivation below no other shape makes the record itself and no lazy reference to it. -/
theorem Session.Intact.derived (h : Intact id r cells s)
    (hrun : (derive id name args).run s = (.ok spec, t)) :
    ∃ cells, StandsRecord id r (fun _ => True) cells (name, args) spec := by
  cases halive : s.isAlive id with
  | false =>
    have hdropped := run_specFor_dropped halive (.record name args)
    cases hdropped.symm.trans hrun
  | true =>
    obtain ⟨cells', hfollows⟩ := derive_follows name args cells s cells (s.kept id)
      (List.prefix_refl _) (h.sound halive) (tallies_kept s) fun _ _ => trivial
    rw [hrun] at hfollows
    obtain ⟨_, _, _, _, _, _, hstands⟩ := hfollows
    exact ⟨cells', hstands spec rfl⟩

theorem StandsRecord.plain (h : StandsRecord id r Q cells (name, args) spec) {fields : List Field}
    (hfields : r.fieldsOf (name, args) = .ok fields)
    (hgroups : Session.placeholderGroups fields = []) :
    ∃ i j keys label, spec = .decorated i (.dict j keys r.config.extra) label ∧
      keys.map (·.1) = fields.map (·.name) := by
  cases h with
  | mk _ hfields' hkeys hform =>
    cases hfields.symm.trans hfields'
    rw [hgroups] at hform
    cases hform with
    | plain i j label _ => exact ⟨i, j, _, label, rfl, hkeys.names_eq⟩
    | grouped i j k l label hsome => simp at hsome

end

/-- The last shape of a chain has the fields that are declared along it: each name where it is first
declared, with its last kind, in terms of the arguments. -/
theorem Chain.effectiveFields_flatten {r : Registry} {c : Chain} (hc : c.In r) {args : List Kind}
    (hlength : args.length = c.shape.params.length) :
    (∀ fields, r.effectiveFields c.shape (Registry.bind c.shape.params args) = .ok fields ↔
      c.Fits ∧ fields = Field.settled (c.declared.map
        (Field.map (Kind.substitute (Registry.bind c.shape.params args))))) ∧
    ((∀ a ∈ args, a.ClosedBy []) →
      ∀ fields, r.effectiveFields c.shape (Registry.bind c.shape.params args) = .ok fields →
        (∀ f ∈ fields, f.kind.ClosedBy []) ∧
        ∀ name config events,
          ((Caller.of ⟨name, config, []⟩).pass 0 events).session.registryAt? 0 = some r →
          ∀ spec s, (Session.derive 0 c.shape.name args).run
              ((Caller.of ⟨name, config, []⟩).pass 0 events).session = (.ok spec, s) →
            ∃ i j keys label, spec = .decorated i (.dict j keys r.config.extra) label ∧
              keys.map (·.1) = fields.map (·.name)) := by
  refine ⟨fun fields => hc.effectiveFields_eq_ok, fun hargs fields hfields => ?_⟩
  have hclosed := hc.closed_fields hlength hargs hfields
  refine ⟨hclosed, fun name config events hr spec s hrun => ?_⟩
  obtain ⟨r', kinds, _, cells, hintact, _⟩ := (Caller.Intact.of ⟨name, config, []⟩).pass events
  cases hintact.registry.symm.trans hr
  obtain ⟨cells', hstands⟩ := hintact.derived hrun
  refine hstands.plain ?_ (placeholderGroups_of_closed hclosed)
  rw [Registry.fieldsOf_eq hc.ends.registered hlength, hfields]

/-! ## Parameters that change places -/

/-- A pair, the pair turned around, and a turned pair of which one side is a text. -/
def Chain.turned : Chain :=
  .extend
    (.extend
      (.root ⟨"Pair", ["A", "B"],
        [⟨"first", .placeholder "A"⟩, ⟨"second", .list (.placeholder "B")⟩], []⟩)
      [.placeholder "B", .placeholder "A"]
      ⟨"Turned", ["A", "B"], [⟨"third", .placeholder "A"⟩],
        [⟨"Pair", [.placeholder "B", .placeholder "A"]⟩]⟩)
    [.placeholder "T", .leaf .string]
    ⟨"Labelled", ["T"], [⟨"third", .optional (.placeholder "T")⟩],
      [⟨"Turned", [.placeholder "T", .leaf .string]⟩]⟩

def pairs : Registry :=
  ⟨"pairs", .default,
    [⟨"Pair", ["A", "B"], [⟨"first", .placeholder "A"⟩, ⟨"second", .list (.placeholder "B")⟩], []⟩,
      ⟨"Turned", ["A", "B"], [⟨"third", .placeholder "A"⟩],
        [⟨"Pair", [.placeholder "B", .placeholder "A"]⟩]⟩,
      Chain.turned.shape]⟩

theorem Chain.turned_in : Chain.turned.In pairs := by
  have hends : ∀ c : Chain, c.shape ∈ pairs.shapes → pairs.shape? c.shape.name = some c.shape →
      c.shape.parents = c.parents → c.Ends pairs := by
    have hclosed : ∀ shape ∈ pairs.shapes, shape.Closed := by decide
    exact fun c hmem hregistered hparents => ⟨hregistered, hparents, hclosed _ hmem⟩
  refine ⟨⟨?_, ?_, fun _ => rfl⟩, ?_, fun _ => rfl⟩
  · exact hends (.root _) (by decide) (by decide) rfl
  · exact hends (.extend _ _ _) (by decide) (by decide) rfl
  · exact hends turned (by decide) (by decide) rfl

/-- The pairs' registry, open. -/
def pairing : Caller :=
  (Caller.of ⟨"pairs", .default, []⟩).pass 0 (pairs.shapes.map fun shape => .step (.register shape))

theorem registryAt?_pairing : pairing.session.registryAt? 0 = some pairs :=
  Registry.eq_some_of_parts (by decide +kernel)

/-- What the first shape calls its first parameter is the text in the end, and its second is what is
labelled. -/
theorem Chain.effectiveFields_flatten_turned :
    turned.In pairs ∧ [Kind.leaf .int].length = turned.shape.params.length ∧
      pairs.effectiveFields turned.shape (Registry.bind turned.shape.params [.leaf .int]) =
        .ok [⟨"first", .leaf .string⟩, ⟨"second", .list (.leaf .int)⟩,
          ⟨"third", .optional (.leaf .int)⟩] ∧
      ∃ i j keys label s, (Session.derive 0 "Labelled" [.leaf .int]).run pairing.session =
          (.ok (.decorated i (.dict j keys .ignore) label), s) ∧
        keys.map (·.1) = ["first", "second", "third"] := by
  obtain ⟨hflatten, hplain⟩ := effectiveFields_flatten turned_in (rfl : [Kind.leaf .int].length = 1)
  have hfits : turned.Fits := by
    refine ⟨⟨trivial, fun h => ?_⟩, fun h => ?_⟩
    · cases h
    · cases h
  have hfields := (hflatten [⟨"first", .leaf .string⟩, ⟨"second", .list (.leaf .int)⟩,
    ⟨"third", .optional (.leaf .int)⟩]).mpr ⟨hfits, by decide⟩
  refine ⟨turned_in, rfl, hfields, ?_⟩
  have hmade : (pairing.keep ((Session.derive 0 "Labelled" [.leaf .int]).run pairing.session)).1 =
      .made := by decide +kernel
  rcases hrun : (Session.derive 0 "Labelled" [.leaf .int]).run pairing.session with ⟨e | spec, s⟩
  · rw [hrun] at hmade
    cases hmade
  · obtain ⟨_, hrecord⟩ := hplain (by decide) _ hfields
    obtain ⟨i, j, keys, label, rfl, hkeys⟩ := hrecord _ _ _ registryAt?_pairing spec s hrun
    exact ⟨i, j, keys, label, s, rfl, hkeys⟩

end Conform

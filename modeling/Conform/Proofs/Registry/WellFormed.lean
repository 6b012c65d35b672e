import Conform.Proofs.Kind.Throughout
import Conform.Proofs.Registry.Left
/-!
Well-formed registries. Every name in them means something, every reference has as many arguments as
what it refers to takes, and no shape is its own ancestor. Every shape in such a registry has fields
and can be derived by itself, and so can all that its fields mention.
-/

namespace Conform

namespace Registry

/-- There is a shape of the name, and it takes so many arguments. -/
def Takes (r : Registry) (name : String) (n : Nat) : Prop :=
  ∃ shape, r.shape? name = some shape ∧ (n = 0 ∨ n = shape.params.length)

instance (r : Registry) (name : String) (n : Nat) : Decidable (r.Takes name n) :=
  decidable_of_iff (∃ shape ∈ r.shape? name, n = 0 ∨ n = shape.params.length) Iff.rfl

/-- The reference that a kind is means something, if it is one. -/
def Refers (r : Registry) : Kind → Prop
  | .record name args => r.Takes name args.length
  | .forward name args =>
    r.Takes name args.length ∨ r.contains name = false ∧ (r.builtin? name args).isSome = true
  | _ => True

instance (r : Registry) : DecidablePred r.Refers
  | .record name args => inferInstanceAs (Decidable (r.Takes name args.length))
  | .forward name args =>
    inferInstanceAs (Decidable
      (r.Takes name args.length ∨ r.contains name = false ∧ (r.builtin? name args).isSome = true))
  | .leaf _ | .nothing | .list _ | .union _ | .placeholder _ => inferInstanceAs (Decidable True)

/-- The one shape extends the other. -/
def HasParent (r : Registry) (name parent : String) : Prop :=
  ∃ shape ∈ r.shapes, shape.name = name ∧ ∃ p ∈ shape.parents, p.shape = parent

end Registry

/-- Every reference in the kind means something, at any depth. -/
def Kind.WellFormed (r : Registry) (k : Kind) : Prop := k.Throughout r.Refers

instance (r : Registry) : DecidablePred (Kind.WellFormed r) :=
  fun k => inferInstanceAs (Decidable (k.Throughout r.Refers))

structure Registry.WellFormed (r : Registry) : Prop where
  kinds : ∀ shape ∈ r.shapes, ∀ k ∈ shape.kinds, k.WellFormed r
  parents : ∀ shape ∈ r.shapes, ∀ p ∈ shape.parents, r.Takes p.shape p.args.length
  acyclic : ∀ name, ¬ Relation.TransGen r.HasParent name name

/-- No shape is its own ancestor if all parents rank below. -/
theorem Registry.acyclic_of_rank {r : Registry} (rank : String → Nat)
    (h : ∀ shape ∈ r.shapes, ∀ p ∈ shape.parents, rank p.shape < rank shape.name) (name : String) :
    ¬ Relation.TransGen r.HasParent name name := by
  have hstep : ∀ {a b}, r.HasParent a b → rank b < rank a := by
    rintro _ _ ⟨shape, hshape, rfl, p, hp, rfl⟩
    exact h shape hshape p hp
  have hlt : ∀ {b}, Relation.TransGen r.HasParent name b → rank b < rank name := by
    intro b hb
    induction hb with
    | single hparent => exact hstep hparent
    | tail _ hparent ih => exact Nat.lt_trans (hstep hparent) ih
  exact fun hself => Nat.lt_irrefl _ (hlt hself)

/-- Without parents only the references in the shapes matter. -/
theorem Registry.WellFormed.of_parentless {r : Registry}
    (hparents : ∀ shape ∈ r.shapes, shape.parents = [])
    (hkinds : ∀ shape ∈ r.shapes, ∀ k ∈ shape.kinds, k.WellFormed r) : r.WellFormed := by
  have hnone : ∀ shape ∈ r.shapes, ∀ p, p ∉ shape.parents := fun shape hshape p hp => by
    rw [hparents shape hshape] at hp
    cases hp
  exact ⟨hkinds, fun shape hshape p hp => absurd hp (hnone shape hshape p),
    Registry.acyclic_of_rank (fun _ => 0) fun shape hshape p hp => absurd hp (hnone shape hshape p)⟩

/-! ## Kinds -/

namespace Kind

section
variable {r : Registry}

theorem wellFormed_record {name : String} {args : List Kind} :
    (record name args).WellFormed r ↔ r.Takes name args.length ∧ ∀ k ∈ args, k.WellFormed r :=
  throughout_record

theorem wellFormed_forward {name : String} {args : List Kind} :
    (forward name args).WellFormed r ↔
      r.Refers (forward name args) ∧ ∀ k ∈ args, k.WellFormed r :=
  throughout_forward

theorem wellFormed_list {item : Kind} : (list item).WellFormed r ↔ item.WellFormed r :=
  throughout_list.trans (and_iff_right trivial)

theorem wellFormed_union {ks : List Kind} :
    (union ks).WellFormed r ↔ ∀ k ∈ ks, k.WellFormed r :=
  throughout_union.trans (and_iff_right trivial)

/-- Substitution changes no name and no number of arguments. -/
theorem steady_refers (r : Registry) : Steady r.Refers := by
  intro bindings k hk h
  cases k with
  | leaf | nothing | list | union => exact h
  | placeholder p => exact absurd rfl (hk p)
  | record name args =>
    change r.Takes name (substituteAll bindings args).length
    rw [substituteAll_eq_map, List.length_map]
    exact h
  | forward name args =>
    unfold substitute
    rw [substituteAll_eq_map]
    rcases h with h | ⟨hname, hbuiltin⟩
    · refine .inl ?_
      rwa [List.length_map]
    · refine .inr ⟨hname, ?_⟩
      unfold Registry.builtin? at hbuiltin ⊢
      rwa [List.isEmpty_map]

end

end Kind

/-! ## Fields -/

namespace Registry

section
variable {r : Registry}

theorem takes_of_applied {a : Applied} {shape : Shape} (h : r.applied a = .ok shape) :
    r.Takes a.1 a.2.length := by
  obtain ⟨hlookup, harity⟩ := applied_eq_ok.mp h
  exact ⟨shape, lookup_eq_ok.mp hlookup, checkArity_eq_ok.mp harity⟩

theorem Takes.lookup {name : String} {n : Nat} (h : r.Takes name n) :
    ∃ shape, r.lookup name = .ok shape ∧ checkArity shape n = .ok () ∧
      shape ∈ r.shapes ∧ shape.name = name := by
  obtain ⟨shape, hshape, hn⟩ := h
  refine ⟨shape, ?_, if_pos hn, List.mem_of_find?_eq_some hshape, ?_⟩
  · unfold Registry.lookup
    rw [hshape]
  · simpa using List.find?_some hshape

theorem inheritAll_ok {fieldsOf : Shape → Bindings → Except SpecError (List Field)}
    {bindings : Bindings} {parents : List Parent}
    (hparents : ∀ parent ∈ parents, ∃ shape inherited, r.lookup parent.shape = .ok shape ∧
      checkArity shape parent.args.length = .ok () ∧
      fieldsOf shape (Registry.bind shape.params (parent.args.map (Kind.substitute bindings))) =
        .ok inherited)
    (fields : List Field) : ∃ all, r.inheritAll fieldsOf bindings fields parents = .ok all := by
  induction parents generalizing fields with
  | nil => exact ⟨fields, rfl⟩
  | cons parent rest ih =>
    obtain ⟨shape, inherited, hshape, hfit, hinherited⟩ := hparents parent List.mem_cons_self
    obtain ⟨all, hall⟩ :=
      ih (fun q hq => hparents q (List.mem_cons_of_mem parent hq)) (inherit fields inherited)
    refine ⟨all, ?_⟩
    unfold inheritAll
    exact bind_eq_ok.mpr ⟨shape, hshape, bind_eq_ok.mpr ⟨(), hfit,
      bind_eq_ok.mpr ⟨inherited, hinherited, hall⟩⟩⟩

/-! ### Lineages -/

/-- The names on the lineage are those of descendants of the shape, and none stands there twice. -/
structure Descends (r : Registry) (lineage : List String) (name : String) : Prop where
  nodup : lineage.Nodup
  registered : lineage ⊆ r.shapes.map (·.name)
  below : ∀ l ∈ lineage, Relation.TransGen r.HasParent l name

theorem Descends.nil (r : Registry) (name : String) : r.Descends [] name :=
  ⟨List.nodup_nil, List.nil_subset _, fun _ h => absurd h List.not_mem_nil⟩

theorem Descends.not_mem (hr : r.WellFormed) {lineage : List String} {name : String}
    (h : r.Descends lineage name) : name ∉ lineage :=
  fun hmem => hr.acyclic name (h.below name hmem)

theorem Descends.cons (hr : r.WellFormed) {lineage : List String} {shape : Shape}
    (h : r.Descends lineage shape.name) (hshape : shape ∈ r.shapes) {parent : Parent}
    (hparent : parent ∈ shape.parents) : r.Descends (shape.name :: lineage) parent.shape := by
  have hstep : r.HasParent shape.name parent.shape := ⟨shape, hshape, rfl, parent, hparent, rfl⟩
  refine ⟨List.nodup_cons.mpr ⟨h.not_mem hr, h.nodup⟩,
    List.cons_subset.mpr ⟨List.mem_map_of_mem hshape, h.registered⟩, fun l hl => ?_⟩
  rcases List.mem_cons.mp hl with rfl | hl
  · exact .single hstep
  · exact .tail (h.below l hl) hstep

/-- A step is left for the shape as long as there is one for every name off the lineage. -/
theorem Descends.length_lt (hr : r.WellFormed) {lineage : List String} {shape : Shape}
    (h : r.Descends lineage shape.name) (hshape : shape ∈ r.shapes) :
    lineage.length < r.shapes.length := by
  have hsubset : shape.name :: lineage ⊆ r.shapes.map (·.name) :=
    List.cons_subset.mpr ⟨List.mem_map_of_mem hshape, h.registered⟩
  have hle := (List.nodup_cons.mpr ⟨h.not_mem hr, h.nodup⟩).length_le_of_subset hsubset
  rwa [List.length_map] at hle

theorem collectFields_ok (hr : r.WellFormed) {steps : Nat} {lineage : List String} {shape : Shape}
    (hlineage : r.Descends lineage shape.name) (hshape : shape ∈ r.shapes)
    (hsteps : steps + lineage.length = r.shapes.length) (bindings : Bindings) :
    ∃ fields, r.collectFields steps lineage shape bindings = .ok fields := by
  induction steps generalizing lineage shape bindings with
  | zero =>
    have hlt := hlineage.length_lt hr hshape
    omega
  | succ steps ih =>
    have hinherited : ∃ all, r.inheritAll (r.collectFields steps (shape.name :: lineage)) bindings []
        shape.parents = .ok all := by
      refine inheritAll_ok (fun parent hparent => ?_) []
      obtain ⟨found, hfound, hfit, hmem, hname⟩ := (hr.parents shape hshape parent hparent).lookup
      have hbelow : r.Descends (shape.name :: lineage) found.name :=
        hname ▸ hlineage.cons hr hshape hparent
      obtain ⟨inherited, hinherited⟩ := ih hbelow hmem (by rw [List.length_cons]; omega)
        (Registry.bind found.params (parent.args.map (Kind.substitute bindings)))
      exact ⟨found, inherited, hfound, hfit, hinherited⟩
    obtain ⟨all, hall⟩ := hinherited
    refine ⟨declareOwn bindings all shape.fields, ?_⟩
    unfold collectFields
    rw [if_neg (by rw [List.contains_eq_mem]; simpa using hlineage.not_mem hr)]
    exact bind_eq_ok.mpr ⟨all, hall, rfl⟩

/-- A shape with well-formed arguments has fields, and their kinds are well-formed. -/
theorem WellFormed.fieldsOf (hr : r.WellFormed) {a : Applied}
    (ha : (Kind.record a.1 a.2).WellFormed r) :
    ∃ fields, r.fieldsOf a = .ok fields ∧ ∀ f ∈ fields, f.kind.WellFormed r := by
  obtain ⟨htakes, hargs⟩ := Kind.wellFormed_record.mp ha
  obtain ⟨shape, hshape, hfit, hmem, _⟩ := htakes.lookup
  obtain ⟨fields, hfields⟩ := collectFields_ok hr (.nil r shape.name) hmem rfl
    (Registry.bind shape.params a.2)
  have hfieldsOf : r.fieldsOf a = .ok fields :=
    bind_eq_ok.mpr ⟨shape, applied_eq_ok.mpr ⟨hshape, hfit⟩, hfields⟩
  exact ⟨fields, hfieldsOf,
    throughout_fieldsOf (Kind.steady_refers r) hr.kinds hargs hfieldsOf⟩

/-! ## Derivations -/

mutual

theorem wellFormed_of_mem_records :
    ∀ {k : Kind}, k.WellFormed r → ∀ a ∈ k.records, (Kind.record a.1 a.2).WellFormed r
  | .leaf _, _ | .nothing, _ | .forward _ _, _ | .placeholder _, _ =>
    fun _ ha => absurd ha List.not_mem_nil
  | .record _ _, h => List.forall_mem_singleton.mpr h
  | .list item, h => wellFormed_of_mem_records (k := item) (Kind.wellFormed_list.mp h)
  | .union _, h => wellFormed_of_mem_recordsOfAll (Kind.wellFormed_union.mp h)

theorem wellFormed_of_mem_recordsOfAll :
    ∀ {ks : List Kind}, (∀ k ∈ ks, k.WellFormed r) →
      ∀ a ∈ Kind.recordsOfAll ks, (Kind.record a.1 a.2).WellFormed r
  | [], _ => fun _ ha => absurd ha List.not_mem_nil
  | k :: _, h => by
    intro a ha
    rcases List.mem_append.mp ha with ha | ha
    · exact wellFormed_of_mem_records (h k List.mem_cons_self) a ha
    · exact wellFormed_of_mem_recordsOfAll (fun j hj => h j (List.mem_cons_of_mem k hj)) a ha

end

theorem WellFormed.mentions (hr : r.WellFormed) {a b : Applied}
    (ha : (Kind.record a.1 a.2).WellFormed r) (h : r.Mentions a b) :
    (Kind.record b.1 b.2).WellFormed r := by
  obtain ⟨fields, hfields, hb⟩ := h
  obtain ⟨fields', hfields', hwell⟩ := hr.fieldsOf ha
  cases hfields.symm.trans hfields'
  obtain ⟨f, hf, hbf⟩ := List.mem_flatMap.mp hb
  exact wellFormed_of_mem_records (hwell f hf) b hbf

/-- Whatever a shape with well-formed arguments mentions has fields. -/
theorem WellFormed.alone (hr : r.WellFormed) {a : Applied} (ha : (Kind.record a.1 a.2).WellFormed r) :
    r.Alone a := by
  refine alone_of_fields fun b hb => ?_
  have hwell : (Kind.record b.1 b.2).WellFormed r := by
    induction hb with
    | refl => exact ha
    | tail _ hmentions ih => exact hr.mentions ih hmentions
  obtain ⟨fields, hfields, _⟩ := hr.fieldsOf hwell
  exact ⟨fields, hfields⟩

/-- Well-formed kinds can be derived, whatever is kept. -/
theorem WellFormed.attemptAll_ok (hr : r.WellFormed) {k : Kind} (hk : k.WellFormed r) (memoize : Bool)
    (done : List Applied) : (attemptAll (r.start memoize) k.records done).1 = .ok () :=
  attemptAll_ok_of_alone (fun a ha => hr.alone (wellFormed_of_mem_records hk a ha)) memoize done

end

end Registry

end Conform

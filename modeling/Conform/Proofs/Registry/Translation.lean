import Conform.Proofs.Registry.WellFormed
/-!
Registries in the terms of others. Where the kinds in the shapes of one registry are translations of
those in the other's, and replacing placeholders in them comes to translations as well, the fields of
a shape are those of the other with their kinds translated, whether they are its own or inherited. A
shape without fields has none in the other for the same reason.
-/

namespace Conform

def Field.map (g : Kind → Kind) (f : Field) : Field := ⟨f.name, g f.kind⟩

def Parent.map (g : Kind → Kind) (p : Parent) : Parent := ⟨p.shape, p.args.map g⟩

namespace Registry

section
variable {g h : Kind → Kind} {bindings bindings' : Bindings}

/-! ## Fields in other terms -/

theorem map_inherit (fields inherited : List Field) :
    (inherit fields inherited).map (Field.map g) =
      inherit (fields.map (Field.map g)) (inherited.map (Field.map g)) := by
  induction inherited generalizing fields with
  | nil => rfl
  | cons f inherited ih =>
    have hany : (fields.map (Field.map g)).any (fun e => decide (e.name = (f.map g).name)) =
        fields.any fun e => decide (e.name = f.name) := List.any_map
    rw [List.map_cons, inherit, inherit, List.foldl_cons, List.foldl_cons, hany]
    refine (ih _).trans ?_
    unfold inherit
    congr 1
    split
    · rfl
    · exact List.map_append

theorem map_declareField (field : Field) (fields : List Field) :
    (declareField field fields).map (Field.map g) =
      declareField (field.map g) (fields.map (Field.map g)) := by
  induction fields with
  | nil => rfl
  | cons f fields ih =>
    have hname : ((f.map g).name = (field.map g).name) = (f.name = field.name) := rfl
    rw [List.map_cons]
    unfold declareField
    simp only [hname]
    split
    · rfl
    · rw [List.map_cons, ih]

theorem map_declareOwn {own : List Field}
    (hown : ∀ f ∈ own, (h f.kind).substitute bindings' = g (f.kind.substitute bindings))
    (fields : List Field) :
    (declareOwn bindings fields own).map (Field.map g) =
      declareOwn bindings' (fields.map (Field.map g)) (own.map (Field.map h)) := by
  induction own generalizing fields with
  | nil => rfl
  | cons f own ih =>
    have hfield : Field.map g ⟨f.name, f.kind.substitute bindings⟩ =
        ⟨(f.map h).name, (f.map h).kind.substitute bindings'⟩ := by
      unfold Field.map
      rw [hown f List.mem_cons_self]
    refine (ih (fun e he => hown e (List.mem_cons_of_mem f he)) _).trans ?_
    rw [map_declareField, hfield]
    rfl

end

/-! ## Registries in other terms -/

/-- The shapes `tr shape` of the second registry are those of the first in other terms: their kinds are
translated by `inner shape`, and wherever a shape is read under bindings that belong together, what
comes of its kinds is translated by `g`. -/
structure Translates (r r' : Registry) (tr : Shape → Shape) (inner : Shape → Kind → Kind)
    (g : Kind → Kind) (Together : Shape → Bindings → Bindings → Prop) : Prop where
  shapes_eq : r'.shapes = r.shapes.map tr
  name_eq : ∀ shape, (tr shape).name = shape.name
  params_length : ∀ shape, (tr shape).params.length = shape.params.length
  fields_eq : ∀ shape, (tr shape).fields = shape.fields.map (Field.map (inner shape))
  parents_eq : ∀ shape, (tr shape).parents = shape.parents.map (Parent.map (inner shape))
  substitute_eq : ∀ {shape b b'}, shape ∈ r.shapes → Together shape b b' → ∀ k ∈ shape.kinds,
    (inner shape k).substitute b' = g (k.substitute b)
  extend : ∀ {shape b b'}, shape ∈ r.shapes → Together shape b b' → ∀ p ∈ shape.parents,
    ∀ {found}, r.lookup p.shape = .ok found → checkArity found p.args.length = .ok () →
      Together found (bind found.params (p.args.map (Kind.substitute b)))
        (bind (tr found).params ((p.args.map (Kind.substitute b)).map g))

section
variable {r r' : Registry} {tr : Shape → Shape} {inner : Shape → Kind → Kind} {g : Kind → Kind}
  {Together : Shape → Bindings → Bindings → Prop}

theorem Translates.shape?_eq (ht : Translates r r' tr inner g Together) (name : String) :
    r'.shape? name = (r.shape? name).map tr := by
  have hname : (fun shape : Shape => decide (shape.name = name)) ∘ tr =
      fun shape => decide (shape.name = name) := by
    funext shape
    exact congrArg (fun n => decide (n = name)) (ht.name_eq shape)
  unfold shape?
  rw [ht.shapes_eq, List.find?_map, hname]

theorem Translates.contains_eq (ht : Translates r r' tr inner g Together) :
    r'.contains = r.contains := by
  funext name
  unfold contains
  rw [ht.shape?_eq, Option.isSome_map]

theorem Translates.lookup_eq (ht : Translates r r' tr inner g Together) (name : String) :
    r'.lookup name = tr <$> r.lookup name := by
  unfold lookup
  rw [ht.shape?_eq]
  cases r.shape? name <;> rfl

/-! ### Fields -/

theorem Translates.checkArity_eq (ht : Translates r r' tr inner g Together) (shape : Shape)
    (n : Nat) : checkArity (tr shape) n = checkArity shape n := by
  unfold checkArity
  rw [ht.params_length, ht.name_eq]

theorem Translates.inheritAll (ht : Translates r r' tr inner g Together)
    {fieldsOf fieldsOf' : Shape → Bindings → Except SpecError (List Field)} {b b' : Bindings}
    {h : Kind → Kind} {parents : List Parent}
    (hargs : ∀ p ∈ parents, ∀ k ∈ p.args, (h k).substitute b' = g (k.substitute b))
    (hof : ∀ p ∈ parents, ∀ {found}, r.lookup p.shape = .ok found →
      checkArity found p.args.length = .ok () →
      fieldsOf' (tr found) (bind (tr found).params ((p.args.map (Kind.substitute b)).map g)) =
        List.map (Field.map g) <$>
          fieldsOf found (bind found.params (p.args.map (Kind.substitute b))))
    (fields : List Field) :
    r'.inheritAll fieldsOf' b' (fields.map (Field.map g)) (parents.map (Parent.map h)) =
      List.map (Field.map g) <$> r.inheritAll fieldsOf b fields parents := by
  induction parents generalizing fields with
  | nil => rfl
  | cons parent rest ih =>
    have hsame : (parent.args.map h).map (Kind.substitute b') =
        (parent.args.map (Kind.substitute b)).map g := by
      rw [List.map_map, List.map_map]
      exact List.map_congr_left fun k hk => hargs parent List.mem_cons_self k hk
    have hrest := ih (fun p hp => hargs p (List.mem_cons_of_mem parent hp))
      (fun p hp => hof p (List.mem_cons_of_mem parent hp))
    have hfirst := @hof parent List.mem_cons_self
    rw [List.map_cons]
    unfold Registry.inheritAll
    simp only [Parent.map, ht.lookup_eq, hsame, List.length_map]
    cases hfound : r.lookup parent.shape with
    | error e => rfl
    | ok shape =>
      change (checkArity (tr shape) parent.args.length >>= _) =
        _ <$> (checkArity shape parent.args.length >>= _)
      rw [ht.checkArity_eq]
      cases harity : checkArity shape parent.args.length with
      | error e => rfl
      | ok _ =>
        change (fieldsOf' (tr shape) _ >>= _) = _ <$> (fieldsOf shape _ >>= _)
        rw [hfirst hfound harity]
        cases fieldsOf shape (bind shape.params (parent.args.map (Kind.substitute b))) with
        | error e => rfl
        | ok inherited =>
          refine Eq.trans ?_ (hrest (inherit fields inherited))
          rw [map_inherit]
          rfl

/-- The induction is on the steps, which is on the lineage: the bindings of a parent belong together
if those of the shape do. -/
theorem Translates.collectFields (ht : Translates r r' tr inner g Together) (steps : Nat)
    (lineage : List String) {shape : Shape} (hshape : shape ∈ r.shapes) {b b' : Bindings}
    (hb : Together shape b b') :
    r'.collectFields steps lineage (tr shape) b' =
      List.map (Field.map g) <$> r.collectFields steps lineage shape b := by
  induction steps generalizing lineage shape b b' with
  | zero =>
    unfold Registry.collectFields
    rw [ht.name_eq]
    rfl
  | succ steps ih =>
    have hkinds := ht.substitute_eq hshape hb
    have hall := ht.inheritAll (h := inner shape)
      (fun p hp k hk => hkinds k (List.mem_append_right _ (List.mem_flatMap.mpr ⟨p, hp, hk⟩)))
      (fun p hp found hfound harity =>
        ih (shape.name :: lineage) (mem_of_lookup hfound) (ht.extend hshape hb p hp hfound harity))
      []
    unfold Registry.collectFields
    rw [ht.name_eq]
    split
    · rfl
    · rw [List.map_nil, ← ht.parents_eq] at hall
      rw [hall]
      cases r.inheritAll (r.collectFields steps (shape.name :: lineage)) b [] shape.parents with
      | error e => rfl
      | ok inherited =>
        refine congrArg Except.ok ?_
        rw [ht.fields_eq]
        exact (map_declareOwn (fun f hf => hkinds f.kind
          (List.mem_append_left _ (List.mem_map_of_mem hf))) inherited).symm

theorem Translates.applied (ht : Translates r r' tr inner g Together) (name : String)
    {args args' : List Kind} (hlength : args'.length = args.length) :
    r'.applied (name, args') = tr <$> r.applied (name, args) := by
  unfold Registry.applied
  rw [ht.lookup_eq, hlength]
  cases r.lookup name with
  | error e => rfl
  | ok shape =>
    change (checkArity (tr shape) args.length >>= _) = _ <$> (checkArity shape args.length >>= _)
    rw [ht.checkArity_eq]
    cases checkArity shape args.length <;> rfl

theorem Translates.fieldsOf (ht : Translates r r' tr inner g Together) (name : String)
    {args args' : List Kind} (hlength : args'.length = args.length)
    (hb : ∀ {shape}, r.lookup name = .ok shape → checkArity shape args.length = .ok () →
      Together shape (bind shape.params args) (bind (tr shape).params args')) :
    r'.fieldsOf (name, args') = List.map (Field.map g) <$> r.fieldsOf (name, args) := by
  unfold Registry.fieldsOf
  rw [ht.applied name hlength]
  cases happlied : r.applied (name, args) with
  | error e => rfl
  | ok shape =>
    obtain ⟨hfound, harity⟩ := applied_eq_ok.mp happlied
    change r'.effectiveFields (tr shape) (bind (tr shape).params args') = _
    unfold effectiveFields
    rw [ht.shapes_eq, List.length_map,
      ht.collectFields r.shapes.length [] (mem_of_lookup hfound) (hb hfound harity)]
    rfl

/-! ### Well-formedness -/

theorem Translates.takes (ht : Translates r r' tr inner g Together) {name : String} {n : Nat} :
    r'.Takes name n ↔ r.Takes name n := by
  unfold Takes
  rw [ht.shape?_eq]
  cases r.shape? name with
  | none => simp
  | some shape => simp [ht.params_length]

theorem Translates.kinds_eq (ht : Translates r r' tr inner g Together) (shape : Shape) :
    (tr shape).kinds = shape.kinds.map (inner shape) := by
  unfold Shape.kinds
  rw [ht.fields_eq, ht.parents_eq, List.map_append, List.map_map, List.map_map, List.map_flatMap,
    List.flatMap_map]
  rfl

theorem Translates.hasParent (ht : Translates r r' tr inner g Together) {name parent : String} :
    r'.HasParent name parent ↔ r.HasParent name parent := by
  unfold HasParent
  simp only [ht.shapes_eq, List.mem_map, exists_exists_and_eq_and, ht.name_eq, ht.parents_eq,
    Parent.map]

theorem Translates.wellFormed (ht : Translates r r' tr inner g Together)
    (hkinds : ∀ shape ∈ r.shapes, ∀ k ∈ shape.kinds,
      ((inner shape k).WellFormed r' ↔ k.WellFormed r)) :
    r'.WellFormed ↔ r.WellFormed := by
  have hparent : r'.HasParent = r.HasParent := by
    funext name parent
    exact propext ht.hasParent
  have hall : (∀ shape ∈ r'.shapes, ∀ k ∈ shape.kinds, k.WellFormed r') ↔
      ∀ shape ∈ r.shapes, ∀ k ∈ shape.kinds, k.WellFormed r := by
    rw [ht.shapes_eq, List.forall_mem_map]
    refine forall₂_congr fun shape hshape => ?_
    rw [ht.kinds_eq, List.forall_mem_map]
    exact forall₂_congr (hkinds shape hshape)
  have hlinks : (∀ shape ∈ r'.shapes, ∀ p ∈ shape.parents, r'.Takes p.shape p.args.length) ↔
      ∀ shape ∈ r.shapes, ∀ p ∈ shape.parents, r.Takes p.shape p.args.length := by
    rw [ht.shapes_eq, List.forall_mem_map]
    refine forall₂_congr fun shape _ => ?_
    rw [ht.parents_eq, List.forall_mem_map]
    refine forall₂_congr fun p _ => ?_
    rw [ht.takes]
    unfold Parent.map
    rw [List.length_map]
  constructor
  · exact fun h => ⟨hall.mp h.kinds, hlinks.mp h.parents, hparent ▸ h.acyclic⟩
  · exact fun h => ⟨hall.mpr h.kinds, hlinks.mpr h.parents, hparent.symm ▸ h.acyclic⟩

end

end Registry

end Conform

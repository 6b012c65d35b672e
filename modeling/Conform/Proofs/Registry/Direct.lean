import Conform.Proofs.Registry.Translation
/-!
Direct references in the place of forward ones. A forward reference to a registered shape refers to
the same shape as a direct one, and the two differ only in when they are looked at. With all of them
made direct, a registry has the same shapes with the same fields, and it is well-formed if and only if
it was before. Two registries are one but for which of their references are lazy, if they are equal
once all references are direct.
-/

namespace Conform

/-! ## Kinds -/

namespace Kind

mutual

/-- The kind with its forward references to known shapes made direct, at any depth. -/
def direct (known : String → Bool) : Kind → Kind
  | leaf k => leaf k
  | nothing => nothing
  | record name args => record name (directAll known args)
  | forward name args =>
    if known name then record name (directAll known args) else forward name (directAll known args)
  | list item => list (direct known item)
  | union ks => union (directAll known ks)
  | placeholder p => placeholder p

def directAll (known : String → Bool) : List Kind → List Kind
  | [] => []
  | k :: ks => direct known k :: directAll known ks

end

/-- What the placeholders stand for, made direct. -/
def directBindings (known : String → Bool) (bindings : Bindings) : Bindings :=
  bindings.map fun b => (b.1, b.2.direct known)

section
variable {known : String → Bool}

theorem directAll_eq_map (ks : List Kind) : directAll known ks = ks.map (direct known) := by
  induction ks with
  | nil => rfl
  | cons k ks ih => rw [directAll, ih, List.map_cons]

theorem length_directAll (ks : List Kind) : (directAll known ks).length = ks.length := by
  rw [directAll_eq_map, List.length_map]

theorem lookup_directBindings (p : String) (bindings : Bindings) :
    (directBindings known bindings).lookup p = (bindings.lookup p).map (direct known) := by
  induction bindings with
  | nil => rfl
  | cons b bindings ih =>
    have hhead : directBindings known (b :: bindings) =
        (b.1, b.2.direct known) :: directBindings known bindings := rfl
    rw [hhead, List.lookup_cons, List.lookup_cons, ih]
    cases p == b.1 <;> rfl

theorem bind_directAll (params : List String) (args : List Kind) :
    Registry.bind params (directAll known args) = directBindings known (Registry.bind params args) := by
  unfold Registry.bind directBindings
  rw [directAll_eq_map, List.zip_map_right]
  rfl

mutual

/-- References are made direct alike before and after placeholders are replaced. -/
theorem direct_substitute (bindings : Bindings) :
    ∀ k : Kind, (k.substitute bindings).direct known =
      (k.direct known).substitute (directBindings known bindings)
  | leaf _ | nothing => rfl
  | record name args => by
    simp only [substitute, direct]
    rw [directAll_substituteAll bindings args]
  | forward name args => by
    have hargs := directAll_substituteAll bindings args
    simp only [substitute, direct]
    split <;> simp only [substitute, hargs]
  | list item => by
    simp only [substitute, direct]
    rw [direct_substitute bindings item]
  | union ks => by
    simp only [substitute, direct]
    rw [directAll_substituteAll bindings ks]
  | placeholder p => by
    simp only [substitute, direct]
    rw [lookup_directBindings]
    cases bindings.lookup p <;> rfl

theorem directAll_substituteAll (bindings : Bindings) :
    ∀ ks : List Kind, directAll known (substituteAll bindings ks) =
      substituteAll (directBindings known bindings) (directAll known ks)
  | [] => rfl
  | k :: ks => by
    simp only [substituteAll, directAll]
    rw [direct_substitute bindings k, directAll_substituteAll bindings ks]

end

end

end Kind

/-! ## Shapes and registries -/

def Field.direct (known : String → Bool) (f : Field) : Field := ⟨f.name, f.kind.direct known⟩

def Parent.direct (known : String → Bool) (p : Parent) : Parent :=
  ⟨p.shape, Kind.directAll known p.args⟩

def Shape.direct (known : String → Bool) (shape : Shape) : Shape :=
  ⟨shape.name, shape.params, shape.fields.map (Field.direct known),
    shape.parents.map (Parent.direct known)⟩

namespace Registry

/-- The registry with all forward references to its shapes made direct. -/
def direct (r : Registry) : Registry := { r with shapes := r.shapes.map (Shape.direct r.contains) }

theorem builtin?_direct (r : Registry) (known : String → Bool) (name : String) (args : List Kind) :
    r.direct.builtin? name (Kind.directAll known args) = r.builtin? name args := by
  unfold builtin?
  cases args <;> rfl

section
variable (r : Registry)

theorem translates_direct : r.Translates r.direct (Shape.direct r.contains)
    (fun _ => Kind.direct r.contains) (Kind.direct r.contains)
    (fun _ b b' => b' = Kind.directBindings r.contains b) where
  shapes_eq := rfl
  name_eq _ := rfl
  params_length _ := rfl
  fields_eq _ := rfl
  parents_eq shape := by
    refine List.map_congr_left fun p _ => ?_
    unfold Parent.direct
    rw [Kind.directAll_eq_map]
    rfl
  substitute_eq := by
    rintro shape b _ _ rfl k _
    exact (Kind.direct_substitute b k).symm
  extend := by
    rintro shape b _ _ rfl p _ found _ _
    rw [← Kind.directAll_eq_map]
    exact Kind.bind_directAll found.params _

theorem contains_direct : r.direct.contains = r.contains := (translates_direct r).contains_eq

theorem applied_direct (name : String) (args : List Kind) :
    r.direct.applied (name, args) = Shape.direct r.contains <$> r.applied (name, args) :=
  (translates_direct r).applied name rfl

/-- The fields of a shape, made direct. -/
theorem fieldsOf_direct (name : String) (args : List Kind) :
    r.direct.fieldsOf (name, Kind.directAll r.contains args) =
      List.map (Field.direct r.contains) <$> r.fieldsOf (name, args) :=
  (translates_direct r).fieldsOf name (Kind.length_directAll args) fun {shape} _ _ =>
    Kind.bind_directAll shape.params args

/-! ### Well-formedness -/

theorem takes_direct {name : String} {n : Nat} : r.direct.Takes name n ↔ r.Takes name n :=
  (translates_direct r).takes

theorem refers_direct {name : String} {args : List Kind} :
    r.direct.Refers (Kind.direct r.contains (.forward name args)) ↔ r.Refers (.forward name args) := by
  unfold Kind.direct
  by_cases hname : r.contains name = true
  · rw [if_pos hname]
    refine (r.takes_direct).trans ?_
    rw [Kind.length_directAll]
    exact ⟨.inl, fun h => h.elim id fun h => absurd (h.1.symm.trans hname) Bool.false_ne_true⟩
  · rw [if_neg hname]
    unfold Refers
    simp only [takes_direct, contains_direct, builtin?_direct, Kind.length_directAll]

end

end Registry

namespace Kind

section
variable {r : Registry}

mutual

theorem wellFormed_direct :
    ∀ {k : Kind}, (k.direct r.contains).WellFormed r.direct ↔ k.WellFormed r
  | leaf _ | nothing | placeholder _ => by
    simp [direct, WellFormed, Throughout, parts, Registry.Refers]
  | record name args => by
    unfold direct
    rw [wellFormed_record, wellFormed_record, r.takes_direct, length_directAll, wellFormed_directAll]
  | forward name args => by
    have hargs := @wellFormed_directAll args
    have hrefers := @Registry.refers_direct r name args
    rw [wellFormed_forward, ← hrefers, ← hargs]
    unfold direct
    split
    · exact wellFormed_record
    · exact wellFormed_forward
  | list item => by
    unfold direct
    rw [wellFormed_list, wellFormed_list, wellFormed_direct]
  | union ks => by
    unfold direct
    rw [wellFormed_union, wellFormed_union, wellFormed_directAll]

theorem wellFormed_directAll :
    ∀ {ks : List Kind}, (∀ k ∈ directAll r.contains ks, k.WellFormed r.direct) ↔
      ∀ k ∈ ks, k.WellFormed r
  | [] => by simp [directAll]
  | k :: ks => by
    unfold directAll
    rw [List.forall_mem_cons, List.forall_mem_cons, wellFormed_direct, wellFormed_directAll]

end

end

end Kind

theorem Registry.wellFormed_direct {r : Registry} : r.direct.WellFormed ↔ r.WellFormed :=
  (translates_direct r).wellFormed fun _ _ _ _ => Kind.wellFormed_direct

end Conform

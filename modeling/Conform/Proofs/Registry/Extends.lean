import Conform.Proofs.Registry.Attempt
/-!
Registries grow. Shapes are only added, and what a shape's fields are does not change by that, nor by
another configuration.
-/

namespace Conform.Registry

theorem bind_eq_ok {α β : Type} {x : Except SpecError α} {f : α → Except SpecError β} {b : β} :
    (x >>= f) = .ok b ↔ ∃ a, x = .ok a ∧ f a = .ok b := by
  cases x with
  | error e =>
    constructor
    · intro h
      cases h
    · rintro ⟨a, h, _⟩
      cases h
  | ok a =>
    constructor
    · exact fun h => ⟨a, rfl, h⟩
    · rintro ⟨a', h, hf⟩
      cases h
      exact hf

theorem bind_eq_error {α β : Type} {x : Except SpecError α} {f : α → Except SpecError β}
    {e : SpecError} : (x >>= f) = .error e ↔ x = .error e ∨ ∃ a, x = .ok a ∧ f a = .error e := by
  cases x with
  | error e' =>
    constructor
    · intro h
      cases h
      exact .inl rfl
    · rintro (h | ⟨a, h, _⟩)
      · cases h
        rfl
      · cases h
  | ok a =>
    constructor
    · exact fun h => .inr ⟨a, rfl, h⟩
    · rintro (h | ⟨a', h, hf⟩)
      · cases h
      · cases h
        exact hf

theorem lookup_eq_ok {r : Registry} {name : String} {shape : Shape} :
    r.lookup name = .ok shape ↔ r.shape? name = some shape := by
  unfold lookup
  cases r.shape? name with
  | none => simp
  | some found => simp

theorem checkArity_eq_ok {shape : Shape} {n : Nat} :
    checkArity shape n = .ok () ↔ n = 0 ∨ n = shape.params.length := by
  unfold checkArity
  split
  · next h => exact iff_of_true rfl h
  · next h => exact iff_of_false (fun he => by cases he) h

theorem applied_eq_ok {r : Registry} {a : Applied} {shape : Shape} :
    r.applied a = .ok shape ↔
      r.lookup a.1 = .ok shape ∧ checkArity shape a.2.length = .ok () := by
  constructor
  · intro h
    obtain ⟨found, hlookup, hfit⟩ := bind_eq_ok.mp h
    obtain ⟨_, harity, hfound⟩ := bind_eq_ok.mp hfit
    cases hfound
    exact ⟨hlookup, harity⟩
  · rintro ⟨hlookup, harity⟩
    exact bind_eq_ok.mpr ⟨shape, hlookup, bind_eq_ok.mpr ⟨(), harity, rfl⟩⟩

/-- A shape with fields is not on its own lineage, and has those that its parents hand down and its
own. -/
theorem of_collectFields {r : Registry} {steps : Nat} {lineage : List String} {shape : Shape}
    {bindings : Bindings} {fields : List Field}
    (h : r.collectFields steps lineage shape bindings = .ok fields) :
    ∃ n inherited, steps = n + 1 ∧ shape.name ∉ lineage ∧
      r.inheritAll (r.collectFields n (shape.name :: lineage)) bindings [] shape.parents =
        .ok inherited ∧
      declareOwn bindings inherited shape.fields = fields := by
  cases steps with
  | zero => cases h
  | succ n =>
    unfold collectFields at h
    split at h
    · cases h
    · next hnew =>
      obtain ⟨inherited, hinherited, hown⟩ := bind_eq_ok.mp h
      exact ⟨n, inherited, rfl, by simpa using hnew, hinherited, Except.ok.inj hown⟩

theorem name_of_shape? {r : Registry} {name : String} {shape : Shape}
    (h : r.shape? name = some shape) : shape.name = name := by
  simpa using List.find?_some h

theorem eq_some_of_parts {found : Option Registry} {r : Registry}
    (h : found.map (fun r => (r.name, r.config, r.shapes)) = some (r.name, r.config, r.shapes)) :
    found = some r := by
  obtain ⟨⟨name, config, shapes⟩, rfl, heq⟩ := Option.map_eq_some_iff.mp h
  cases heq
  rfl

/-- The same registry, with more shapes behind those there were. -/
structure Extends (r r' : Registry) : Prop where
  name : r'.name = r.name
  config : r'.config = r.config
  shapes : r.shapes <+: r'.shapes

namespace Extends

variable {r r' r'' : Registry}

theorem refl (r : Registry) : Extends r r := ⟨rfl, rfl, List.prefix_refl _⟩

theorem trans (h : Extends r r') (h' : Extends r' r'') : Extends r r'' :=
  ⟨h'.name.trans h.name, h'.config.trans h.config, h.shapes.trans h'.shapes⟩

theorem of_register {shape : Shape} (h : r.register shape = .ok r') : Extends r r' := by
  unfold register at h
  split at h
  · cases h
  · cases h
    exact ⟨rfl, rfl, List.prefix_append _ _⟩

theorem shape? (h : Extends r r') {name : String} {shape : Shape}
    (hshape : r.shape? name = some shape) : r'.shape? name = some shape := by
  obtain ⟨added, hadded⟩ := h.shapes
  unfold Registry.shape? at hshape ⊢
  rw [← hadded, List.find?_append, hshape]
  rfl

theorem lookup (h : Extends r r') {name : String} {shape : Shape}
    (hshape : r.lookup name = .ok shape) : r'.lookup name = .ok shape := by
  unfold Registry.lookup at hshape ⊢
  cases hfound : r.shape? name with
  | none => simp [hfound] at hshape
  | some found =>
    rw [hfound] at hshape
    rw [h.shape? hfound]
    exact hshape

theorem contains (h : Extends r r') {name : String} (hname : r.contains name = true) :
    r'.contains name = true := by
  unfold Registry.contains at hname ⊢
  obtain ⟨shape, hshape⟩ := Option.isSome_iff_exists.mp hname
  rw [h.shape? hshape]
  rfl

theorem builtin? (h : Extends r r') : r'.builtin? = r.builtin? := by
  funext name args
  unfold Registry.builtin?
  rw [h.config]

theorem applied (h : Extends r r') {a : Applied} {shape : Shape}
    (hshape : r.applied a = .ok shape) : r'.applied a = .ok shape := by
  obtain ⟨hlookup, harity⟩ := applied_eq_ok.mp hshape
  exact applied_eq_ok.mpr ⟨h.lookup hlookup, harity⟩

theorem inheritAll (h : Extends r r')
    {fieldsOf fieldsOf' : Shape → Bindings → Except SpecError (List Field)}
    (hfields : ∀ {shape bindings fields}, fieldsOf shape bindings = .ok fields →
      fieldsOf' shape bindings = .ok fields)
    {bindings : Bindings} {fields : List Field} {parents : List Parent} {all : List Field}
    (hall : r.inheritAll fieldsOf bindings fields parents = .ok all) :
    r'.inheritAll fieldsOf' bindings fields parents = .ok all := by
  induction parents generalizing fields with
  | nil => exact hall
  | cons parent rest ih =>
    unfold Registry.inheritAll at hall ⊢
    obtain ⟨shape, hshape, hall⟩ := bind_eq_ok.mp hall
    obtain ⟨u, hfit, hall⟩ := bind_eq_ok.mp hall
    obtain ⟨inherited, hinherited, hrest⟩ := bind_eq_ok.mp hall
    exact bind_eq_ok.mpr ⟨shape, h.lookup hshape, bind_eq_ok.mpr ⟨u, hfit,
      bind_eq_ok.mpr ⟨inherited, hfields hinherited, ih hrest⟩⟩⟩

theorem collectFields (h : Extends r r') {steps steps' : Nat} (hsteps : steps ≤ steps')
    {lineage : List String} {shape : Shape} {bindings : Bindings} {fields : List Field}
    (hfields : r.collectFields steps lineage shape bindings = .ok fields) :
    r'.collectFields steps' lineage shape bindings = .ok fields := by
  induction steps generalizing steps' lineage shape bindings fields with
  | zero => cases hfields
  | succ steps ih =>
    obtain ⟨steps', rfl⟩ : ∃ n, steps' = n + 1 := ⟨steps' - 1, by omega⟩
    unfold Registry.collectFields at hfields ⊢
    split at hfields
    · cases hfields
    · next hnew =>
      rw [if_neg hnew]
      obtain ⟨inherited, hinherited, hrest⟩ := bind_eq_ok.mp hfields
      exact bind_eq_ok.mpr ⟨inherited, h.inheritAll (ih (by omega)) hinherited, hrest⟩

theorem fieldsOf (h : Extends r r') {a : Applied} {fields : List Field}
    (hfields : r.fieldsOf a = .ok fields) : r'.fieldsOf a = .ok fields := by
  unfold Registry.fieldsOf at hfields ⊢
  obtain ⟨shape, hshape, hfields⟩ := bind_eq_ok.mp hfields
  exact bind_eq_ok.mpr ⟨shape, h.applied hshape, h.collectFields h.shapes.length_le hfields⟩

end Extends

/-! ## Other configurations -/

def under (r : Registry) (config : DeriveConfig) : Registry := { r with config := config }

section
variable (r : Registry) (config : DeriveConfig)

theorem inheritAll_under (fieldsOf : Shape → Bindings → Except SpecError (List Field))
    (bindings : Bindings) (fields : List Field) (parents : List Parent) :
    (r.under config).inheritAll fieldsOf bindings fields parents =
      r.inheritAll fieldsOf bindings fields parents := by
  induction parents generalizing fields with
  | nil => rfl
  | cons parent rest ih =>
    unfold inheritAll
    simp only [ih]
    rfl

theorem collectFields_under (steps : Nat) :
    (r.under config).collectFields steps = r.collectFields steps := by
  induction steps with
  | zero => rfl
  | succ steps ih =>
    funext lineage shape bindings
    unfold collectFields
    rw [ih, inheritAll_under]

theorem effectiveFields_under : (r.under config).effectiveFields = r.effectiveFields := by
  funext shape bindings
  unfold effectiveFields
  rw [collectFields_under]
  rfl

/-- Fields are a matter of shapes alone. -/
theorem fieldsOf_under : (r.under config).fieldsOf = r.fieldsOf := by
  funext a
  unfold fieldsOf
  rw [effectiveFields_under]
  rfl

end

end Conform.Registry

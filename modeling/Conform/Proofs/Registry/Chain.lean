import Conform.Proofs.Kind.Substitution
import Conform.Proofs.Registry.Ancestry
import Conform.Proofs.Registry.Distinct
/-!
Chains of shapes, in which each extends the one before and the first extends none. The fields of the
last are those that the shapes declare, the first shape's before the others', with the arguments of the
links put in the place of parameters one link after the other.
-/

namespace Conform

/-- All placeholders that the shape mentions are among its parameters. -/
def Shape.Closed (shape : Shape) : Prop := ∀ k ∈ shape.kinds, k.ClosedBy shape.params

instance : DecidablePred Shape.Closed :=
  fun shape => inferInstanceAs (Decidable (∀ k ∈ shape.kinds, k.ClosedBy shape.params))

/-- A shape at the end of a chain is linked to the one before it by arguments. -/
inductive Chain where
  | root (shape : Shape)
  | extend (above : Chain) (args : List Kind) (shape : Shape)

namespace Chain

def shape : Chain → Shape
  | root shape | extend _ _ shape => shape

def parents : Chain → List Parent
  | root _ => []
  | extend above args _ => [⟨above.shape.name, args⟩]

/-- All declarations along the chain, with the links' arguments put in the place of parameters. -/
def declared : Chain → List Field
  | root shape => shape.fields
  | extend above args shape =>
    above.declared.map (Field.map (Kind.substitute (Registry.bind above.shape.params args))) ++
      shape.fields

/-- The last shape is registered, closed, and has no parent but the one before. -/
structure Ends (r : Registry) (c : Chain) : Prop where
  registered : r.shape? c.shape.name = some c.shape
  parents : c.shape.parents = c.parents
  closed : c.shape.Closed

/-- So are all shapes, and a parent with parameters is given an argument for each. -/
def In (r : Registry) : Chain → Prop
  | root shape => Ends r (root shape)
  | extend above args shape => above.In r ∧ Ends r (extend above args shape) ∧
      (above.shape.params ≠ [] → args.length = above.shape.params.length)

/-- A parent without parameters is given no arguments. -/
def Fits : Chain → Prop
  | root _ => True
  | extend above args _ => above.Fits ∧ (above.shape.params = [] → args = [])

section
variable {r : Registry} {c above : Chain} {args : List Kind} {shape : Shape}

theorem In.ends (h : c.In r) : Ends r c := by
  cases c with
  | root => exact h
  | extend => exact h.2.1

theorem In.length_args (h : (extend above args shape).In r) (hfits : (extend above args shape).Fits) :
    args.length = above.shape.params.length := by
  by_cases hparams : above.shape.params = []
  · rw [hfits.2 hparams, hparams]
    rfl
  · exact h.2.2 hparams

theorem Ends.closed_field (h : Ends r c) : ∀ f ∈ c.shape.fields, f.kind.ClosedBy c.shape.params :=
  fun f hf => h.closed f.kind (List.mem_append_left _ (List.mem_map_of_mem hf))

theorem Ends.closed_args (h : Ends r (extend above args shape)) :
    ∀ a ∈ args, a.ClosedBy shape.params := by
  intro a ha
  refine h.closed a (List.mem_append_right _ ?_)
  rw [h.parents]
  exact List.mem_flatMap.mpr ⟨_, List.mem_singleton_self _, ha⟩

/-- What is declared is in terms of the last shape's parameters. -/
theorem In.closed_declared (h : c.In r) (hfits : c.Fits) :
    ∀ f ∈ c.declared, f.kind.ClosedBy c.shape.params := by
  induction c with
  | root shape => exact h.ends.closed_field
  | extend above args shape ih =>
    intro f hf
    rcases List.mem_append.mp hf with hf | hf
    · obtain ⟨g, hg, rfl⟩ := List.mem_map.mp hf
      exact (ih h.1 hfits.1 g hg).substitute (h.length_args hfits) h.ends.closed_args
    · exact h.ends.closed_field f hf

/-! ## Ancestors -/

theorem In.links_iff (h : c.In r) {parent : String} : r.Links c.shape.name parent ↔
    ∃ above args shape, c = extend above args shape ∧ above.shape.name = parent := by
  have hends := h.ends
  constructor
  · rintro ⟨found, hfound, p, hp, rfl⟩
    cases hends.registered.symm.trans hfound
    rw [hends.parents] at hp
    cases c with
    | root shape => cases hp
    | extend above args shape =>
      cases List.mem_singleton.mp hp
      exact ⟨above, args, shape, rfl, rfl⟩
  · rintro ⟨above, args, shape, rfl, rfl⟩
    refine ⟨shape, hends.registered, ⟨above.shape.name, args⟩, ?_, rfl⟩
    exact hends.parents ▸ List.mem_singleton_self _

/-- The ancestors of the last shape are the shapes of the chain. -/
theorem In.exists_of_inherits (h : c.In r) (hfits : c.Fits) {ancestor : String}
    (hway : r.Inherits c.shape.name ancestor) :
    ∃ a : Chain, a.In r ∧ a.Fits ∧ a.shape.name = ancestor := by
  induction hway with
  | refl => exact ⟨c, h, hfits, rfl⟩
  | tail _ hlink ih =>
    obtain ⟨a, ha, hafits, rfl⟩ := ih
    obtain ⟨above, args, shape, rfl, hname⟩ := ha.links_iff.mp hlink
    exact ⟨above, ha.1, hafits.1, hname⟩

theorem In.acc (h : c.In r) : Acc (fun parent child => r.Links child parent) c.shape.name := by
  induction c with
  | root shape =>
    refine .intro _ fun parent hlink => ?_
    obtain ⟨_, _, _, heq, _⟩ := h.links_iff.mp hlink
    cases heq
  | extend above args shape ih =>
    refine .intro _ fun parent hlink => ?_
    obtain ⟨_, _, _, heq, rfl⟩ := h.links_iff.mp hlink
    cases heq
    exact ih h.1

theorem In.soundAncestry (h : c.In r) (hfits : c.Fits) : r.SoundAncestry c.shape.name where
  registered := by
    intro ancestor hway
    obtain ⟨a, ha, _, rfl⟩ := h.exists_of_inherits hfits hway
    exact ⟨a.shape, ha.ends.registered⟩
  fitting := by
    intro child hway found hfound p hp parent hparent
    obtain ⟨a, ha, hafits, rfl⟩ := h.exists_of_inherits hfits hway
    cases ha.ends.registered.symm.trans hfound
    rw [ha.ends.parents] at hp
    cases a with
    | root shape => cases hp
    | extend above args shape =>
      cases List.mem_singleton.mp hp
      cases ha.1.ends.registered.symm.trans hparent
      exact .inr (ha.length_args hafits)
  acyclic := fun ancestor hway => Registry.not_links_self (Registry.acc_of_way h.acc hway)

/-- A shape with fields is linked to the one before by as many arguments as that takes. -/
theorem In.fits_of_sound (h : c.In r) (hsound : r.SoundAncestry c.shape.name) : c.Fits := by
  induction c with
  | root shape => trivial
  | extend above args shape ih =>
    have hlink : r.Links shape.name above.shape.name := h.links_iff.mpr ⟨_, _, _, rfl, rfl⟩
    refine ⟨ih h.1 ⟨?_, ?_, ?_⟩, fun hparams => ?_⟩
    · exact fun ancestor hway => hsound.registered ancestor (.head hlink hway)
    · exact fun child hway => hsound.fitting child (.head hlink hway)
    · exact fun ancestor hway => hsound.acyclic ancestor (.head hlink hway)
    · have hfit := hsound.fitting _ .refl _ h.ends.registered ⟨above.shape.name, args⟩
        (h.ends.parents ▸ List.mem_singleton_self _) _ h.1.ends.registered
      rw [hparams] at hfit
      exact List.eq_nil_of_length_eq_zero (or_self_iff.mp hfit)

/-! ## Fields -/

theorem declareOwn_settled (bindings : Bindings) (fields own : List Field) :
    Registry.declareOwn bindings (Field.settled fields) own =
      Field.settled (fields ++ own.map (Field.map (Kind.substitute bindings))) := by
  rw [Field.settled_append, List.foldl_map]
  rfl

theorem inheritAll_singleton {fieldsOf : Shape → Bindings → Except SpecError (List Field)}
    {bindings : Bindings} {p : Parent} {all : List Field}
    (h : r.inheritAll fieldsOf bindings [] [p] = .ok all) :
    ∃ parent inherited, r.shape? p.shape = some parent ∧
      fieldsOf parent (Registry.bind parent.params (p.args.map (Kind.substitute bindings))) =
        .ok inherited ∧ all = Registry.inherit [] inherited := by
  unfold Registry.inheritAll at h
  obtain ⟨parent, hparent, h⟩ := Registry.bind_eq_ok.mp h
  obtain ⟨_, _, h⟩ := Registry.bind_eq_ok.mp h
  obtain ⟨inherited, hinherited, hrest⟩ := Registry.bind_eq_ok.mp h
  cases hrest
  exact ⟨parent, inherited, Registry.lookup_eq_ok.mp hparent, hinherited, rfl⟩

/-- Arguments are put in the place of the parent's parameters on the way down the chain. Since what is
declared above is closed by those, that may as well be done on the way up. -/
theorem In.declared_substitute (h : (extend above args shape).In r)
    (hfits : (extend above args shape).Fits) (bindings : Bindings) :
    above.declared.map (Field.map (Kind.substitute
        (Registry.bind above.shape.params (args.map (Kind.substitute bindings))))) ++
      shape.fields.map (Field.map (Kind.substitute bindings)) =
    (extend above args shape).declared.map (Field.map (Kind.substitute bindings)) := by
  rw [declared, List.map_append, List.map_map]
  congr 1
  refine List.map_congr_left fun f hf => ?_
  unfold Field.map
  rw [Kind.substitute_bind_map (h.1.closed_declared hfits.1 f hf) (h.length_args hfits)]
  rfl

theorem In.collectFields_eq {steps : Nat} {lineage : List String} {bindings : Bindings}
    {fields : List Field} (h : c.In r) (hfits : c.Fits)
    (hfields : r.collectFields steps lineage c.shape bindings = .ok fields) :
    fields = Field.settled (c.declared.map (Field.map (Kind.substitute bindings))) := by
  induction c generalizing steps lineage bindings fields with
  | root shape =>
    obtain ⟨_, inherited, _, _, hinherited, rfl⟩ := Registry.of_collectFields hfields
    rw [h.ends.parents] at hinherited
    cases hinherited
    exact declareOwn_settled bindings [] shape.fields
  | extend above args shape ih =>
    obtain ⟨_, inherited, _, _, hinherited, rfl⟩ := Registry.of_collectFields hfields
    rw [h.ends.parents] at hinherited
    obtain ⟨parent, found, hparent, hfound, rfl⟩ := inheritAll_singleton hinherited
    cases h.1.ends.registered.symm.trans hparent
    obtain rfl := ih h.1 hfits.1 hfound
    rw [Registry.inherit_eq_append (Field.distinct_settled _), List.nil_append, declareOwn_settled]
    exact congrArg Field.settled (h.declared_substitute hfits bindings)

/-- The last shape has fields if every link fits. -/
theorem In.effectiveFields_eq_ok (h : c.In r) {bindings : Bindings} {fields : List Field} :
    r.effectiveFields c.shape bindings = .ok fields ↔
      c.Fits ∧ fields = Field.settled (c.declared.map (Field.map (Kind.substitute bindings))) := by
  constructor
  · intro hfields
    have hsound := Registry.soundAncestry_of_collectFields h.ends.registered hfields
    exact ⟨h.fits_of_sound hsound, h.collectFields_eq (h.fits_of_sound hsound) hfields⟩
  · rintro ⟨hfits, rfl⟩
    obtain ⟨fields, hfields⟩ := (h.soundAncestry hfits).exists_fields h.ends.registered bindings
    rw [hfields, h.collectFields_eq hfits hfields]

/-- With arguments that are closed by some names, so are the kinds of all fields. -/
theorem In.closed_fields (h : c.In r) (hlength : args.length = c.shape.params.length)
    {params : List String} (hargs : ∀ a ∈ args, a.ClosedBy params) {fields : List Field}
    (hfields : r.effectiveFields c.shape (Registry.bind c.shape.params args) = .ok fields) :
    ∀ f ∈ fields, f.kind.ClosedBy params := by
  obtain ⟨hfits, rfl⟩ := h.effectiveFields_eq_ok.mp hfields
  intro f hf
  obtain ⟨g, hg, rfl⟩ := List.mem_map.mp (Field.mem_of_mem_settled hf)
  exact (h.closed_declared hfits g hg).substitute hlength hargs

end

end Chain

end Conform

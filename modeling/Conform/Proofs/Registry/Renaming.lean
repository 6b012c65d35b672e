import Conform.Proofs.Registry.Translation
/-!
Parameters under other names. One parameter of a shape gets a new name, throughout that shape. Where
it stays apart from others of its name, the fields of every shape are what they were, but for the name
of a placeholder: which of the two it goes by depends on where the shape has it from.
-/

namespace Conform

/-! ## Kinds -/

namespace Kind

/-- What a placeholder is called after the renaming. -/
def renamed (old new p : String) : String := if p = old then new else p

mutual

/-- The kind with a placeholder renamed, at any depth. -/
def rename (old new : String) : Kind → Kind
  | leaf k => leaf k
  | nothing => nothing
  | record name args => record name (renameAll old new args)
  | forward name args => forward name (renameAll old new args)
  | list item => list (rename old new item)
  | union ks => union (renameAll old new ks)
  | placeholder p => placeholder (renamed old new p)

def renameAll (old new : String) : List Kind → List Kind
  | [] => []
  | k :: ks => rename old new k :: renameAll old new ks

end

/-- The placeholder stands somewhere in the kind. -/
def Mentions (p : String) (k : Kind) : Prop := placeholder p ∈ k.parts

instance (p : String) : DecidablePred (Mentions p) :=
  fun k => inferInstanceAs (Decidable (placeholder p ∈ k.parts))

/-- The shape is one of some, if the kind refers to it with arguments. -/
def HandsTo (scope : String → Prop) : Kind → Prop
  | record name args | forward name args => args ≠ [] → scope name
  | leaf _ | nothing | list _ | union _ | placeholder _ => True

instance (scope : String → Prop) [DecidablePred scope] : DecidablePred (HandsTo scope)
  | record name args | forward name args => inferInstanceAs (Decidable (args ≠ [] → scope name))
  | leaf _ | nothing | list _ | union _ | placeholder _ => inferInstanceAs (Decidable True)

/-- The parameter may be part of the kind and go by the new name there: that is not the name of the
kind itself, and nothing is handed on to shapes outside the scope. -/
def Confined (new : String) (scope : String → Prop) (k : Kind) : Prop :=
  k ≠ placeholder new ∧ k.HandsTo scope

section
variable {old new p : String}

theorem renamed_old : renamed old new old = new := if_pos rfl

theorem renamed_self : renamed old old = id := by
  funext p
  unfold renamed
  split
  · next h => exact h.symm
  · rfl

theorem renamed_of_ne (h : p ≠ old) : renamed old new p = p := if_neg h

/-- A renaming keeps apart what was apart, if the new name is not there before. -/
theorem renamed_inj {q : String} (hp : p ≠ new) (hq : q ≠ new) :
    renamed old new p = renamed old new q ↔ p = q := by
  unfold renamed
  split <;> split <;> simp_all [eq_comm]

theorem renameAll_eq_map (ks : List Kind) : renameAll old new ks = ks.map (rename old new) := by
  induction ks with
  | nil => rfl
  | cons k ks ih => rw [renameAll, ih, List.map_cons]

mutual

theorem rename_self : ∀ k : Kind, k.rename old old = k
  | leaf _ | nothing => rfl
  | record _ args | forward _ args => by rw [rename, renameAll_self args]
  | list item => by rw [rename, rename_self item]
  | union ks => by rw [rename, renameAll_self ks]
  | placeholder _ => by rw [rename, renamed_self, id]

theorem renameAll_self : ∀ ks : List Kind, renameAll old old ks = ks
  | [] => rfl
  | k :: ks => by rw [renameAll, rename_self k, renameAll_self ks]

end

mutual

theorem parts_rename : ∀ k : Kind, (k.rename old new).parts = k.parts.map (rename old new)
  | leaf _ | nothing | placeholder _ => rfl
  | record _ args | forward _ args => by
    rw [rename, parts, parts, partsOfAll_renameAll args, List.map_cons, rename]
  | list item => by rw [rename, parts, parts, parts_rename item, List.map_cons, rename]
  | union ks => by rw [rename, parts, parts, partsOfAll_renameAll ks, List.map_cons, rename]

theorem partsOfAll_renameAll :
    ∀ ks : List Kind, partsOfAll (renameAll old new ks) = (partsOfAll ks).map (rename old new)
  | [] => rfl
  | k :: ks => by
    rw [renameAll, partsOfAll, partsOfAll, parts_rename k, partsOfAll_renameAll ks, List.map_append]

end

variable {bindings bindings' : Bindings} {inner outer : String}

mutual

/-- Placeholders may be replaced after a renaming or before one, if that comes to the same for every
single one in the kind. -/
theorem substitute_rename :
    ∀ {k : Kind}, (∀ p, k.Mentions p → ((placeholder p).rename old inner).substitute bindings' =
        ((placeholder p).substitute bindings).rename old outer) →
      (k.rename old inner).substitute bindings' = (k.substitute bindings).rename old outer
  | leaf _, _ | nothing, _ => rfl
  | placeholder p, h => h p (List.mem_singleton_self _)
  | record name args, h => by
    have hargs := @substitute_renameAll args fun p hp => h p (List.mem_cons_of_mem _ hp)
    simp only [rename, substitute, hargs]
  | forward name args, h => by
    have hargs := @substitute_renameAll args fun p hp => h p (List.mem_cons_of_mem _ hp)
    simp only [rename, substitute, hargs]
  | list item, h => by
    have hitem := @substitute_rename item fun p hp => h p (List.mem_cons_of_mem _ hp)
    simp only [rename, substitute, hitem]
  | union ks, h => by
    have hks := @substitute_renameAll ks fun p hp => h p (List.mem_cons_of_mem _ hp)
    simp only [rename, substitute, hks]

theorem substitute_renameAll :
    ∀ {ks : List Kind}, (∀ p, placeholder p ∈ partsOfAll ks →
        ((placeholder p).rename old inner).substitute bindings' =
          ((placeholder p).substitute bindings).rename old outer) →
      substituteAll bindings' (renameAll old inner ks) =
        renameAll old outer (substituteAll bindings ks)
  | [], _ => rfl
  | k :: ks, h => by
    have hk := @substitute_rename k fun p hp => h p (List.mem_append_left _ hp)
    have hks := @substitute_renameAll ks fun p hp => h p (List.mem_append_right _ hp)
    simp only [renameAll, substituteAll, hk, hks]

end

/-! ### Bindings -/

theorem not_mem_params_of_lookup {params : List String} {args : List Kind}
    (hlength : args.length = params.length) (hp : (Registry.bind params args).lookup p = none) :
    p ∉ params := by
  intro hmem
  rw [← List.map_fst_zip (Nat.le_of_eq hlength.symm)] at hmem
  obtain ⟨b, hb, rfl⟩ := List.mem_map.mp hmem
  simpa using List.lookup_eq_none_iff.mp hp b hb

theorem lookup_bind_renamed {params : List String} {g : Kind → Kind}
    (hp : ∀ q ∈ params, renamed old new p = renamed old new q ↔ p = q) (args : List Kind) :
    (Registry.bind (params.map (renamed old new)) (args.map g)).lookup (renamed old new p) =
      ((Registry.bind params args).lookup p).map g := by
  unfold Registry.bind
  induction params generalizing args with
  | nil => rfl
  | cons q params ih =>
    cases args with
    | nil => rfl
    | cons k args =>
      have hrest := ih (fun e he => hp e (List.mem_cons_of_mem q he)) args
      have hq : (renamed old new p == renamed old new q) = (p == q) :=
        Bool.eq_iff_iff.mpr (by simpa using hp q List.mem_cons_self)
      rw [List.map_cons, List.map_cons, List.zip_cons_cons, List.zip_cons_cons, List.lookup_cons,
        List.lookup_cons, hq, hrest]
      cases p == q <;> rfl

end

end Kind

/-! ## Shapes and registries -/

def Shape.rename (old new : String) (shape : Shape) : Shape :=
  ⟨shape.name, shape.params.map (Kind.renamed old new),
    shape.fields.map (Field.map (Kind.rename old new)),
    shape.parents.map (Parent.map (Kind.rename old new))⟩

/-- The shape with a placeholder renamed if the shape is the one of a name. -/
def Shape.renameIn (owner old new : String) (shape : Shape) : Shape :=
  if shape.name = owner then shape.rename old new else shape

namespace Registry

/-- The registry with a parameter of one shape renamed, throughout that shape. -/
def rename (r : Registry) (owner old new : String) : Registry :=
  { r with shapes := r.shapes.map (Shape.renameIn owner old new) }

/-- Nothing in the registry goes by the name. -/
def Fresh (r : Registry) (name : String) : Prop :=
  ∀ shape ∈ r.shapes, name ∉ shape.params ∧ ∀ k ∈ shape.kinds, ¬ k.Mentions name

instance (r : Registry) : DecidablePred r.Fresh :=
  fun name => inferInstanceAs (Decidable
    (∀ shape ∈ r.shapes, name ∉ shape.params ∧ ∀ k ∈ shape.kinds, ¬ k.Mentions name))

/-- What is extended has a parameter of the name, and no argument is given for it. -/
def LeavesUnbound (r : Registry) (param : String) (p : Parent) : Prop :=
  p.args = [] ∧ ∃ found ∈ r.shapes, found.name = p.shape ∧ param ∈ found.params

instance (r : Registry) (param : String) : DecidablePred (r.LeavesUnbound param) :=
  fun p => inferInstanceAs (Decidable
    (p.args = [] ∧ ∃ found ∈ r.shapes, found.name = p.shape ∧ param ∈ found.params))

/-- The parameter of a shape stays apart from others of its name. It can only come to shapes in its
scope, and there it is either a parameter again or not mentioned. No shape in the scope extends one
with a parameter of the name and leaves that unbound, if it is not the owner's. The heirs of the owner,
which have the parameter from it unbound, have no parameters. -/
structure Confines (r : Registry) (owner param : String) (scope heirs : String → Prop) : Prop where
  self : scope owner
  parents : ∀ shape ∈ r.shapes, scope shape.name → ∀ p ∈ shape.parents, scope p.shape
  references : ∀ shape ∈ r.shapes, scope shape.name →
    ∀ k ∈ shape.kinds, k.Throughout (Kind.HandsTo scope)
  declared : ∀ shape ∈ r.shapes, scope shape.name →
    ∀ k ∈ shape.kinds, k.Mentions param → param ∈ shape.params
  bound : ∀ shape ∈ r.shapes, scope shape.name →
    ∀ p ∈ shape.parents, r.LeavesUnbound param p → p.shape = owner
  inherits : ∀ shape ∈ r.shapes, ∀ p ∈ shape.parents,
    p.shape = owner ∧ r.LeavesUnbound param p ∨ heirs p.shape → heirs shape.name
  heirs : ∀ shape ∈ r.shapes, heirs shape.name → scope shape.name ∧ shape.params = []

/-- What the parameter is called in a shape of the other registry. -/
def nameIn (owner old new name : String) : String := if name = owner then new else old

/-- Bindings of a shape in the one registry and in the other, under which its kinds come to the same
but for the name of the parameter, which is `outer` then. -/
structure Carries (owner old new outer : String) (scope heirs : String → Prop) (shape : Shape)
    (b b' : Bindings) : Prop where
  outside : ¬ scope shape.name → outer = old
  heir : heirs shape.name → outer = new
  agrees : ∀ k ∈ shape.kinds, ∀ p, k.Mentions p →
    ((Kind.placeholder p).rename old (nameIn owner old new shape.name)).substitute b' =
      ((Kind.placeholder p).substitute b).rename old outer

section
variable {r : Registry} {owner old new outer : String} {scope heirs : String → Prop} {shape : Shape}

theorem params_renameIn :
    (shape.renameIn owner old new).params =
      shape.params.map (Kind.renamed old (nameIn owner old new shape.name)) := by
  unfold Shape.renameIn nameIn
  split
  · rfl
  · rw [Kind.renamed_self, List.map_id]

theorem map_rename_self (fields : List Field) :
    fields.map (Field.map (Kind.rename old old)) = fields := by
  have hsame : Field.map (Kind.rename old old) = id := funext fun f => by
    rw [Field.map, Kind.rename_self, id]
  rw [hsame, List.map_id]

theorem renamed_nameIn_inj (owner old : String) (hfresh : r.Fresh new) (hshape : shape ∈ r.shapes)
    {k : Kind} (hk : k ∈ shape.kinds) {p : String} (hp : k.Mentions p) :
    ∀ q ∈ shape.params, Kind.renamed old (nameIn owner old new shape.name) p =
      Kind.renamed old (nameIn owner old new shape.name) q ↔ p = q := by
  obtain ⟨hparams, hkinds⟩ := hfresh shape hshape
  intro q hq
  unfold nameIn
  split
  · refine Kind.renamed_inj ?_ ?_
    · rintro rfl
      exact hkinds k hk hp
    · rintro rfl
      exact hparams hq
  · rw [Kind.renamed_self]
    rfl

/-- Bindings to arguments in which the parameter goes by one name are of this sort, if the shape has it
by that name itself where there are no arguments. -/
theorem Confines.carries_bind (hr : r.Confines owner old scope heirs) (hfresh : r.Fresh new)
    (hshape : shape ∈ r.shapes) (houtside : ¬ scope shape.name → outer = old)
    (hheir : heirs shape.name → outer = new) {args : List Kind}
    (harity : args.length = 0 ∨ args.length = shape.params.length)
    (hunbound : args = [] → ∀ k ∈ shape.kinds, k.Mentions old →
      nameIn owner old new shape.name = outer) :
    Carries owner old new outer scope heirs shape (bind shape.params args)
      (bind (shape.renameIn owner old new).params
        (args.map (Kind.rename old outer))) := by
  refine ⟨houtside, hheir, fun k hk p hp => ?_⟩
  have hlookup := Kind.lookup_bind_renamed (g := Kind.rename old outer)
    (renamed_nameIn_inj owner old hfresh hshape hk hp) args
  rw [params_renameIn, Kind.rename, Kind.substitute, Kind.substitute, hlookup]
  cases hbound : (bind shape.params args).lookup p with
  | some arg => rfl
  | none =>
    simp only [Option.map_none, Option.getD_none, Kind.rename, Kind.placeholder.injEq]
    -- Only the parameter can be renamed, and in the scope it is not free where there are arguments.
    by_cases hold : p = old
    · subst hold
      rw [Kind.renamed_old, Kind.renamed_old]
      by_cases hargs : args = []
      · exact hunbound hargs k hk hp
      · have hlength := harity.resolve_left fun h => hargs (List.length_eq_zero_iff.mp h)
        have hfree := Kind.not_mem_params_of_lookup hlength hbound
        have hscope : ¬ scope shape.name := fun hscope =>
          hfree (hr.declared shape hshape hscope k hk hp)
        rw [houtside hscope, nameIn, if_neg fun h : shape.name = owner => hscope (h ▸ hr.self)]
    · rw [Kind.renamed_of_ne hold, Kind.renamed_of_ne hold]

/-- The bindings of a parent are of this sort if those of the shape are: what it has without arguments
goes by the new name only in the owner, and then the shape is its heir. -/
theorem Confines.carries_parent (hr : r.Confines owner old scope heirs) (hfresh : r.Fresh new)
    (hshape : shape ∈ r.shapes) {b b' : Bindings}
    (hb : Carries owner old new outer scope heirs shape b b') {p : Parent} (hp : p ∈ shape.parents)
    {found : Shape} (hfound : r.lookup p.shape = .ok found)
    (harity : checkArity found p.args.length = .ok ()) :
    Carries owner old new outer scope heirs found
      (bind found.params (p.args.map (Kind.substitute b)))
      (bind (found.renameIn owner old new).params
        ((p.args.map (Kind.substitute b)).map (Kind.rename old outer))) := by
  have hmem : found ∈ r.shapes := mem_of_lookup hfound
  have hname : found.name = p.shape := name_of_lookup hfound
  have houtside : ¬ scope found.name → outer = old := fun h =>
    hb.outside fun hscope => h (hname ▸ hr.parents shape hshape hscope p hp)
  have hheir : heirs found.name → outer = new := fun h =>
    hb.heir (hr.inherits shape hshape p hp (.inr (hname ▸ h)))
  refine hr.carries_bind hfresh hmem houtside hheir ?_ fun hargs k hk hold => ?_
  · rw [List.length_map]
    exact checkArity_eq_ok.mp harity
  · have hunbound : scope found.name → r.LeavesUnbound old p := fun hscope =>
      ⟨List.map_eq_nil_iff.mp hargs, found, hmem, hname, hr.declared found hmem hscope k hk hold⟩
    unfold nameIn
    split
    · next howner =>
      have hleaves := hunbound (howner ▸ hr.self)
      exact (hb.heir (hr.inherits shape hshape p hp (.inl ⟨hname ▸ howner, hleaves⟩))).symm
    · next howner =>
      -- If it went by the new name, another's parameter would be left unbound within the scope.
      by_contra hne
      have hscope : scope shape.name := by_contra fun h => hne (hb.outside h).symm
      have hleaves := hunbound (hname ▸ hr.parents shape hshape hscope p hp)
      exact howner (hname ▸ hr.bound shape hshape hscope p hp hleaves)

theorem Confines.translates (hr : r.Confines owner old scope heirs) (hfresh : r.Fresh new)
    (outer : String) :
    r.Translates (r.rename owner old new) (Shape.renameIn owner old new)
      (fun shape => Kind.rename old (nameIn owner old new shape.name)) (Kind.rename old outer)
      (Carries owner old new outer scope heirs) where
  shapes_eq := rfl
  name_eq shape := by
    unfold Shape.renameIn
    split <;> rfl
  params_length shape := by rw [params_renameIn, List.length_map]
  fields_eq shape := by
    unfold Shape.renameIn nameIn
    split
    · rfl
    · exact (map_rename_self shape.fields).symm
  parents_eq shape := by
    unfold Shape.renameIn nameIn
    split
    · rfl
    · have hsame : Parent.map (Kind.rename old old) = id := funext fun p => by
        rw [Parent.map, ← Kind.renameAll_eq_map, Kind.renameAll_self, id]
      rw [hsame, List.map_id]
  substitute_eq hshape hb k hk := Kind.substitute_rename (hb.agrees k hk)
  extend hshape hb p hp found hfound harity := hr.carries_parent hfresh hshape hb hp hfound harity

/-! ### Fields -/

theorem steady_confined : Kind.Steady (Kind.Confined new scope) := by
  rintro bindings k hk ⟨_, hhands⟩
  cases k with
  | placeholder p => exact absurd rfl (hk p)
  | leaf | nothing | list | union => exact ⟨by simp [Kind.substitute], trivial⟩
  | record name args | forward name args =>
    refine ⟨by simp [Kind.substitute], fun hargs => hhands fun h => hargs ?_⟩
    rw [h]
    rfl

theorem Confines.sealed (hr : r.Confines owner old scope heirs) (hfresh : r.Fresh new) :
    r.Sealed (Kind.Confined new scope) scope where
  parents := hr.parents
  kinds shape hshape hscope k hk part hpart := by
    refine ⟨?_, hr.references shape hshape hscope k hk part hpart⟩
    rintro rfl
    exact (hfresh shape hshape).2 k hk hpart

/-- How a shape is read at first. Without arguments the owner's parameter goes by the new name in the
owner itself and in its heirs, and by the old one elsewhere. -/
theorem Confines.exists_carries (hr : r.Confines owner old scope heirs) (hfresh : r.Fresh new)
    {args : List Kind} (hshape : shape ∈ r.shapes) (harity : checkArity shape args.length = .ok ())
    (houter : outer = old ∨ outer = new ∧ (args ≠ [] → scope shape.name)) :
    ∃ outer', (args ≠ [] ∧ outer' = outer ∨
        args = [] ∧ (outer' = old ∨ outer' = new ∧ scope shape.name)) ∧
      Carries owner old new outer' scope heirs shape (bind shape.params args)
        (bind (shape.renameIn owner old new).params
          (args.map (Kind.rename old outer'))) := by
  have hlength := checkArity_eq_ok.mp harity
  by_cases hargs : args = []
  · by_cases howner : shape.name = owner
    · have hscope : scope shape.name := howner ▸ hr.self
      refine ⟨new, .inr ⟨hargs, .inr ⟨rfl, hscope⟩⟩, ?_⟩
      refine hr.carries_bind hfresh hshape (absurd hscope) (fun _ => rfl) hlength ?_
      exact fun _ _ _ _ => if_pos howner
    · by_cases hheir : heirs shape.name
      · -- An heir has no parameters, so whatever it mentions is not the parameter.
        obtain ⟨hscope, hparams⟩ := hr.heirs shape hshape hheir
        refine ⟨new, .inr ⟨hargs, .inr ⟨rfl, hscope⟩⟩, ?_⟩
        refine hr.carries_bind hfresh hshape (absurd hscope) (fun _ => rfl) hlength ?_
        intro _ k hk hold
        have hdeclared := hr.declared shape hshape hscope k hk hold
        rw [hparams] at hdeclared
        cases hdeclared
      · refine ⟨old, .inr ⟨hargs, .inl rfl⟩, ?_⟩
        refine hr.carries_bind hfresh hshape (fun _ => rfl) (absurd · hheir) hlength ?_
        exact fun _ _ _ _ => if_neg howner
  · have houtside : ¬ scope shape.name → outer = old := fun h =>
      houter.resolve_right fun ⟨_, hscope⟩ => h (hscope hargs)
    refine ⟨outer, .inl ⟨hargs, rfl⟩, hr.carries_bind hfresh hshape houtside (fun h => ?_) hlength
      fun h => absurd h hargs⟩
    rw [(hr.heirs shape hshape h).2] at hlength
    exact absurd (List.length_eq_zero_iff.mp (hlength.elim id id)) hargs

/-- The fields of a shape are the same in both registries, but for the name of the parameter in them.
It goes by the new name only where that cannot be taken for another. -/
theorem Confines.fieldsOf_rename (hr : r.Confines owner old scope heirs) (hfresh : r.Fresh new)
    {name : String} {args : List Kind} {fields : List Field}
    (houter : outer = old ∨
      outer = new ∧ (Kind.record name args).Throughout (Kind.Confined new scope))
    (hfields : r.fieldsOf (name, args) = .ok fields) :
    ∃ outer', (outer' = old ∨
        outer' = new ∧ ∀ f ∈ fields, f.kind.Throughout (Kind.Confined new scope)) ∧
      (r.rename owner old new).fieldsOf (name, Kind.renameAll old outer args) =
        .ok (fields.map (Field.map (Kind.rename old outer'))) := by
  obtain ⟨found, happlied, _⟩ := bind_eq_ok.mp hfields
  obtain ⟨hlookup, harity⟩ := applied_eq_ok.mp happlied
  obtain rfl : found.name = name := name_of_lookup hlookup
  have hall : scope found.name → (∀ k ∈ args, k.Throughout (Kind.Confined new scope)) →
      ∀ f ∈ fields, f.kind.Throughout (Kind.Confined new scope) := fun hscope hargs =>
    (hr.sealed hfresh).throughout_fieldsOf steady_confined hscope hargs hfields
  obtain ⟨outer', houter', hcarries⟩ := hr.exists_carries hfresh (mem_of_lookup hlookup) harity
    (houter.imp_right fun ⟨hnew, hconfined⟩ => ⟨hnew, hconfined.self.2⟩)
  have hsame := (hr.translates hfresh outer').fieldsOf found.name
    (List.length_map (Kind.rename old outer')) fun {shape} hlookup' _ => by
      cases hlookup.symm.trans hlookup'
      exact hcarries
  rw [hfields] at hsame
  rcases houter' with ⟨hargs, rfl⟩ | ⟨rfl, houter'⟩
  · rw [Kind.renameAll_eq_map]
    have hconfined := fun h : (Kind.record found.name args).Throughout (Kind.Confined new scope) =>
      hall (h.self.2 hargs) (Kind.throughout_record.mp h).2
    exact ⟨outer', houter.imp_right fun h => ⟨h.1, hconfined h.2⟩, hsame⟩
  · have hconfined := fun h : scope found.name => hall h fun _ hk => absurd hk List.not_mem_nil
    exact ⟨outer', houter'.imp_right fun h => ⟨h.1, hconfined h.2⟩, hsame⟩

/-! ### Well-formedness -/

theorem builtin?_rename (name : String) (args : List Kind) :
    (r.rename owner old new).builtin? name (Kind.renameAll old outer args) = r.builtin? name args := by
  unfold builtin?
  rw [Kind.renameAll_eq_map, List.isEmpty_map]
  rfl

theorem Confines.wellFormed_kind (hr : r.Confines owner old scope heirs) (hfresh : r.Fresh new)
    {k : Kind} : (k.rename old outer).WellFormed (r.rename owner old new) ↔ k.WellFormed r := by
  have ht := hr.translates hfresh outer
  have hrefers : ∀ k : Kind, (r.rename owner old new).Refers (k.rename old outer) ↔ r.Refers k := by
    intro k
    cases k with
    | leaf | nothing | list | union | placeholder => exact Iff.rfl
    | record name args =>
      simp only [Kind.rename, Refers, ht.takes, Kind.renameAll_eq_map, List.length_map]
    | forward name args =>
      simp only [Kind.rename, Refers, ht.takes, ht.contains_eq, builtin?_rename]
      rw [Kind.renameAll_eq_map, List.length_map]
  unfold Kind.WellFormed Kind.Throughout
  rw [Kind.parts_rename, List.forall_mem_map]
  exact forall₂_congr fun part _ => hrefers part

theorem Confines.wellFormed (hr : r.Confines owner old scope heirs) (hfresh : r.Fresh new) :
    (r.rename owner old new).WellFormed ↔ r.WellFormed :=
  (hr.translates hfresh old).wellFormed fun _ _ _ _ => hr.wellFormed_kind hfresh

end

end Registry

end Conform

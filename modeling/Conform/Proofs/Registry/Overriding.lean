import Conform.Proofs.Registry.WellFormed
import Mathlib.Data.List.Nodup
import Mathlib.Logic.Relation
/-!
Which declaration a field of a shape is taken from. A shape's own comes first; if there is none, the
field is as the first of the parents has it that has it at all. A parent further back is not asked,
even if it, or an ancestor of it, declares the field anew below the shape whose declaration is taken.
-/

namespace Conform

/-- A declaration as it is read for a field: the shape that makes it, and what its placeholders stand
for. -/
structure Source where
  shape : String
  declared : Field
  bindings : Bindings

namespace Source

def name (s : Source) : String := s.declared.name

/-- The field that is declared. -/
def field (s : Source) : Field := ⟨s.declared.name, s.declared.kind.substitute s.bindings⟩

end Source

namespace Registry

/-! ## Collecting

The fields of a shape once more, each with its declaration. -/

def inheritSource (sources : List Source) (source : Source) : List Source :=
  if sources.any (·.name = source.name) then sources else sources ++ [source]

def inheritSources (sources inherited : List Source) : List Source :=
  inherited.foldl inheritSource sources

def declareSource (source : Source) : List Source → List Source
  | [] => [source]
  | s :: ss => if s.name = source.name then source :: ss else s :: declareSource source ss

def declareOwnSources (shape : String) (bindings : Bindings) (sources : List Source)
    (own : List Field) : List Source :=
  own.foldl (fun ss f => declareSource ⟨shape, f, bindings⟩ ss) sources

def inheritAllSources (r : Registry)
    (sourcesOf : Shape → Bindings → Except SpecError (List Source)) (bindings : Bindings) :
    List Source → List Parent → Except SpecError (List Source)
  | sources, [] => .ok sources
  | sources, parent :: rest => do
    let shape ← r.lookup parent.shape
    checkArity shape parent.args.length
    let args := parent.args.map (Kind.substitute bindings)
    let inherited ← sourcesOf shape (bind shape.params args)
    inheritAllSources r sourcesOf bindings (inheritSources sources inherited) rest

def collectSources (r : Registry) :
    Nat → List String → Shape → Bindings → Except SpecError (List Source)
  | 0, _, shape, _ => .error (.cyclicInheritance shape.name)
  | steps + 1, lineage, shape, bindings =>
    if lineage.contains shape.name then .error (.cyclicInheritance shape.name)
    else do
      let inherited ←
        r.inheritAllSources (r.collectSources steps (shape.name :: lineage)) bindings []
          shape.parents
      return declareOwnSources shape.name bindings inherited shape.fields

/-- The declarations that the fields of a shape are taken from. -/
def sources (r : Registry) (shape : Shape) (bindings : Bindings) :
    Except SpecError (List Source) :=
  r.collectSources r.shapes.length [] shape bindings

/-! ### The fields are those declared -/

theorem map_field_inheritSource (sources : List Source) (source : Source) :
    (inheritSource sources source).map Source.field =
      inherit (sources.map Source.field) [source.field] := by
  have hany : (sources.map Source.field).any (fun f => decide (f.name = source.field.name)) =
      sources.any fun s => decide (s.name = source.name) := List.any_map
  rw [inherit, List.foldl_cons, List.foldl_nil, hany]
  unfold inheritSource
  split
  · rfl
  · exact List.map_append

theorem map_field_inheritSources (sources inherited : List Source) :
    (inheritSources sources inherited).map Source.field =
      inherit (sources.map Source.field) (inherited.map Source.field) := by
  induction inherited generalizing sources with
  | nil => rfl
  | cons s inherited ih =>
    refine (ih _).trans ?_
    rw [map_field_inheritSource]
    rfl

theorem map_field_declareSource (source : Source) (sources : List Source) :
    (declareSource source sources).map Source.field =
      declareField source.field (sources.map Source.field) := by
  induction sources with
  | nil => rfl
  | cons s sources ih =>
    rw [List.map_cons]
    unfold declareSource declareField
    change _ = if s.name = source.name then _ else _
    split
    · rfl
    · rw [List.map_cons, ih]

theorem map_field_declareOwnSources (shape : String) (bindings : Bindings) (sources : List Source)
    (own : List Field) :
    (declareOwnSources shape bindings sources own).map Source.field =
      declareOwn bindings (sources.map Source.field) own := by
  induction own generalizing sources with
  | nil => rfl
  | cons f own ih =>
    refine (ih _).trans ?_
    rw [map_field_declareSource]
    rfl

section
variable {r : Registry}

theorem inheritAllSources_eq {sourcesOf : Shape → Bindings → Except SpecError (List Source)}
    {fieldsOf : Shape → Bindings → Except SpecError (List Field)} {bindings : Bindings}
    (hof : ∀ shape bindings, List.map Source.field <$> sourcesOf shape bindings =
      fieldsOf shape bindings) (sources : List Source) (parents : List Parent) :
    List.map Source.field <$> r.inheritAllSources sourcesOf bindings sources parents =
      r.inheritAll fieldsOf bindings (sources.map Source.field) parents := by
  induction parents generalizing sources with
  | nil => rfl
  | cons parent rest ih =>
    unfold inheritAllSources inheritAll
    cases r.lookup parent.shape with
    | error e => rfl
    | ok shape =>
      change _ <$> (checkArity shape parent.args.length >>= _) =
        (checkArity shape parent.args.length >>= _)
      cases checkArity shape parent.args.length with
      | error e => rfl
      | ok _ =>
        change _ <$> (sourcesOf shape _ >>= _) = (fieldsOf shape _ >>= _)
        rw [← hof]
        cases sourcesOf shape (bind shape.params (parent.args.map (Kind.substitute bindings))) with
        | error e => rfl
        | ok inherited =>
          refine (ih _).trans ?_
          rw [map_field_inheritSources]
          rfl

theorem collectSources_eq (steps : Nat) (lineage : List String) (shape : Shape)
    (bindings : Bindings) :
    List.map Source.field <$> r.collectSources steps lineage shape bindings =
      r.collectFields steps lineage shape bindings := by
  induction steps generalizing lineage shape bindings with
  | zero => rfl
  | succ steps ih =>
    unfold collectSources collectFields
    split
    · rfl
    · have hall := @inheritAllSources_eq r _ _ bindings (ih (shape.name :: lineage)) []
        shape.parents
      rw [List.map_nil] at hall
      rw [← hall]
      cases r.inheritAllSources (r.collectSources steps (shape.name :: lineage)) bindings []
          shape.parents with
      | error e => rfl
      | ok inherited => exact congrArg Except.ok (map_field_declareOwnSources _ _ _ _)

/-- A shape's fields are those that its sources declare, in the same order. -/
theorem map_field_sources {shape : Shape} {bindings : Bindings} {fields : List Field}
    (h : r.effectiveFields shape bindings = .ok fields) :
    ∃ sources, r.sources shape bindings = .ok sources ∧ sources.map Source.field = fields := by
  have heq := r.collectSources_eq r.shapes.length [] shape bindings
  rw [show r.collectFields r.shapes.length [] shape bindings = .ok fields from h] at heq
  unfold Registry.sources
  cases hsources : r.collectSources r.shapes.length [] shape bindings with
  | error e =>
    rw [hsources] at heq
    cases heq
  | ok sources =>
    rw [hsources] at heq
    exact ⟨sources, rfl, Except.ok.inj heq⟩

end

/-! ## Ancestors -/

/-- The shape of the one name extends that of the other. -/
def Links (r : Registry) (child parent : String) : Prop :=
  ∃ shape, r.shape? child = some shape ∧ ∃ p ∈ shape.parents, p.shape = parent

/-- The shape of the name declares the field itself. -/
def Declares (r : Registry) (field name : String) : Prop :=
  ∃ shape, r.shape? name = some shape ∧ ∃ own ∈ shape.fields, own.name = field

/-- The shape or an ancestor of it declares the field. -/
def Has (r : Registry) (field name : String) : Prop :=
  ∃ declarer, Relation.ReflTransGen r.Links name declarer ∧ r.Declares field declarer

/-- The shape does not declare the field and takes it from the first of its parents that has it. -/
structure TakesFrom (r : Registry) (field child : String) (parent : Parent)
    (later : List Parent) : Prop where
  shape : ∃ shape, r.shape? child = some shape ∧ (∀ own ∈ shape.fields, own.name ≠ field) ∧
    ∃ earlier, shape.parents = earlier ++ parent :: later ∧ ∀ p ∈ earlier, ¬ r.Has field p.shape
  has : r.Has field parent.shape

/-- The shape takes the field from a parent of the name. -/
def Asks (r : Registry) (field child parent : String) : Prop :=
  ∃ p later, r.TakesFrom field child p later ∧ p.shape = parent

/-- Among the shape and its ancestors one declares the field that descends from the other shape. -/
def Redeclares (r : Registry) (field name origin : String) : Prop :=
  ∃ declarer, Relation.ReflTransGen r.Links name declarer ∧ r.Declares field declarer ∧
    Relation.TransGen r.Links declarer origin

/-- On the way from the shape to where its field is declared, a parent that is not asked redeclares
it. -/
def Bypasses (r : Registry) (field name origin : String) : Prop :=
  ∃ child parent later, Relation.ReflTransGen (r.Asks field) name child ∧
    r.TakesFrom field child parent later ∧
    Relation.ReflTransGen (r.Asks field) parent.shape origin ∧
    ∃ p ∈ later, r.Redeclares field p.shape origin

section
variable {r : Registry}

theorem Asks.links {field child parent : String} (h : r.Asks field child parent) :
    r.Links child parent := by
  obtain ⟨p, later, ⟨⟨shape, hshape, _, earlier, hparents, _⟩, _⟩, hp⟩ := h
  exact ⟨shape, hshape, p, hparents ▸ List.mem_append_right _ List.mem_cons_self, hp⟩

theorem links_of_asks {field name origin : String}
    (h : Relation.ReflTransGen (r.Asks field) name origin) :
    Relation.ReflTransGen r.Links name origin := by
  induction h with
  | refl => exact .refl
  | tail _ hasks ih => exact .tail ih hasks.links

/-- The field is the shape's own, or a parent's. -/
theorem Has.cases {field name : String} {shape : Shape} (h : r.Has field name)
    (hshape : r.shape? name = some shape) :
    (∃ own ∈ shape.fields, own.name = field) ∨ ∃ p ∈ shape.parents, r.Has field p.shape := by
  obtain ⟨declarer, hway, hdeclares⟩ := h
  rcases hway.cases_head with rfl | ⟨parent, ⟨found, hfound, p, hp, rfl⟩, hway⟩
  · obtain ⟨found, hfound, hown⟩ := hdeclares
    cases hshape.symm.trans hfound
    exact .inl hown
  · cases hshape.symm.trans hfound
    exact .inr ⟨p, hp, declarer, hway, hdeclares⟩

/-! ### A shape with fields is not its own ancestor -/

/-- Every link is to a shape that is registered, fits, and has fields itself. -/
theorem of_inheritAll {fieldsOf : Shape → Bindings → Except SpecError (List Field)}
    {bindings : Bindings} {fields all : List Field} {parents : List Parent}
    (h : r.inheritAll fieldsOf bindings fields parents = .ok all) :
    ∀ p ∈ parents, ∃ shape bindings inherited, r.shape? p.shape = some shape ∧
      (p.args.length = 0 ∨ p.args.length = shape.params.length) ∧
      fieldsOf shape bindings = .ok inherited := by
  induction parents generalizing fields with
  | nil => exact fun _ hp => absurd hp List.not_mem_nil
  | cons parent rest ih =>
    unfold inheritAll at h
    obtain ⟨shape, hshape, h⟩ := bind_eq_ok.mp h
    obtain ⟨_, hfit, h⟩ := bind_eq_ok.mp h
    obtain ⟨inherited, hinherited, hrest⟩ := bind_eq_ok.mp h
    refine List.forall_mem_cons.mpr ⟨?_, ih hrest⟩
    exact ⟨shape, _, inherited, lookup_eq_ok.mp hshape, checkArity_eq_ok.mp hfit, hinherited⟩

theorem acc_of_collectFields {steps : Nat} {lineage : List String} {shape : Shape}
    {bindings : Bindings} {fields : List Field} (hshape : r.shape? shape.name = some shape)
    (h : r.collectFields steps lineage shape bindings = .ok fields) :
    Acc (fun parent child => r.Links child parent) shape.name := by
  induction steps generalizing lineage shape bindings fields with
  | zero => cases h
  | succ steps ih =>
    obtain ⟨_, _, ⟨⟩, _, hinherited, _⟩ := of_collectFields h
    refine .intro _ ?_
    rintro _ ⟨found, hfound, p, hp, rfl⟩
    cases hshape.symm.trans hfound
    obtain ⟨parent, _, _, hparent, _, hfields⟩ := of_inheritAll hinherited p hp
    have hname := name_of_shape? hparent
    rw [← hname] at hparent ⊢
    exact ih hparent hfields

theorem not_links_self {name : String} (h : Acc (fun parent child => r.Links child parent) name) :
    ¬ Relation.TransGen r.Links name name := by
  induction h with
  | intro name _ ih =>
    intro hloop
    obtain ⟨parent, hlink, hback⟩ := Relation.TransGen.head'_iff.mp hloop
    exact ih parent hlink (Relation.TransGen.tail' hback hlink)

theorem acc_of_way {name ancestor : String}
    (h : Acc (fun parent child => r.Links child parent) name)
    (hway : Relation.ReflTransGen r.Links name ancestor) :
    Acc (fun parent child => r.Links child parent) ancestor := by
  induction hway with
  | refl => exact h
  | tail _ hlink ih => exact ih.inv hlink

end

end Registry

/-! ## The way to the declaration -/

/-- A shape of the name takes the field from the declaration. -/
structure Source.Of (r : Registry) (name : String) (s : Source) : Prop where
  declared : ∃ shape, r.shape? s.shape = some shape ∧ s.declared ∈ shape.fields
  way : Relation.ReflTransGen (r.Asks s.name) name s.shape

namespace Registry

/-- The sources of the fields that a shape of the name has. -/
structure SourcesOf (r : Registry) (name : String) (sources : List Source) : Prop where
  of : ∀ s ∈ sources, s.Of r name
  complete : ∀ field, r.Has field name → ∃ s ∈ sources, s.name = field

/-- The sources of the fields that the parents have, each from the first that has it. -/
structure Inherited (r : Registry) (parents : List Parent) (sources : List Source) : Prop where
  nodup : (sources.map Source.name).Nodup
  of : ∀ s ∈ sources, ∃ earlier p later, parents = earlier ++ p :: later ∧
    (∀ q ∈ earlier, ¬ r.Has s.name q.shape) ∧ s.Of r p.shape
  complete : ∀ p ∈ parents, ∀ field, r.Has field p.shape → ∃ s ∈ sources, s.name = field

section
variable {r : Registry} {bindings : Bindings}

theorem has_of_source {name : String} {s : Source} (h : s.Of r name) : r.Has s.name name := by
  obtain ⟨shape, hshape, hdeclared⟩ := h.declared
  exact ⟨s.shape, links_of_asks h.way, shape, hshape, s.declared, hdeclared, rfl⟩

/-! ### Inherited declarations -/

theorem mem_inheritSources {s : Source} {sources inherited : List Source}
    (h : s ∈ inheritSources sources inherited) :
    s ∈ sources ∨ s ∈ inherited ∧ ∀ t ∈ sources, t.name ≠ s.name := by
  induction inherited generalizing sources with
  | nil => exact .inl h
  | cons t inherited ih =>
    have hstep := @ih (inheritSource sources t) h
    unfold inheritSource at hstep
    split at hstep
    · exact hstep.imp id fun ⟨hmem, hnew⟩ => ⟨List.mem_cons_of_mem t hmem, hnew⟩
    · next hnew =>
      simp only [List.any_eq_true, decide_eq_true_eq, not_exists, not_and] at hnew
      rcases hstep with hmem | ⟨hmem, hnew'⟩
      · rcases List.mem_append.mp hmem with hmem | hmem
        · exact .inl hmem
        · obtain rfl := List.mem_singleton.mp hmem
          exact .inr ⟨List.mem_cons_self, hnew⟩
      · exact .inr ⟨List.mem_cons_of_mem t hmem, fun u hu => hnew' u (List.mem_append_left _ hu)⟩

theorem exists_mem_inheritSources {field : String} {sources inherited : List Source}
    (h : (∃ s ∈ sources, s.name = field) ∨ ∃ s ∈ inherited, s.name = field) :
    ∃ s ∈ inheritSources sources inherited, s.name = field := by
  induction inherited generalizing sources with
  | nil => exact h.resolve_right fun ⟨_, hmem, _⟩ => List.not_mem_nil hmem
  | cons t inherited ih =>
    refine @ih (inheritSource sources t) ?_
    unfold inheritSource
    rcases h with ⟨s, hs, hname⟩ | ⟨s, hs, hname⟩
    · refine .inl ⟨s, ?_, hname⟩
      split
      · exact hs
      · exact List.mem_append_left _ hs
    · rcases List.mem_cons.mp hs with rfl | hs
      · left
        split
        · next hany =>
          obtain ⟨u, hu, huname⟩ := List.any_eq_true.mp hany
          exact ⟨u, hu, (of_decide_eq_true huname).trans hname⟩
        · exact ⟨s, List.mem_append_right _ (List.mem_singleton_self s), hname⟩
      · exact .inr ⟨s, hs, hname⟩

theorem nodup_inheritSources {sources : List Source} (h : (sources.map Source.name).Nodup)
    (inherited : List Source) : ((inheritSources sources inherited).map Source.name).Nodup := by
  induction inherited generalizing sources with
  | nil => exact h
  | cons t inherited ih =>
    refine @ih (inheritSource sources t) ?_
    unfold inheritSource
    split
    · exact h
    · next hnew =>
      simp only [List.any_eq_true, decide_eq_true_eq, not_exists, not_and] at hnew
      rw [List.map_append]
      refine List.nodup_append.mpr ⟨h, List.nodup_singleton _, ?_⟩
      rintro name hname _ hname' rfl
      obtain ⟨s, hs, rfl⟩ := List.mem_map.mp hname
      exact hnew s hs (List.mem_singleton.mp hname')

theorem Inherited.nil (r : Registry) : r.Inherited [] [] :=
  ⟨List.nodup_nil, fun _ hs => absurd hs List.not_mem_nil, fun _ hp => absurd hp List.not_mem_nil⟩

theorem Inherited.concat {parents : List Parent} {sources inherited : List Source} {p : Parent}
    (h : r.Inherited parents sources) (hp : r.SourcesOf p.shape inherited) :
    r.Inherited (parents ++ [p]) (inheritSources sources inherited) := by
  refine ⟨nodup_inheritSources h.nodup inherited, fun s hs => ?_, fun q hq field hhas => ?_⟩
  · rcases mem_inheritSources hs with hmem | ⟨hmem, hnew⟩
    · obtain ⟨earlier, q, later, rfl, hearlier, hof⟩ := h.of s hmem
      exact ⟨earlier, q, later ++ [p], by simp, hearlier, hof⟩
    · refine ⟨parents, p, [], rfl, fun q hq hhas => ?_, hp.of s hmem⟩
      obtain ⟨t, ht, hname⟩ := h.complete q hq s.name hhas
      exact hnew t ht hname
  · refine exists_mem_inheritSources ?_
    rcases List.mem_append.mp hq with hq | hq
    · exact .inl (h.complete q hq field hhas)
    · obtain rfl := List.mem_singleton.mp hq
      exact .inr (hp.complete field hhas)

theorem inherited_of_inheritAllSources
    {sourcesOf : Shape → Bindings → Except SpecError (List Source)}
    (hof : ∀ {shape bindings sources}, r.shape? shape.name = some shape →
      sourcesOf shape bindings = .ok sources → r.SourcesOf shape.name sources)
    {before rest : List Parent} {sources all : List Source} (hbefore : r.Inherited before sources)
    (h : r.inheritAllSources sourcesOf bindings sources rest = .ok all) :
    r.Inherited (before ++ rest) all := by
  induction rest generalizing before sources with
  | nil =>
    cases h
    rwa [List.append_nil]
  | cons parent rest ih =>
    unfold inheritAllSources at h
    obtain ⟨shape, hshape, h⟩ := bind_eq_ok.mp h
    obtain ⟨_, _, h⟩ := bind_eq_ok.mp h
    obtain ⟨inherited, hinherited, hrest⟩ := bind_eq_ok.mp h
    have hfound := lookup_eq_ok.mp hshape
    have hname := name_of_shape? hfound
    have hparent : r.SourcesOf parent.shape inherited :=
      hname ▸ hof (by rw [hname]; exact hfound) hinherited
    have hall := ih (hbefore.concat hparent) hrest
    rwa [List.append_assoc] at hall

/-! ### Own declarations -/

theorem map_name_declareSource (source : Source) (sources : List Source) :
    (declareSource source sources).map Source.name = sources.map Source.name ∨
      source.name ∉ sources.map Source.name ∧
        (declareSource source sources).map Source.name = sources.map Source.name ++ [source.name] := by
  induction sources with
  | nil => exact .inr ⟨List.not_mem_nil, rfl⟩
  | cons s sources ih =>
    unfold declareSource
    split
    · next hname => exact .inl (by rw [List.map_cons, List.map_cons, hname])
    · next hname =>
      rw [List.map_cons, List.map_cons]
      rcases ih with hsame | ⟨hnew, hnames⟩
      · exact .inl (by rw [hsame])
      · refine .inr ⟨?_, by rw [hnames, List.cons_append]⟩
        rw [List.mem_cons, not_or]
        exact ⟨Ne.symm hname, hnew⟩

theorem nodup_declareSource {sources : List Source} (h : (sources.map Source.name).Nodup)
    (source : Source) : ((declareSource source sources).map Source.name).Nodup := by
  rcases map_name_declareSource source sources with hsame | ⟨hnew, hnames⟩
  · rwa [hsame]
  · rw [hnames]
    refine List.nodup_append.mpr ⟨h, List.nodup_singleton _, ?_⟩
    rintro name hname _ hname' rfl
    exact hnew (List.mem_singleton.mp hname' ▸ hname)

theorem mem_declareSource {s source : Source} {sources : List Source}
    (hnodup : (sources.map Source.name).Nodup) (h : s ∈ declareSource source sources) :
    s = source ∨ s ∈ sources ∧ source.name ≠ s.name := by
  induction sources with
  | nil => exact .inl (List.mem_singleton.mp h)
  | cons t sources ih =>
    obtain ⟨hnew, hnodup⟩ := List.nodup_cons.mp hnodup
    unfold declareSource at h
    split at h
    · next hname =>
      refine (List.mem_cons.mp h).imp id fun hmem => ⟨List.mem_cons_of_mem t hmem, fun heq => ?_⟩
      exact hnew (List.mem_map.mpr ⟨s, hmem, heq.symm.trans hname.symm⟩)
    · next hname =>
      rcases List.mem_cons.mp h with rfl | hmem
      · exact .inr ⟨List.mem_cons_self, Ne.symm hname⟩
      · exact (ih hnodup hmem).imp id fun ⟨hmem, hne⟩ => ⟨List.mem_cons_of_mem t hmem, hne⟩

theorem mem_declareOwnSources {shape : String} {s : Source} {sources : List Source}
    {own : List Field} (hnodup : (sources.map Source.name).Nodup)
    (h : s ∈ declareOwnSources shape bindings sources own) :
    (s ∈ sources ∧ ∀ o ∈ own, o.name ≠ s.name) ∨
      s.shape = shape ∧ s.declared ∈ own := by
  induction own generalizing sources with
  | nil => exact .inl ⟨h, fun _ ho => absurd ho List.not_mem_nil⟩
  | cons o own ih =>
    rcases ih (nodup_declareSource hnodup _) h with ⟨hmem, hother⟩ | ⟨hshape, hdeclared⟩
    · rcases mem_declareSource hnodup hmem with rfl | ⟨hmem, hne⟩
      · exact .inr ⟨rfl, List.mem_cons_self⟩
      · exact .inl ⟨hmem, List.forall_mem_cons.mpr ⟨hne, hother⟩⟩
    · exact .inr ⟨hshape, List.mem_cons_of_mem o hdeclared⟩

theorem mem_names_declareSource {field : String} {source : Source} {sources : List Source}
    (h : field = source.name ∨ field ∈ sources.map Source.name) :
    field ∈ (declareSource source sources).map Source.name := by
  induction sources with
  | nil => exact List.mem_cons.mpr h
  | cons s sources ih =>
    unfold declareSource
    rw [List.map_cons, List.mem_cons] at h
    split
    · next hname =>
      rw [List.map_cons, List.mem_cons]
      exact h.elim .inl fun h => h.imp (·.trans hname) id
    · rw [List.map_cons, List.mem_cons]
      rcases h with h | h | h
      · exact .inr (ih (.inl h))
      · exact .inl h
      · exact .inr (ih (.inr h))

theorem mem_names_declareOwnSources {field shape : String} {sources : List Source}
    {own : List Field} (h : field ∈ sources.map Source.name ∨ ∃ o ∈ own, o.name = field) :
    field ∈ (declareOwnSources shape bindings sources own).map Source.name := by
  induction own generalizing sources with
  | nil => exact h.resolve_right fun ⟨_, hmem, _⟩ => List.not_mem_nil hmem
  | cons o own ih =>
    refine @ih (declareSource ⟨shape, o, bindings⟩ sources) ?_
    rcases h with h | ⟨p, hp, hname⟩
    · exact .inl (mem_names_declareSource (.inr h))
    · rcases List.mem_cons.mp hp with rfl | hp
      · exact .inl (mem_names_declareSource (.inl hname.symm))
      · exact .inr ⟨p, hp, hname⟩

/-- A shape's own declarations come before those of its parents. -/
theorem Inherited.declareOwn {shape : Shape} (hshape : r.shape? shape.name = some shape)
    {sources : List Source} (h : r.Inherited shape.parents sources) :
    r.SourcesOf shape.name (declareOwnSources shape.name bindings sources shape.fields) := by
  refine ⟨fun s hs => ?_, fun field hhas => ?_⟩
  · rcases mem_declareOwnSources h.nodup hs with ⟨hmem, hother⟩ | ⟨hname, hdeclared⟩
    · obtain ⟨earlier, p, later, hparents, hearlier, hof⟩ := h.of s hmem
      have htakes : r.TakesFrom s.name shape.name p later :=
        ⟨⟨shape, hshape, hother, earlier, hparents, hearlier⟩, has_of_source hof⟩
      exact ⟨hof.declared, .head ⟨p, later, htakes, rfl⟩ hof.way⟩
    · exact ⟨⟨shape, hname ▸ hshape, hdeclared⟩, hname ▸ .refl⟩
  · refine List.mem_map.mp (mem_names_declareOwnSources ?_)
    rcases hhas.cases hshape with hown | ⟨p, hp, hparent⟩
    · exact .inr hown
    · exact .inl (List.mem_map.mpr (h.complete p hp field hparent))

/-- The declarations that the fields are taken from are those of the parents, with the shape's own put
in their place or behind them. -/
theorem exists_inherited_of_collectSources {steps : Nat} {lineage : List String} {shape : Shape}
    {sources : List Source} (h : r.collectSources steps lineage shape bindings = .ok sources) :
    ∃ inherited, r.Inherited shape.parents inherited ∧
      sources = declareOwnSources shape.name bindings inherited shape.fields := by
  induction steps generalizing lineage shape bindings sources with
  | zero => cases h
  | succ steps ih =>
    unfold collectSources at h
    split at h
    · cases h
    · obtain ⟨inherited, hinherited, hown⟩ := bind_eq_ok.mp h
      cases hown
      refine ⟨inherited, inherited_of_inheritAllSources (fun hshape hparent => ?_) (.nil r) hinherited,
        rfl⟩
      obtain ⟨handed, hhanded, rfl⟩ := ih hparent
      exact hhanded.declareOwn hshape

theorem sourcesOf_collectSources {steps : Nat} {lineage : List String} {shape : Shape}
    {sources : List Source} (hshape : r.shape? shape.name = some shape)
    (h : r.collectSources steps lineage shape bindings = .ok sources) :
    r.SourcesOf shape.name sources := by
  obtain ⟨inherited, hinherited, rfl⟩ := exists_inherited_of_collectSources h
  exact hinherited.declareOwn hshape

/-! ### Declarations that are bypassed -/

theorem redeclares_of_bypasses {field name origin : String} (h : r.Bypasses field name origin) :
    r.Redeclares field name origin := by
  obtain ⟨child, parent, later, hway, ⟨⟨shape, hshape, _, earlier, hparents, _⟩, _⟩, _, p, hp,
    declarer, habove, hdeclares, hbelow⟩ := h
  have hlink : r.Links child p.shape := ⟨shape, hshape, p,
    hparents ▸ List.mem_append_right _ (List.mem_cons_of_mem parent hp), rfl⟩
  exact ⟨declarer, (links_of_asks hway).trans (.head hlink habove), hdeclares, hbelow⟩

/-- Whatever redeclares the field lies behind a parent that comes too late. -/
theorem bypasses_of_redeclares {field name origin : String}
    (hway : Relation.ReflTransGen (r.Asks field) name origin)
    (hacyclic : ¬ Relation.TransGen r.Links origin origin) (h : r.Redeclares field name origin) :
    r.Bypasses field name origin := by
  induction hway using Relation.ReflTransGen.head_induction_on with
  | refl =>
    obtain ⟨declarer, habove, _, hbelow⟩ := h
    exact absurd (Relation.TransGen.trans_right habove hbelow) hacyclic
  | head hasks hrest ih =>
    obtain ⟨parent, later, htakes, rfl⟩ := hasks
    obtain ⟨declarer, habove, hdeclares, hbelow⟩ := h
    obtain ⟨shape, hshape, hother, earlier, hparents, hearlier⟩ := htakes.shape
    rcases habove.cases_head with rfl | ⟨_, ⟨found, hfound, p, hp, rfl⟩, habove⟩
    · obtain ⟨found, hfound, own, hown, hname⟩ := hdeclares
      cases hshape.symm.trans hfound
      exact absurd hname (hother own hown)
    · cases hshape.symm.trans hfound
      rw [hparents] at hp
      rcases List.mem_append.mp hp with hp | hp
      · exact absurd ⟨declarer, habove, hdeclares⟩ (hearlier p hp)
      · rcases List.mem_cons.mp hp with rfl | hp
        · obtain ⟨child, parent', later', hway', htakes', hrest', hlate⟩ :=
            ih ⟨declarer, habove, hdeclares, hbelow⟩
          exact ⟨child, parent', later', .head ⟨p, later, htakes, rfl⟩ hway', htakes', hrest', hlate⟩
        · exact ⟨_, parent, later, .refl, htakes, hrest, p, hp, declarer, habove, hdeclares, hbelow⟩

theorem redeclares_iff_bypasses {shape : Shape} {fields : List Field} {sources : List Source}
    (hshape : r.shape? shape.name = some shape)
    (hfields : r.effectiveFields shape bindings = .ok fields)
    (hsources : r.sources shape bindings = .ok sources) {s : Source} (hs : s ∈ sources) :
    r.Redeclares s.name shape.name s.shape ↔ r.Bypasses s.name shape.name s.shape := by
  have hway := ((sourcesOf_collectSources hshape hsources).of s hs).way
  have hacyclic := not_links_self
    (acc_of_way (acc_of_collectFields hshape hfields) (links_of_asks hway))
  exact ⟨bypasses_of_redeclares hway hacyclic, redeclares_of_bypasses⟩

/-- Where no shape extends two others, no parent can be bypassed. -/
theorem not_redeclares_of_single_parents (hsingle : ∀ shape ∈ r.shapes, shape.parents.length ≤ 1)
    {shape : Shape} {fields : List Field} {sources : List Source}
    (hshape : r.shape? shape.name = some shape)
    (hfields : r.effectiveFields shape bindings = .ok fields)
    (hsources : r.sources shape bindings = .ok sources) :
    ∀ s ∈ sources, ¬ r.Redeclares s.name shape.name s.shape := by
  intro s hs hredeclares
  obtain ⟨child, parent, later, _, htakes, _, p, hp, _⟩ :=
    (redeclares_iff_bypasses hshape hfields hsources hs).mp hredeclares
  obtain ⟨found, hfound, _, earlier, hparents, _⟩ := htakes.shape
  have hlength := hsingle found (List.mem_of_find?_eq_some hfound)
  have hlater := List.length_pos_of_mem hp
  rw [hparents, List.length_append, List.length_cons] at hlength
  omega

end

/-- Each field of a shape is as a declaration of it says, and the declaration is redeclared further
down in the shape's ancestry if and only if it is so behind a parent that is bypassed. -/
theorem effectiveFields_redeclares_iff {r : Registry} {shape : Shape} {bindings : Bindings}
    {fields : List Field} (hshape : r.shape? shape.name = some shape)
    (hfields : r.effectiveFields shape bindings = .ok fields) :
    ∃ sources, r.sources shape bindings = .ok sources ∧ sources.map Source.field = fields ∧
      ∀ s ∈ sources, (∃ declarer, r.shape? s.shape = some declarer ∧ s.declared ∈ declarer.fields) ∧
        (r.Redeclares s.name shape.name s.shape ↔ r.Bypasses s.name shape.name s.shape) := by
  obtain ⟨sources, hsources, hmap⟩ := map_field_sources hfields
  have hof := sourcesOf_collectSources hshape hsources
  refine ⟨sources, hsources, hmap, fun s hs => ⟨(hof.of s hs).declared, ?_⟩⟩
  exact redeclares_iff_bypasses hshape hfields hsources hs

/-! ## A diamond -/

def bottom : Shape := ⟨"Bottom", [], [], [⟨"Left", []⟩, ⟨"Right", []⟩]⟩

def diamond : Registry :=
  ⟨"shapes", .default,
    [⟨"Base", [], [⟨"f", .leaf .int⟩], []⟩,
      ⟨"Left", [], [], [⟨"Base", []⟩]⟩,
      ⟨"Right", [], [⟨"f", .leaf .string⟩], [⟨"Base", []⟩]⟩,
      bottom]⟩

/-- The field is taken from the base through the parent on the left, and the one on the right,
which declares it anew, is bypassed. -/
theorem effectiveFields_redeclares_iff_diamond :
    diamond.shape? bottom.name = some bottom ∧
      diamond.effectiveFields bottom [] = .ok [⟨"f", .leaf .int⟩] ∧
      ∃ sources, diamond.sources bottom [] = .ok sources ∧
        sources.map Source.field = [⟨"f", .leaf .int⟩] ∧
        ∀ s ∈ sources,
          (∃ declarer, diamond.shape? s.shape = some declarer ∧ s.declared ∈ declarer.fields) ∧
            (diamond.Redeclares s.name bottom.name s.shape ↔
              diamond.Bypasses s.name bottom.name s.shape) :=
  ⟨by decide, by decide, effectiveFields_redeclares_iff (by decide) (by decide)⟩

theorem diamond_redeclares :
    diamond.effectiveFields bottom [] = .ok [⟨"f", .leaf .int⟩] ∧
      diamond.sources bottom [] = .ok [⟨"Base", ⟨"f", .leaf .int⟩, []⟩] ∧
      diamond.Redeclares "f" "Bottom" "Base" := by
  have hright : diamond.Links "Right" "Base" :=
    ⟨⟨"Right", [], [⟨"f", .leaf .string⟩], [⟨"Base", []⟩]⟩, by decide, ⟨"Base", []⟩, by decide, rfl⟩
  have hbottom : diamond.Links "Bottom" "Right" :=
    ⟨bottom, by decide, ⟨"Right", []⟩, by decide, rfl⟩
  have hdeclares : diamond.Declares "f" "Right" :=
    ⟨⟨"Right", [], [⟨"f", .leaf .string⟩], [⟨"Base", []⟩]⟩, by decide, ⟨"f", .leaf .string⟩,
      by decide, rfl⟩
  exact ⟨by decide, rfl, "Right", .single hbottom, hdeclares, .single hright⟩

end Registry

end Conform

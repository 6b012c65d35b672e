import Conform.Proofs.Registry.Left
import Conform.Proofs.Registry.Overriding
/-!
Ancestries. A shape has fields if and only if all of its ancestors are registered, each link to one
of them gives no arguments or as many as the ancestor takes, and none of them is its own ancestor. On
how many ways an ancestor is come to does not matter.
-/

namespace Conform.Registry

/-- The shape of the one name is the other's, or extends it over any number of links. -/
def Inherits (r : Registry) : String → String → Prop := Relation.ReflTransGen r.Links

/-- The shape of the name is its own ancestor. -/
def InheritsItself (r : Registry) (name : String) : Prop := Relation.TransGen r.Links name name

structure SoundAncestry (r : Registry) (name : String) : Prop where
  registered : ∀ ancestor, r.Inherits name ancestor → ∃ shape, r.shape? ancestor = some shape
  fitting : ∀ child, r.Inherits name child → ∀ shape, r.shape? child = some shape →
    ∀ p ∈ shape.parents, ∀ parent, r.shape? p.shape = some parent →
      p.args.length = 0 ∨ p.args.length = parent.params.length
  acyclic : ∀ ancestor, r.Inherits name ancestor → ¬ r.InheritsItself ancestor

/-- What an error says is wrong with the ancestry of a shape, and is. -/
inductive UnsoundAncestry (r : Registry) (name : String) : SpecError → Prop
  | unregistered {ancestor : String} : r.Inherits name ancestor → r.shape? ancestor = none →
    UnsoundAncestry r name (.unknownShape ancestor)
  | unfitting {child : String} {shape parent : Shape} {p : Parent} : r.Inherits name child →
    r.shape? child = some shape → p ∈ shape.parents → r.shape? p.shape = some parent →
    ¬ (p.args.length = 0 ∨ p.args.length = parent.params.length) →
    UnsoundAncestry r name (.argumentCount p.shape parent.params.length p.args.length)
  | cyclic {ancestor : String} : r.Inherits name ancestor → r.InheritsItself ancestor →
    UnsoundAncestry r name (.cyclicInheritance ancestor)

section
variable {r : Registry} {name : String} {shape : Shape} {bindings : Bindings} {fields : List Field}
  {e : SpecError}

theorem UnsoundAncestry.not_sound (h : r.UnsoundAncestry name e) : ¬ r.SoundAncestry name := by
  intro hsound
  cases h with
  | unregistered hway hnone =>
    obtain ⟨found, hfound⟩ := hsound.registered _ hway
    cases hnone.symm.trans hfound
  | unfitting hway hshape hp hparent hunfit =>
    exact hunfit (hsound.fitting _ hway _ hshape _ hp _ hparent)
  | cyclic hway hitself => exact hsound.acyclic _ hway hitself

theorem links_of_mem (hshape : r.shape? shape.name = some shape) {p : Parent}
    (hp : p ∈ shape.parents) : r.Links shape.name p.shape :=
  ⟨shape, hshape, p, hp, rfl⟩

/-! ## Shapes with fields -/

/-- Every parent of a shape that has fields is registered, fits, and has fields itself. -/
theorem parent_of_collectFields {steps : Nat} {lineage : List String}
    (h : r.collectFields steps lineage shape bindings = .ok fields) :
    ∀ p ∈ shape.parents, ∃ parent, r.shape? p.shape = some parent ∧
      (p.args.length = 0 ∨ p.args.length = parent.params.length) ∧
      ∃ steps lineage bindings inherited,
        r.collectFields steps lineage parent bindings = .ok inherited := by
  obtain ⟨_, _, _, _, hall, _⟩ := of_collectFields h
  intro p hp
  obtain ⟨parent, _, inherited, hparent, hfit, hinherited⟩ := of_inheritAll hall p hp
  exact ⟨parent, hparent, hfit, _, _, _, inherited, hinherited⟩

/-- Ancestors of a shape that has fields are registered and have fields. -/
theorem ancestor_of_collectFields {steps : Nat} {lineage : List String} {ancestor : String}
    (hshape : r.shape? shape.name = some shape)
    (h : r.collectFields steps lineage shape bindings = .ok fields)
    (hway : r.Inherits shape.name ancestor) :
    ∃ found, r.shape? ancestor = some found ∧ ∃ steps lineage bindings fields,
      r.collectFields steps lineage found bindings = .ok fields := by
  induction hway with
  | refl => exact ⟨shape, hshape, _, _, _, _, h⟩
  | tail _ hlink ih =>
    obtain ⟨found, hfound, _, _, _, _, hfields⟩ := ih
    obtain ⟨child, hchild, p, hp, rfl⟩ := hlink
    cases hfound.symm.trans hchild
    obtain ⟨parent, hparent, _, hparentFields⟩ := parent_of_collectFields hfields p hp
    exact ⟨parent, hparent, hparentFields⟩

theorem soundAncestry_of_collectFields {steps : Nat} {lineage : List String}
    (hshape : r.shape? shape.name = some shape)
    (h : r.collectFields steps lineage shape bindings = .ok fields) :
    r.SoundAncestry shape.name where
  registered := by
    intro ancestor hway
    obtain ⟨found, hfound, _⟩ := ancestor_of_collectFields hshape h hway
    exact ⟨found, hfound⟩
  fitting := by
    intro child hway found hfound p hp parent hparent
    obtain ⟨found', hfound', _, _, _, _, hfields⟩ := ancestor_of_collectFields hshape h hway
    cases hfound.symm.trans hfound'
    obtain ⟨parent', hparent', hfit, _⟩ := parent_of_collectFields hfields p hp
    cases hparent.symm.trans hparent'
    exact hfit
  acyclic := by
    intro ancestor hway
    exact not_links_self (acc_of_way (acc_of_collectFields hshape h) hway)

/-! ## Shapes without fields -/

/-- The lineage leads from `root` down to the shape: its names are registered and different, and
each of them is a descendant of the shape. -/
structure LeadsTo (r : Registry) (root : String) (lineage : List String) (name : String) : Prop where
  stacked : r.Stacked lineage
  way : r.Inherits root name
  below : ∀ l ∈ lineage, Relation.TransGen r.Links l name

theorem leadsTo_nil (r : Registry) (name : String) : r.LeadsTo name [] name :=
  ⟨stacked_nil r, .refl, fun _ h => absurd h List.not_mem_nil⟩

theorem LeadsTo.push {root : String} {lineage : List String} {parent : String}
    (h : r.LeadsTo root lineage name) (hregistered : name ∈ r.shapes.map (·.name))
    (hnew : name ∉ lineage) (hlink : r.Links name parent) :
    r.LeadsTo root (name :: lineage) parent := by
  refine ⟨h.stacked.push hregistered hnew, h.way.tail hlink, List.forall_mem_cons.mpr ⟨?_, ?_⟩⟩
  · exact .single hlink
  · exact fun l hl => (h.below l hl).tail hlink

theorem name_mem_of_shape? (hshape : r.shape? name = some shape) :
    name ∈ r.shapes.map (·.name) :=
  name_of_shape? hshape ▸ List.mem_map_of_mem (List.mem_of_find?_eq_some hshape)

theorem lookup_eq_error : r.lookup name = .error e ↔ r.shape? name = none ∧ e = .unknownShape name := by
  unfold lookup
  cases r.shape? name with
  | none => simp [eq_comm]
  | some found => simp

theorem checkArity_eq_error {n : Nat} : checkArity shape n = .error e ↔
    ¬ (n = 0 ∨ n = shape.params.length) ∧ e = .argumentCount shape.name shape.params.length n := by
  unfold checkArity
  split
  · next hfit => exact iff_of_false (fun h => by cases h) (fun h => h.1 hfit)
  · next hunfit => simp [hunfit, eq_comm]

/-- An error among the parents is about one of the links, or comes from one of the parents. -/
theorem parent_of_inheritAll_error {fieldsOf : Shape → Bindings → Except SpecError (List Field)}
    {parents : List Parent} (h : r.inheritAll fieldsOf bindings fields parents = .error e) :
    ∃ p ∈ parents, r.shape? p.shape = none ∧ e = .unknownShape p.shape ∨
      ∃ parent, r.shape? p.shape = some parent ∧
        (¬ (p.args.length = 0 ∨ p.args.length = parent.params.length) ∧
            e = .argumentCount p.shape parent.params.length p.args.length ∨
          ∃ bindings, fieldsOf parent bindings = .error e) := by
  induction parents generalizing fields with
  | nil => cases h
  | cons p rest ih =>
    unfold inheritAll at h
    rcases bind_eq_error.mp h with hmissing | ⟨parent, hparent, h⟩
    · exact ⟨p, List.mem_cons_self, .inl (lookup_eq_error.mp hmissing)⟩
    replace hparent := lookup_eq_ok.mp hparent
    rcases bind_eq_error.mp h with hunfit | ⟨_, _, h⟩
    · obtain ⟨hnot, rfl⟩ := checkArity_eq_error.mp hunfit
      rw [name_of_shape? hparent]
      exact ⟨p, List.mem_cons_self, .inr ⟨parent, hparent, .inl ⟨hnot, rfl⟩⟩⟩
    rcases bind_eq_error.mp h with hfields | ⟨_, _, hrest⟩
    · exact ⟨p, List.mem_cons_self, .inr ⟨parent, hparent, .inr ⟨_, hfields⟩⟩⟩
    · obtain ⟨q, hq, hcause⟩ := ih hrest
      exact ⟨q, List.mem_cons_of_mem p hq, hcause⟩

/-- A name is met again on its own lineage only if its shape is its own ancestor. When the steps are
used up the lineage is as long as the registry, so the name is on it. -/
theorem unsound_of_collectFields {root : String} {steps : Nat} {lineage : List String}
    (hshape : r.shape? shape.name = some shape) (hlineage : r.LeadsTo root lineage shape.name)
    (hsteps : steps + lineage.length = r.shapes.length)
    (h : r.collectFields steps lineage shape bindings = .error e) : r.UnsoundAncestry root e := by
  have hregistered := name_mem_of_shape? hshape
  induction steps generalizing lineage shape bindings with
  | zero =>
    cases h
    by_cases hmem : shape.name ∈ lineage
    · exact .cyclic hlineage.way (hlineage.below _ hmem)
    · have hlt := hlineage.stacked.length_lt hregistered hmem
      omega
  | succ steps ih =>
    unfold collectFields at h
    split at h
    · next hmem =>
      cases h
      exact .cyclic hlineage.way (hlineage.below _ (by simpa using hmem))
    · next hnew =>
      replace hnew : shape.name ∉ lineage := by simpa using hnew
      rcases bind_eq_error.mp h with hinherited | ⟨_, _, hown⟩
      · obtain ⟨p, hp, hcause⟩ := parent_of_inheritAll_error hinherited
        have hlineage' := hlineage.push hregistered hnew (links_of_mem hshape hp)
        rcases hcause with ⟨hnone, rfl⟩ | ⟨parent, hparent, ⟨hunfit, rfl⟩ | ⟨_, hfields⟩⟩
        · exact .unregistered hlineage'.way hnone
        · exact .unfitting hlineage.way hshape hp hparent hunfit
        · have hname := name_of_shape? hparent
          rw [← hname] at hparent hlineage'
          exact ih hparent hlineage' (by rw [List.length_cons]; omega) hfields
            (name_mem_of_shape? hparent)
      · cases hown

theorem SoundAncestry.exists_fields (h : r.SoundAncestry shape.name)
    (hshape : r.shape? shape.name = some shape) (bindings : Bindings) :
    ∃ fields, r.effectiveFields shape bindings = .ok fields := by
  cases hfields : r.effectiveFields shape bindings with
  | ok fields => exact ⟨fields, rfl⟩
  | error e =>
    exact absurd h (unsound_of_collectFields hshape (leadsTo_nil r shape.name) rfl hfields).not_sound

end

/-- A shape has fields if and only if its ancestry is sound. If it has none, the error names what is
wrong with it, so a cycle is reported of none but a shape that is its own ancestor. -/
theorem effectiveFields_ok_iff {r : Registry} {shape : Shape}
    (hshape : r.shape? shape.name = some shape) (bindings : Bindings) :
    ((∃ fields, r.effectiveFields shape bindings = .ok fields) ↔ r.SoundAncestry shape.name) ∧
      (∀ e, r.effectiveFields shape bindings = .error e → r.UnsoundAncestry shape.name e) ∧
      ∀ name, r.effectiveFields shape bindings = .error (.cyclicInheritance name) →
        r.Inherits shape.name name ∧ r.InheritsItself name := by
  have herror : ∀ e, r.effectiveFields shape bindings = .error e →
      r.UnsoundAncestry shape.name e :=
    fun e => unsound_of_collectFields hshape (leadsTo_nil r shape.name) rfl
  refine ⟨⟨?_, ?_⟩, herror, ?_⟩
  · rintro ⟨fields, hfields⟩
    exact soundAncestry_of_collectFields hshape hfields
  · exact fun hsound => hsound.exists_fields hshape bindings
  · intro name hcyclic
    cases herror _ hcyclic with
    | cyclic hway hitself => exact ⟨hway, hitself⟩

/-- The bottom once more, over a base that extends one of the shapes between. -/
def loop : Registry :=
  ⟨"shapes", .default,
    [⟨"Base", [], [⟨"f", .leaf .int⟩], [⟨"Right", []⟩]⟩,
      ⟨"Left", [], [], []⟩,
      ⟨"Right", [], [⟨"f", .leaf .string⟩], [⟨"Base", []⟩]⟩,
      bottom]⟩

theorem effectiveFields_ok_iff_diamond :
    diamond.shape? bottom.name = some bottom ∧ loop.shape? bottom.name = some bottom ∧
      diamond.SoundAncestry bottom.name ∧ ¬ loop.SoundAncestry bottom.name ∧
      loop.InheritsItself "Right" := by
  have hdiamond : diamond.shape? bottom.name = some bottom := by decide
  have hloop : loop.shape? bottom.name = some bottom := by decide
  have hfields : diamond.effectiveFields bottom [] = .ok [⟨"f", .leaf .int⟩] := by decide
  have herror : loop.effectiveFields bottom [] = .error (.cyclicInheritance "Right") := by decide
  obtain ⟨hsound, _⟩ := effectiveFields_ok_iff hdiamond []
  obtain ⟨_, hunsound, hcyclic⟩ := effectiveFields_ok_iff hloop []
  exact ⟨hdiamond, hloop, hsound.mp ⟨_, hfields⟩, (hunsound _ herror).not_sound,
    (hcyclic _ herror).2⟩

end Conform.Registry

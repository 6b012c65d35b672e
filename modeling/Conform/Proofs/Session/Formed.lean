import Conform.Proofs.Registry.Names
import Conform.Proofs.Session.Lasting
import Conform.Proofs.Session.Normal
import Conform.Proofs.Shape.Declaring
/-!
The form of what derived specs make. Where keys that are not declared are dropped or refused, a record
has its fields as keys: each once, and in the order of the fields, however the keys of the input stand.
The dictionary sees to it, and the check of placeholders hands on what the dictionary made.
-/

namespace Conform

open Check (Ensures)
open Session (IntactOver)

section
variable (r : Registry)

mutual

/-- The value has the form of the kind. All through it, the keys of a record are its fields. -/
inductive Formed : Kind → Value → Prop
  | leaf {k : ValueKind} {v : Value} : v.kind = k → Formed (.leaf k) v
  | nothing {v : Value} : v.kind = .null → Formed .nothing v
  | placeholder (p : String) (v : Value) : Formed (.placeholder p) v
  | list {k : Kind} {v : Value} {items : List Value} :
    v.items? = some items → (∀ w ∈ items, Formed k w) → Formed (.list k) v
  | union {k : Kind} {ks : List Kind} {v : Value} : k ∈ ks → Formed k v → Formed (.union ks) v
  | record {name : String} {args : List Kind} {fields : List Field} {pairs : List (String × Value)} :
    r.fieldsOf (name, args) = .ok fields → FormedFields fields pairs →
      Formed (.record name args) (.object pairs)
  | forward {name : String} {args : List Kind} {v : Value} :
    r.contains name = true → Formed (.record name args) v → Formed (.forward name args) v
  | builtin {name : String} {args : List Kind} {kind : ValueKind} {v : Value} :
    r.builtin? name args = some kind → v.kind = kind → Formed (.forward name args) v

inductive FormedFields : List Field → List (String × Value) → Prop
  | nil : FormedFields [] []
  | cons {f : Field} {v : Value} {fs : List Field} {pairs : List (String × Value)} :
    Formed f.kind v → FormedFields fs pairs → FormedFields (f :: fs) ((f.name, v) :: pairs)

end

/-- What is referred to is of the form that the reference promises. -/
def FormedBehind : Target → Value → Prop
  | .bound _, _ => False
  | .shape _ name args, v => Formed r (.record name args) v
  | .forward _ name args, v => Formed r (.forward name args) v

end

section
variable {r : Registry} {fields : List Field}

theorem FormedFields.names_eq : ∀ {fields : List Field} {pairs : List (String × Value)},
    FormedFields r fields pairs → pairs.map (·.1) = fields.map (·.name)
  | _, _, .nil => rfl
  | _, _, .cons (f := f) _ h => congrArg (f.name :: ·) h.names_eq

theorem Formed.of_record {name : String} {args : List Kind} {v : Value}
    (h : Formed r (.record name args) v) : ∃ shape fields pairs, r.shape? name = some shape ∧
      r.effectiveFields shape (Registry.bind shape.params args) = .ok fields ∧
      v = .object pairs ∧ pairs.map (·.1) = fields.map (·.name) ∧ (pairs.map (·.1)).Nodup := by
  cases h with
  | @record _ _ fields pairs hfields hpairs =>
    obtain ⟨shape, happlied, heffective⟩ := Registry.bind_eq_ok.mp hfields
    obtain ⟨hlookup, _⟩ := Registry.applied_eq_ok.mp happlied
    have hnames := hpairs.names_eq
    refine ⟨shape, fields, pairs, Registry.lookup_eq_ok.mp hlookup, heffective, rfl, hnames, ?_⟩
    rw [hnames]
    exact Registry.distinct_fieldsOf hfields

/-! ## Walks -/

open Conformed (yields_invalid yields_valid yields_ofBool)

namespace Spec

variable {I : Session → Prop} {d : Delegate} {form : Value → Prop}

/-- Whatever a walk of the spec makes of a value has the form. -/
def Forming (I : Session → Prop) (d : Delegate) (s : Spec) (form : Value → Prop) : Prop :=
  ∀ v, Ensures True I (conformWith d s v) (·.Yields form)

/-- Whatever a walk of the keys makes of a value has the form of the fields. -/
def FormingFields (I : Session → Prop) (d : Delegate) (r : Registry) (keys : List (String × Spec))
    (fields : List Field) : Prop :=
  ∀ v, Ensures True I (conformKeys d keys v) fun made =>
    ∀ declared, made = some declared → FormedFields r fields declared

theorem Forming.mono {s : Spec} {form' : Value → Prop} (h : Forming I d s form)
    (himp : ∀ v, form v → form' v) : Forming I d s form' :=
  fun v => (h v).mono fun _ hc w hw => himp w (hc w hw)

theorem forming_isInstance (i : Instance) {kind : ValueKind} (h : ∀ v : Value, v.kind = kind → form v) :
    Forming I d (isInstance i kind) form := by
  intro v
  unfold conformWith
  exact Ensures.pure (yields_ofBool fun hkind => h v (of_decide_eq_true hkind))

theorem Forming.decorated {s : Spec} (h : Forming I d s form) (i : Instance)
    (label : Option String) : Forming I d (decorated i s label) form := by
  intro v
  rw [conformWith_decorated]
  exact h v

theorem Forming.collOf {item : Spec} (h : Forming I d item form) (i : Instance) :
    Forming I d (collOf i item) fun v => ∃ items, v.items? = some items ∧ ∀ w ∈ items, form w := by
  intro v
  unfold conformWith
  cases v with
  | list vs | tuple vs =>
    have hitems : ∀ u ∈ vs, Ensures True I (conformWith d item u) (·.Yields fun w => form w ∧ True) :=
      fun u _ => (h u).mono fun c hc w hw => ⟨hc w hw, trivial⟩
    refine (conformItems_forall₂ hitems).bind fun made hmade => ?_
    cases made with
    | some ws =>
      obtain ⟨hformed, _⟩ := (List.forall₂_and_left ws vs).mp (hmade ws rfl)
      exact Ensures.pure (yields_valid ⟨ws, rfl, hformed⟩)
    | none => exact Ensures.pure (yields_invalid _)
  | null | bool | int | float | string | bytes | object => exact Ensures.pure (yields_invalid _)

/-- The check that fields agree hands on what came to it. -/
theorem Forming.agreeing {s : Spec} (h : Forming I d s form) (i j : Instance)
    (groups : List PlaceholderGroup) : Forming I d (allOf i [s, consistency j groups]) form := by
  intro v
  unfold conformWith conformThrough
  refine (h v).bind fun c hc => ?_
  cases c with
  | invalid => exact Ensures.pure (yields_invalid form)
  | valid made =>
    simp only [conformThrough_consistency]
    refine Ensures.pure fun w hw => ?_
    rw [conformConsistency_eq_valid hw]
    exact hc made rfl

/-- The declared keys are all there is, where no others are kept. -/
theorem forming_dict {keys : List (String × Spec)} {extra : ExtraFields} (hextra : extra ≠ .allow)
    (h : FormingFields I d r keys fields) (i : Instance) :
    Forming I d (dict i keys extra) fun v => ∃ pairs, v = .object pairs ∧ FormedFields r fields pairs := by
  intro v
  unfold conformWith
  cases v with
  | object pairs =>
    refine (h (.object pairs)).bind fun made hmade => ?_
    cases made with
    | none => exact Ensures.pure (yields_invalid _)
    | some declared =>
      simp only
      split
      · next others hothers =>
        rcases Meaning.conformExtra_cases hothers with ⟨hallow, _⟩ | ⟨_, rfl, _⟩
        · exact absurd hallow hextra
        · rw [List.append_nil]
          exact Ensures.pure (yields_valid ⟨declared, rfl, hmade declared rfl⟩)
      · exact Ensures.pure (yields_invalid _)
  | null | bool | int | float | string | bytes | list | tuple => exact Ensures.pure (yields_invalid _)

end Spec

open Spec (Forming FormingFields)

variable {id : Nat} {cells : List Target} {d : Delegate}

/-- Both forms that the spec of a record takes make records. -/
theorem forming_record {I : Session → Prop} {a : Applied} {keys : List (String × Spec)} {s : Spec}
    (hextra : r.config.extra ≠ .allow) (hfields : r.fieldsOf a = .ok fields)
    (hkeys : FormingFields I d r keys fields)
    (hform : RecordForm r.config (Session.placeholderGroups fields) keys s) :
    Forming I d s (Formed r (.record a.1 a.2)) := by
  have hdict : ∀ i, Forming I d (.dict i keys r.config.extra) (Formed r (.record a.1 a.2)) := by
    refine fun i => (Spec.forming_dict hextra hkeys i).mono ?_
    rintro _ ⟨pairs, rfl, hpairs⟩
    exact .record hfields hpairs
  cases hform with
  | plain i j label _ => exact (hdict j).decorated i label
  | grouped i j k l label _ => exact ((hdict k).agreeing j l _).decorated i label

/-- At the lazy references that the table knows, values are made of the form that is promised. -/
def LazilyForms (id : Nat) (r : Registry) (cells : List Target) (d : Delegate) : Prop :=
  ∀ i reference, cells[reference.cell]? = some reference.target → reference.target.IsOf id →
    Forming (IntactOver id r cells) d (.deferred i reference) (FormedBehind r reference.target)

mutual

theorem Stands.forms (hextra : r.config.extra ≠ .allow) (hlazy : LazilyForms id r cells d) :
    ∀ {k : Kind} {s : Spec}, Stands id r (fun _ => True) cells k s →
      Forming (IntactOver id r cells) d s (Formed r k)
  | _, _, .leaf i _ => Spec.forming_isInstance i fun _ => .leaf
  | _, _, .nothing i => Spec.forming_isInstance i fun _ => .nothing
  | _, _, .placeholder i p => fun v => by
    unfold Spec.conformWith
    exact Ensures.pure (yields_valid (.placeholder p v))
  | _, _, .record h => h.forms hextra hlazy
  | _, _, .lazyRecord i _ hcell => hlazy i _ hcell rfl
  | _, _, .forward i _ hcell => hlazy i _ hcell rfl
  | _, _, .list i h =>
    ((h.forms hextra hlazy).collOf i).mono fun _ ⟨_, hitems, hformed⟩ => .list hitems hformed
  | _, _, .union i hs => fun v => by
    unfold Spec.conformWith
    refine (hs.forms hextra hlazy v).mono fun _ hc w hw => ?_
    obtain ⟨k, hk, hformed⟩ := hc w hw
    exact .union hk hformed

theorem StandAll.forms (hextra : r.config.extra ≠ .allow) (hlazy : LazilyForms id r cells d) :
    ∀ {ks : List Kind} {ss : List Spec}, StandAll id r (fun _ => True) cells ks ss → ∀ v,
      Ensures True (IntactOver id r cells) (Spec.conformFirst d ss v)
        (·.Yields fun w => ∃ k ∈ ks, Formed r k w)
  | _, _, .nil, _ => by
    unfold Spec.conformFirst
    exact Ensures.pure (yields_invalid _)
  | _, _, .cons (k := k) h hs, v => by
    unfold Spec.conformFirst
    refine (h.forms hextra hlazy v).bind fun c hc => ?_
    cases c with
    | valid w => exact Ensures.pure (yields_valid ⟨k, List.mem_cons_self, hc w rfl⟩)
    | invalid =>
      refine (hs.forms hextra hlazy v).mono fun _ hrest w hw => ?_
      obtain ⟨k', hk', hformed⟩ := hrest w hw
      exact ⟨k', List.mem_cons_of_mem _ hk', hformed⟩

theorem StandFields.forms (hextra : r.config.extra ≠ .allow) (hlazy : LazilyForms id r cells d) :
    ∀ {fields : List Field} {keys : List (String × Spec)},
      StandFields id r (fun _ => True) cells fields keys →
        FormingFields (IntactOver id r cells) d r keys fields
  | _, _, .nil => fun _ => by
    unfold Spec.conformKeys
    refine Ensures.pure fun _ hmade => ?_
    cases hmade
    exact .nil
  | _, _, .cons (f := f) h hs => fun v => by
    unfold Spec.conformKeys
    cases v.get? f.name with
    | none => exact Ensures.pure fun _ hmade => by cases hmade
    | some present =>
      refine (h.forms hextra hlazy present).bind fun c hc => ?_
      cases c with
      | invalid => exact Ensures.pure fun _ hmade => by cases hmade
      | valid w =>
        refine (hs.forms hextra hlazy v).bind fun made hmade => ?_
        refine Ensures.pure fun declared hdeclared => ?_
        obtain ⟨rest, hrest, rfl⟩ := Option.map_eq_some_iff.mp hdeclared
        exact .cons (hc w rfl) (hmade rest hrest)

theorem StandsRecord.forms (hextra : r.config.extra ≠ .allow) (hlazy : LazilyForms id r cells d) :
    ∀ {a : Applied} {s : Spec}, StandsRecord id r (fun _ => True) cells a s →
      Forming (IntactOver id r cells) d s (Formed r (.record a.1 a.2))
  | _, _, .mk _ hfields hkeys hform =>
    forming_record hextra hfields (hkeys.forms hextra hlazy) hform

end

theorem Answers.forms (hextra : r.config.extra ≠ .allow) (hlazy : LazilyForms id r cells d)
    {target : Target} {s : Spec} (h : Answers id r (fun _ => True) cells target s) :
    Forming (IntactOver id r cells) d s (FormedBehind r target) := by
  cases h with
  | shape h => exact h.forms hextra hlazy
  | forward hname h => exact (h.forms hextra hlazy).mono fun _ => .forward hname
  | builtin i _ hkind => exact Spec.forming_isInstance i fun _ => .builtin hkind

/-- Looks behind references find what makes values of the promised form, if walks do so behind them. -/
theorem lazilyForms_of_behind (hd : d.resolve = Session.resolveInCheck)
    (h : ∀ {cells' target s}, Answers id r (fun _ => True) cells' target s → ∀ v,
      Ensures True (IntactOver id r cells') (d.conform s v) (·.Yields (FormedBehind r target))) :
    LazilyForms id r cells d := by
  rintro i reference hcell htarget v s ⟨more, hmore, hs⟩
  rw [Spec.conformWith_resolve hd]
  rcases hs.look (cell_mono hmore hcell) htarget with
    ⟨spec, t, cells', hrun, hcells, ht, hanswers⟩ | ⟨e, t, cells', hrun, hcells, ht, _⟩
  · have hbehind := h hanswers v t ⟨cells', List.prefix_refl _, ht⟩
    rw [hrun]
    cases hmade : d.conform spec v t with
    | none => simp only [hmade]
    | some p =>
      rw [hmade] at hbehind
      simp only [hmade]
      exact ⟨hbehind.1, hbehind.2.mono (hmore.trans hcells)⟩
  · rw [hrun]
    exact ⟨yields_invalid _, cells', hmore.trans hcells, ht⟩

/-- The induction is on how many references are left to go through. -/
theorem lazily_forms (hextra : r.config.extra ≠ .allow) (n : Nat) (cells : List Target) :
    LazilyForms id r cells (.within n) := by
  induction n generalizing cells with
  | zero => exact lazilyForms_of_behind rfl fun _ _ => Ensures.of_none trivial fun _ => rfl
  | succ n ih => exact lazilyForms_of_behind rfl fun h => h.forms hextra (ih _)

end

namespace History

/-- No field stands twice and none is lost, from the steps of a declaration up to what is conformed.
A declared shape has its fields in the order of their first declarations, each with the last kind. With
those of its ancestors it has just the names that are declared by it or by one of them, and those that
its parents hand down come first. And where keys that are not declared are not kept, these names are the
keys of every record in what a derived spec makes. -/
theorem conformed_keys :
    (∀ {name : String} {steps : List DeclarationStep} {shape : Shape},
      (ShapeDeclaration.ofSteps name steps).build = .ok shape →
        Field.Distinct shape.fields ∧ ∃ said,
          List.Forall₂ (ShapeDeclaration.ofSteps name steps).SaysOf (steps.filterMap (·.field?)) said ∧
            shape.fields = Field.settled said) ∧
    (∀ {r : Registry} {shape : Shape} {bindings : Bindings} {fields : List Field},
      r.shape? shape.name = some shape → r.effectiveFields shape bindings = .ok fields →
        Field.Distinct fields ∧ (∀ n, n ∈ fields.map (·.name) ↔ r.Has n shape.name) ∧
          ∃ inherited own, fields = inherited ++ own ∧
            (∀ f ∈ inherited, r.HandsDown shape f.name) ∧ ∀ f ∈ own, ¬ r.HandsDown shape f.name) ∧
    ∀ {t : History}, t.derived.1 = .made → t.config.extra ≠ .allow →
      ∃ r, t.caller.session.registryAt? 0 = some r ∧ ∀ v, ∃ outcome c,
        t.caller.call 0 (.conform t.opening.specs.length v) = (.conformed outcome, c) ∧
          ∀ w, outcome = .valid w → Formed r t.kind w ∧
            ∀ name args, t.kind = .record name args → ∃ shape fields pairs,
              r.shape? name = some shape ∧
                r.effectiveFields shape (Registry.bind shape.params args) = .ok fields ∧
                w = .object pairs ∧ pairs.map (·.1) = fields.map (·.name) ∧
                (pairs.map (·.1)).Nodup := by
  refine ⟨fun h => ?_, fun hshape h => ?_, fun {t} hmade hextra => ?_⟩
  · obtain ⟨said, hsaid, hfields⟩ := ShapeDeclaration.exists_said_of_build h
    rw [ShapeDeclaration.fields_ofSteps] at hsaid
    exact ⟨ShapeDeclaration.distinct_of_build h, said, hsaid, hfields⟩
  · exact ⟨Registry.distinct_effectiveFields h, fun _ => Registry.mem_names_effectiveFields hshape h,
      Registry.exists_append_effectiveFields h⟩
  · obtain ⟨r, kinds, hconfig, ⟨cells, hintact, hspecs⟩, hkind⟩ := intact_made hmade
    obtain ⟨spec, hspec, hstands⟩ := hspecs.of_kind hkind
    rw [← hconfig] at hextra
    refine ⟨r, hintact.registry, fun v => ?_⟩
    have hover : IntactOver 0 r cells t.caller.session := ⟨cells, List.prefix_refl _, hintact⟩
    have hends := (hstands.answering (Check.depth_lt_reach v t.caller.session)).conform.ensures
    obtain ⟨outcome, s, hrun, _⟩ := hends.exists_some hover
    obtain ⟨hforms, _⟩ :=
      (hstands.forms hextra (lazily_forms hextra _ cells) v).of_some hover hrun
    have hcheck : Check.conform spec v t.caller.session = some (outcome, s) := hrun
    refine ⟨outcome, ⟨s, t.caller.specs⟩, ?_, fun w hw => ?_⟩
    · simp only [Caller.call, hspec, hcheck]
    · have hformed := hforms w hw
      refine ⟨hformed, fun name args hrecord => ?_⟩
      rw [hrecord] at hformed
      exact hformed.of_record

/-- A field is declared before its placeholder is, and once more behind another field. -/
def restated : List DeclarationStep :=
  [.field "b" (.kind (.list (.placeholder "T"))), .field "a" (.kind (.leaf .int)), .param "T",
    .field "b" (.kind (.placeholder "T"))]

def cell : Shape := ⟨"Cell", ["T"], [⟨"b", .placeholder "T"⟩, ⟨"a", .leaf .int⟩], []⟩

def base : Shape := ⟨"Base", [], [⟨"a", .leaf .float⟩, ⟨"y", .placeholder "S"⟩], []⟩

/-- Both parents have a field that the shape declares anew. -/
def mark : Shape :=
  ⟨"Mark", [], [⟨"z", .placeholder "S"⟩, ⟨"a", .forward "str" []⟩], [⟨"Cell", []⟩, ⟨"Base", []⟩]⟩

def layered : History where
  name := "shapes"
  config := { DeriveConfig.default with extra := .forbid }
  before := [.step (.register cell), .step (.register base), .step (.register mark)]
  kind := .record "Mark" []
  after := [.clone "registry" "copy", .drop "registry"]

def layers : Registry := ⟨"shapes", layered.config, [cell, base, mark]⟩

def merged : List Field :=
  [⟨"b", .placeholder "T"⟩, ⟨"a", .forward "str" []⟩, ⟨"y", .placeholder "S"⟩,
    ⟨"z", .placeholder "S"⟩]

/-- The keys stand in another order, and one of them twice. -/
def shuffled : Value :=
  .object [("z", .null), ("a", .string "x"), ("y", .null), ("b", .list []), ("z", .string "late")]

theorem conformed_keys_layered :
    (ShapeDeclaration.ofSteps "Cell" restated).build = .ok cell ∧ Field.Distinct cell.fields ∧
      layers.effectiveFields mark [] = .ok merged ∧ Field.Distinct merged ∧
      (∀ n, n ∈ merged.map (·.name) ↔ layers.Has n "Mark") ∧
      layered.derived.1 = .made ∧ layered.config.extra ≠ .allow ∧ ∃ r pairs c,
        layered.caller.call 0 (.conform layered.opening.specs.length shuffled) =
            (.conformed (.valid (.object pairs)), c) ∧
          Formed r (.record "Mark" []) (.object pairs) ∧ pairs.map (·.1) = ["b", "a", "y", "z"] := by
  obtain ⟨hdeclared, hinherited, hderived⟩ := conformed_keys
  have hbuild : (ShapeDeclaration.ofSteps "Cell" restated).build = .ok cell := by decide
  have hfields : layers.effectiveFields mark [] = .ok merged := by decide
  have hmade : layered.derived.1 = .made := by decide +kernel
  have hextra : layered.config.extra ≠ .allow := by decide
  have hvalid : (layered.caller.call 0 (.conform layered.opening.specs.length shuffled)).1 =
      .conformed (.valid (.object
        [("b", .list []), ("a", .string "x"), ("y", .null), ("z", .null)])) := by
    decide +kernel
  obtain ⟨hcell, _⟩ := hdeclared hbuild
  obtain ⟨hmerged, hhas, _⟩ := hinherited (by decide) hfields
  obtain ⟨r, _, hconformed⟩ := hderived hmade hextra
  obtain ⟨outcome, c, hcall, hforms⟩ := hconformed shuffled
  rw [hcall] at hvalid
  cases hvalid
  obtain ⟨hformed, _⟩ := hforms _ rfl
  exact ⟨hbuild, hcell, hfields, hmerged, hhas, hmade, hextra, r, _, c, hcall, hformed, rfl⟩

end History

end Conform

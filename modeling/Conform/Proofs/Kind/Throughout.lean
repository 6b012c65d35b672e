import Conform.Proofs.Registry.Extends
/-!
What holds of kinds through and through. If it does of all kinds that a registry's shapes mention,
and of the arguments of a shape, it does of the kinds of the shape's fields, inherited or not.
-/

namespace Conform

namespace Kind

/-- `good` holds of the kind and of all kinds within it. -/
def Throughout (good : Kind → Prop) (k : Kind) : Prop := ∀ part ∈ k.parts, good part

instance (good : Kind → Prop) [DecidablePred good] : DecidablePred (Throughout good) :=
  fun k => inferInstanceAs (Decidable (∀ part ∈ k.parts, good part))

section
variable {good : Kind → Prop}

theorem mem_partsOfAll {part : Kind} {ks : List Kind} :
    part ∈ partsOfAll ks ↔ ∃ k ∈ ks, part ∈ k.parts := by
  induction ks with
  | nil => exact iff_of_false List.not_mem_nil (by rintro ⟨k, hk, _⟩; cases hk)
  | cons k ks ih =>
    rw [partsOfAll, List.mem_append, ih]
    constructor
    · rintro (hpart | ⟨j, hj, hpart⟩)
      · exact ⟨k, List.mem_cons_self, hpart⟩
      · exact ⟨j, List.mem_cons_of_mem k hj, hpart⟩
    · rintro ⟨j, hj, hpart⟩
      rcases List.mem_cons.mp hj with rfl | hj
      · exact .inl hpart
      · exact .inr ⟨j, hj, hpart⟩

theorem forall_partsOfAll {ks : List Kind} :
    (∀ part ∈ partsOfAll ks, good part) ↔ ∀ k ∈ ks, k.Throughout good := by
  simp only [mem_partsOfAll, Throughout]
  exact ⟨fun h k hk part hpart => h part ⟨k, hk, hpart⟩,
    fun h part ⟨k, hk, hpart⟩ => h k hk part hpart⟩

theorem Throughout.self {k : Kind} (h : k.Throughout good) : good k := by
  refine h k ?_
  cases k with
  | leaf | nothing | placeholder => exact List.mem_singleton_self _
  | record | forward | list | union => exact List.mem_cons_self

theorem throughout_record {name : String} {args : List Kind} :
    (record name args).Throughout good ↔
      good (record name args) ∧ ∀ k ∈ args, k.Throughout good := by
  rw [← forall_partsOfAll]
  exact List.forall_mem_cons

theorem throughout_forward {name : String} {args : List Kind} :
    (forward name args).Throughout good ↔
      good (forward name args) ∧ ∀ k ∈ args, k.Throughout good := by
  rw [← forall_partsOfAll]
  exact List.forall_mem_cons

theorem throughout_list {item : Kind} :
    (list item).Throughout good ↔ good (list item) ∧ item.Throughout good :=
  List.forall_mem_cons

theorem throughout_union {ks : List Kind} :
    (union ks).Throughout good ↔ good (union ks) ∧ ∀ k ∈ ks, k.Throughout good := by
  rw [← forall_partsOfAll]
  exact List.forall_mem_cons

/-! ## Substitution -/

theorem substituteAll_eq_map (bindings : Bindings) (ks : List Kind) :
    substituteAll bindings ks = ks.map (substitute bindings) := by
  induction ks with
  | nil => rfl
  | cons k ks ih => rw [substituteAll, ih, List.map_cons]

/-- What is put in the place of placeholders further in does not matter. -/
def Steady (good : Kind → Prop) : Prop :=
  ∀ bindings k, (∀ p, k ≠ placeholder p) → good k → good (k.substitute bindings)

variable {bindings : Bindings}

mutual

theorem Throughout.substitute (hgood : Steady good)
    (hbindings : ∀ b ∈ bindings, b.2.Throughout good) :
    ∀ {k : Kind}, k.Throughout good → (k.substitute bindings).Throughout good
  | leaf _, h | nothing, h => h
  | record name args, h => by
    obtain ⟨hhead, hargs⟩ := throughout_record.mp h
    refine throughout_record.mpr ⟨?_, Throughout.substituteAll hgood hbindings hargs⟩
    exact hgood bindings (record name args) (fun _ h => by cases h) hhead
  | forward name args, h => by
    obtain ⟨hhead, hargs⟩ := throughout_forward.mp h
    refine throughout_forward.mpr ⟨?_, Throughout.substituteAll hgood hbindings hargs⟩
    exact hgood bindings (forward name args) (fun _ h => by cases h) hhead
  | list item, h => by
    obtain ⟨hhead, hitem⟩ := throughout_list.mp h
    refine throughout_list.mpr ⟨?_, Throughout.substitute hgood hbindings hitem⟩
    exact hgood bindings (list item) (fun _ h => by cases h) hhead
  | union ks, h => by
    obtain ⟨hhead, hks⟩ := throughout_union.mp h
    refine throughout_union.mpr ⟨?_, Throughout.substituteAll hgood hbindings hks⟩
    exact hgood bindings (union ks) (fun _ h => by cases h) hhead
  | placeholder p, h => by
    unfold Kind.substitute
    cases hbound : bindings.lookup p with
    | none => exact h
    | some k =>
      obtain ⟨before, after, rfl, _⟩ := List.lookup_eq_some_iff.mp hbound
      exact hbindings (p, k) (List.mem_append_right _ List.mem_cons_self)

theorem Throughout.substituteAll (hgood : Steady good)
    (hbindings : ∀ b ∈ bindings, b.2.Throughout good) :
    ∀ {ks : List Kind}, (∀ k ∈ ks, k.Throughout good) →
      ∀ k ∈ Kind.substituteAll bindings ks, k.Throughout good
  | [], _ => fun _ hk => absurd hk List.not_mem_nil
  | k :: _, h =>
    List.forall_mem_cons.mpr ⟨Throughout.substitute hgood hbindings (h k List.mem_cons_self),
      Throughout.substituteAll hgood hbindings fun j hj => h j (List.mem_cons_of_mem k hj)⟩

end

theorem Throughout.substitute_map (hgood : Steady good)
    (hbindings : ∀ b ∈ bindings, b.2.Throughout good) {args : List Kind}
    (hargs : ∀ k ∈ args, k.Throughout good) :
    ∀ k ∈ args.map (Kind.substitute bindings), k.Throughout good := by
  rw [← substituteAll_eq_map]
  exact Throughout.substituteAll hgood hbindings hargs

end

end Kind

/-! ## Fields -/

theorem mem_declareField {f field : Field} {fields : List Field}
    (h : f ∈ declareField field fields) : f = field ∨ f ∈ fields := by
  induction fields with
  | nil => exact .inl (List.mem_singleton.mp h)
  | cons g fields ih =>
    unfold declareField at h
    split at h
    · exact (List.mem_cons.mp h).imp id (List.mem_cons_of_mem g)
    · rcases List.mem_cons.mp h with rfl | h
      · exact .inr List.mem_cons_self
      · exact (ih h).imp id (List.mem_cons_of_mem g)

namespace Registry

theorem mem_declareOwn {bindings : Bindings} {f : Field} {fields own : List Field}
    (h : f ∈ declareOwn bindings fields own) :
    f ∈ fields ∨ ∃ o ∈ own, f.kind = o.kind.substitute bindings := by
  induction own generalizing fields with
  | nil => exact .inl h
  | cons o own ih =>
    rcases ih h with hmem | ⟨p, hp, hkind⟩
    · rcases mem_declareField hmem with rfl | hmem
      · exact .inr ⟨o, List.mem_cons_self, rfl⟩
      · exact .inl hmem
    · exact .inr ⟨p, List.mem_cons_of_mem o hp, hkind⟩

theorem mem_inherit {f : Field} {fields inherited : List Field} (h : f ∈ inherit fields inherited) :
    f ∈ fields ∨ f ∈ inherited := by
  induction inherited generalizing fields with
  | nil => exact .inl h
  | cons g inherited ih =>
    rcases ih h with hmem | hmem
    · simp only at hmem
      split at hmem
      · exact .inl hmem
      · rcases List.mem_append.mp hmem with hmem | hmem
        · exact .inl hmem
        · exact .inr (List.mem_singleton.mp hmem ▸ List.mem_cons_self)
    · exact .inr (List.mem_cons_of_mem g hmem)

section
variable {r : Registry} {good : Kind → Prop} {bindings : Bindings} {fields : List Field}

theorem mem_of_lookup {name : String} {shape : Shape} (h : r.lookup name = .ok shape) :
    shape ∈ r.shapes :=
  List.mem_of_find?_eq_some (lookup_eq_ok.mp h)

theorem name_of_lookup {name : String} {shape : Shape} (h : r.lookup name = .ok shape) :
    shape.name = name :=
  name_of_shape? (lookup_eq_ok.mp h)

theorem throughout_bind {args : List Kind} (hargs : ∀ k ∈ args, k.Throughout good)
    (params : List String) : ∀ b ∈ Registry.bind params args, b.2.Throughout good :=
  fun _ hb => hargs _ (List.of_mem_zip hb).2

/-- Some shapes, with all that they extend, in whose kinds `good` holds throughout. -/
structure Sealed (r : Registry) (good : Kind → Prop) (among : String → Prop) : Prop where
  parents : ∀ shape ∈ r.shapes, among shape.name → ∀ p ∈ shape.parents, among p.shape
  kinds : ∀ shape ∈ r.shapes, among shape.name → ∀ k ∈ shape.kinds, k.Throughout good

variable {among : String → Prop}

theorem throughout_inheritAll (hgood : Kind.Steady good)
    {fieldsOf : Shape → Bindings → Except SpecError (List Field)}
    (hfieldsOf : ∀ {shape bindings fields}, shape ∈ r.shapes → among shape.name →
      (∀ b ∈ bindings, b.2.Throughout good) → fieldsOf shape bindings = .ok fields →
      ∀ f ∈ fields, f.kind.Throughout good)
    (hbindings : ∀ b ∈ bindings, b.2.Throughout good) {parents : List Parent}
    (hparents : ∀ p ∈ parents, among p.shape ∧ ∀ k ∈ p.args, k.Throughout good)
    (hfields : ∀ f ∈ fields, f.kind.Throughout good) {all : List Field}
    (h : r.inheritAll fieldsOf bindings fields parents = .ok all) :
    ∀ f ∈ all, f.kind.Throughout good := by
  induction parents generalizing fields with
  | nil =>
    cases h
    exact hfields
  | cons parent rest ih =>
    unfold inheritAll at h
    obtain ⟨shape, hshape, h⟩ := bind_eq_ok.mp h
    obtain ⟨_, _, h⟩ := bind_eq_ok.mp h
    obtain ⟨inherited, hinherited, hrest⟩ := bind_eq_ok.mp h
    obtain ⟨hamong, hkinds⟩ := hparents parent List.mem_cons_self
    have hargs := Kind.Throughout.substitute_map hgood hbindings hkinds
    have hall : ∀ f ∈ inherited, f.kind.Throughout good :=
      hfieldsOf (mem_of_lookup hshape) ((name_of_lookup hshape).symm ▸ hamong)
        (throughout_bind hargs shape.params) hinherited
    refine ih (fun p hp => hparents p (List.mem_cons_of_mem parent hp)) (fun f hf => ?_) hrest
    exact (mem_inherit hf).elim (hfields f) (hall f)

theorem Sealed.throughout_collectFields (hr : r.Sealed good among) (hgood : Kind.Steady good)
    {steps : Nat} {lineage : List String} {shape : Shape} (hshape : shape ∈ r.shapes)
    (hamong : among shape.name) (hbindings : ∀ b ∈ bindings, b.2.Throughout good)
    (h : r.collectFields steps lineage shape bindings = .ok fields) :
    ∀ f ∈ fields, f.kind.Throughout good := by
  induction steps generalizing lineage shape bindings fields with
  | zero => cases h
  | succ steps ih =>
    obtain ⟨_, inherited, ⟨⟩, _, hinherited, rfl⟩ := of_collectFields h
    have hkinds := hr.kinds shape hshape hamong
    have hparents : ∀ p ∈ shape.parents, among p.shape ∧ ∀ k ∈ p.args, k.Throughout good :=
      fun p hp => ⟨hr.parents shape hshape hamong p hp, fun k hk =>
        hkinds k (List.mem_append_right _ (List.mem_flatMap.mpr ⟨p, hp, hk⟩))⟩
    have hall := throughout_inheritAll hgood ih hbindings hparents
      (fun _ hf => absurd hf List.not_mem_nil) hinherited
    intro f hf
    rcases mem_declareOwn hf with hmem | ⟨own, hown, hkind⟩
    · exact hall f hmem
    · rw [hkind]
      exact (hkinds own.kind (List.mem_append_left _ (List.mem_map_of_mem hown))).substitute
        hgood hbindings

/-- The fields of one of the shapes, with arguments of which `good` holds throughout as well. -/
theorem Sealed.throughout_fieldsOf (hr : r.Sealed good among) (hgood : Kind.Steady good) {a : Applied}
    (hname : among a.1) (ha : ∀ k ∈ a.2, k.Throughout good) (h : r.fieldsOf a = .ok fields) :
    ∀ f ∈ fields, f.kind.Throughout good := by
  obtain ⟨shape, happlied, hfields⟩ := bind_eq_ok.mp h
  obtain ⟨hfound, _⟩ := applied_eq_ok.mp happlied
  exact hr.throughout_collectFields hgood (mem_of_lookup hfound)
    ((name_of_lookup hfound).symm ▸ hname) (throughout_bind ha _) hfields

theorem throughout_fieldsOf (hgood : Kind.Steady good)
    (hr : ∀ shape ∈ r.shapes, ∀ k ∈ shape.kinds, k.Throughout good) {a : Applied}
    (ha : ∀ k ∈ a.2, k.Throughout good) (h : r.fieldsOf a = .ok fields) :
    ∀ f ∈ fields, f.kind.Throughout good :=
  have hall : r.Sealed good fun _ => True :=
    ⟨fun _ _ _ _ _ => trivial, fun shape hshape _ => hr shape hshape⟩
  hall.throughout_fieldsOf hgood trivial ha h

/-! ## Kinds further in -/

/-- The kinds that a value or a part of it may be held against, if it is held against a kind. -/
inductive Reaches (r : Registry) : Kind → Kind → Prop
  | refl (k : Kind) : Reaches r k k
  | item {item k : Kind} : Reaches r item k → Reaches r (.list item) k
  | alternative {ks : List Kind} {alternative k : Kind} : alternative ∈ ks →
    Reaches r alternative k → Reaches r (.union ks) k
  | field {name : String} {args : List Kind} {fields : List Field} {f : Field} {k : Kind} :
    r.fieldsOf (name, args) = .ok fields → f ∈ fields → Reaches r f.kind k →
      Reaches r (.record name args) k
  | behind {name : String} {args : List Kind} {k : Kind} : Reaches r (.record name args) k →
    Reaches r (.forward name args) k

end

end Registry

end Conform

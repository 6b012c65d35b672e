import Conform.Proofs.Kind.Groups
import Conform.Proofs.Kind.Meaning
import Conform.Proofs.Kind.Targets
import Conform.Proofs.Registry.WellFormed
/-!
Which values match a kind. Matching is told from the value and the kind alone, and in a well-formed
registry it is what kinds mean: a value matches a kind exactly if the kind's meaning accepts it.
-/

namespace Conform

/-- The value is an object as the fields ask for it. What the kind of a field asks of the value under
its name is for `member` to say. -/
structure Fits (config : DeriveConfig) (fields : List Field) (v : Value)
    (member : (f : Field) → (w : Value) → v.get? f.name = some w → Prop) : Prop where
  object : v.kind = .object
  present : ∀ f ∈ fields, ∃ w, ∃ h : v.get? f.name = some w, member f w h
  declared : config.extra = .forbid → ∀ key, v.containsKey key = true → ∃ f ∈ fields, f.name = key
  agree : config.checkPlaceholders = true → ∀ f ∈ fields, ∀ g ∈ fields, ∀ p,
    f.kind = .placeholder p → g.kind = .placeholder p → Spec.SameKind v f.name g.name

theorem Fits.congr {config : DeriveConfig} {fields : List Field} {v : Value}
    {member member' : (f : Field) → (w : Value) → v.get? f.name = some w → Prop}
    (h : ∀ f ∈ fields, ∀ w hw, member f w hw ↔ member' f w hw) :
    Fits config fields v member ↔ Fits config fields v member' := by
  constructor
  · rintro ⟨hobject, hpresent, hdeclared, hagree⟩
    refine ⟨hobject, fun f hf => ?_, hdeclared, hagree⟩
    obtain ⟨w, hw, hmember⟩ := hpresent f hf
    exact ⟨w, hw, (h f hf w hw).mp hmember⟩
  · rintro ⟨hobject, hpresent, hdeclared, hagree⟩
    refine ⟨hobject, fun f hf => ?_, hdeclared, hagree⟩
    obtain ⟨w, hw, hmember⟩ := hpresent f hf
    exact ⟨w, hw, (h f hf w hw).mpr hmember⟩

def Matches (r : Registry) (v : Value) : Kind → Prop
  | .leaf k => v.kind = k
  | .nothing => v = .null
  | .list k => ∃ items, ∃ _ : v.items? = some items, ∀ w, w ∈ items → Matches r w k
  | .union ks => ∃ k, ∃ _ : k ∈ ks, Matches r v k
  | .placeholder _ => True
  | .record name args =>
    ∃ fields, r.fieldsOf (name, args) = .ok fields ∧
      Fits r.config fields v fun f w _ => Matches r w f.kind
  | .forward name args =>
    if r.contains name = true then
      ∃ fields, r.fieldsOf (name, args) = .ok fields ∧
        Fits r.config fields v fun f w _ => Matches r w f.kind
    else ∃ k, r.builtin? name args = some k ∧ v.kind = k
termination_by k => (v.depth, k)
decreasing_by
  · exact Prod.Lex.left _ _ (Value.depth_lt_of_mem_items ‹_› ‹_›)
  · refine Prod.Lex.right _ ?_
    have hlt := List.sizeOf_lt_of_mem ‹_ ∈ _›
    simp only [Kind.union.sizeOf_spec]
    omega
  · exact Prod.Lex.left _ _ (Value.depth_lt_of_get? ‹_›)
  · exact Prod.Lex.left _ _ (Value.depth_lt_of_get? ‹_›)

/-! ## Conformed values are of the same kind -/

namespace Meaning

def KeepsKind (m : Meaning) : Prop := ∀ v w, m.conform v = .valid w → w.kind = v.kind

theorem keepsKind_anything : anything.KeepsKind := by
  intro v w h
  cases h
  rfl

theorem keepsKind_unresolved (owner : Spec) (e : SpecError) : (unresolved owner e).KeepsKind := by
  intro v w h
  cases h

theorem keepsKind_ofCheck (owner : Spec) (passes : Value → Bool) (reason : Value → String) :
    (ofCheck owner passes reason).KeepsKind := by
  intro v w h
  change Conformed.ofBool (passes v) v = .valid w at h
  unfold Conformed.ofBool at h
  split at h
  · cases h
    rfl
  · cases h

theorem keepsKind_oneOf {ms : List Meaning} (hms : ∀ m ∈ ms, m.KeepsKind) :
    (oneOf ms).KeepsKind := by
  intro v w h
  change conformFirst ms v = .valid w at h
  induction ms with
  | nil => cases h
  | cons m ms ih =>
    unfold conformFirst at h
    split at h
    · next u hu =>
      cases h
      exact hms m List.mem_cons_self v w hu
    · exact ih (fun n hn => hms n (List.mem_cons_of_mem m hn)) h

theorem keepsKind_allOf {ms : List Meaning} (hms : ∀ m ∈ ms, m.KeepsKind) :
    (allOf ms).KeepsKind := by
  intro v w h
  change conformThrough ms v = .valid w at h
  induction ms generalizing v with
  | nil =>
    cases h
    rfl
  | cons m ms ih =>
    unfold conformThrough at h
    split at h
    · next u hu =>
      rw [ih (fun n hn => hms n (List.mem_cons_of_mem m hn)) u h]
      exact hms m List.mem_cons_self v u hu
    · cases h

theorem keepsKind_collOf (owner : Spec) (m : Meaning) : (collOf owner m).KeepsKind := by
  intro v w h
  cases v with
  | list items | tuple items =>
    change contain _ (m.conformItems items) = .valid w at h
    cases hitems : m.conformItems items with
    | none =>
      rw [hitems] at h
      cases h
    | some conformed =>
      rw [hitems] at h
      cases h
      rfl
  | null | bool | int | float | string | bytes | object => cases h

theorem keepsKind_dict (owner : Spec)
    (undeclared : List (String × Value) → List (String × Value)) (extra : ExtraFields)
    (keys : List (String × Meaning)) : (dict owner undeclared extra keys).KeepsKind := by
  intro v w h
  cases v with
  | object pairs =>
    change assemble (conformKeys keys _) (Spec.conformExtra extra _) = .valid w at h
    unfold assemble at h
    split at h
    · cases h
      rfl
    · cases h
  | null | bool | int | float | string | bytes | list | tuple => cases h

theorem keepsKind_consistency (owner : Spec) (groups : List PlaceholderGroup) :
    (consistency owner groups).KeepsKind := by
  intro v w h
  cases v with
  | object pairs =>
    change Spec.conformConsistency groups (.object pairs) = .valid w at h
    simp only [Spec.conformConsistency] at h
    split at h
    · cases h
      rfl
    · cases h
  | null | bool | int | float | string | bytes | list | tuple => cases h

end Meaning

theorem Kind.spreads_keepsKind : Kind.Spreads Meaning.KeepsKind where
  anything := Meaning.keepsKind_anything
  unresolved := Meaning.keepsKind_unresolved _
  leaf _ := Meaning.keepsKind_ofCheck _ _ _
  collOf _ := Meaning.keepsKind_collOf _ _
  oneOf := Meaning.keepsKind_oneOf

theorem Registry.keepsKind_form (config : DeriveConfig) (fields : List Field)
    (keys : List (String × Meaning)) : (formMeaning config fields keys).KeepsKind := by
  simp only [formMeaning]
  split
  · refine Meaning.keepsKind_allOf (List.forall_mem_cons.mpr ⟨Meaning.keepsKind_dict _ _ _ _, ?_⟩)
    exact List.forall_mem_singleton.mpr (Meaning.keepsKind_consistency _ _)
  · exact Meaning.keepsKind_dict _ _ _ _

theorem Registry.keepsKind_refs {id : Nat} (r : Registry) (b : Nat) (target : Target) :
    (r.refs id b target).KeepsKind :=
  Kind.spreads_keepsKind.refs (fun _ _ _ => keepsKind_form _ _ _) b target

/-! ## Which values are valid -/

namespace Meaning

theorem conformItems_isSome (m : Meaning) (items : List Value) :
    (m.conformItems items).isSome = true ↔ ∀ w ∈ items, (m.conform w).isValid = true := by
  induction items with
  | nil => exact iff_of_true rfl fun _ hw => absurd hw List.not_mem_nil
  | cons w items ih =>
    rw [List.forall_mem_cons, ← ih, conformItems]
    cases m.conform w with
    | invalid => exact iff_of_false Bool.false_ne_true fun h => Bool.false_ne_true h.1
    | valid u =>
      rw [Option.isSome_map]
      exact (and_iff_right rfl).symm

theorem collOf_isValid (owner : Spec) (m : Meaning) (v : Value) :
    ((collOf owner m).conform v).isValid = true ↔
      ∃ items, ∃ _ : v.items? = some items, ∀ w, w ∈ items → (m.conform w).isValid = true := by
  cases v with
  | list items | tuple items =>
    change (contain _ (m.conformItems items)).isValid = true ↔ _
    rw [isValid_contain, conformItems_isSome]
    constructor
    · exact fun h => ⟨items, rfl, h⟩
    · rintro ⟨_, hitems, h⟩
      cases hitems
      exact h
  | null | bool | int | float | string | bytes | object =>
    refine iff_of_false Bool.false_ne_true ?_
    rintro ⟨_, hitems, _⟩
    cases hitems

theorem conformKeys_isSome (keys : List (String × Meaning)) (v : Value) :
    (conformKeys keys v).isSome = true ↔
      ∀ key ∈ keys, ∃ w, ∃ _ : v.get? key.1 = some w, (key.2.conform w).isValid = true := by
  induction keys with
  | nil => exact iff_of_true rfl fun _ hkey => absurd hkey List.not_mem_nil
  | cons key keys ih =>
    obtain ⟨name, m⟩ := key
    rw [List.forall_mem_cons, ← ih, conformKeys]
    cases hget : v.get? name with
    | none =>
      refine iff_of_false Bool.false_ne_true ?_
      rintro ⟨⟨w, hw, _⟩, _⟩
      cases hw
    | some present =>
      cases hconform : m.conform present with
      | invalid =>
        simp only [hconform]
        refine iff_of_false Bool.false_ne_true ?_
        rintro ⟨⟨w, hw, hvalid⟩, _⟩
        cases hw
        rw [hconform] at hvalid
        cases hvalid
      | valid u =>
        simp only [hconform, Option.isSome_map]
        refine (and_iff_right ⟨present, rfl, ?_⟩).symm
        rw [hconform]
        rfl

/-- Declared keys come first in what is made of an object, with members of the kinds they had. -/
theorem lookup_conformKeys {keys : List (String × Meaning)} {v : Value}
    (hkeys : ∀ key ∈ keys, key.2.KeepsKind) {declared : List (String × Value)}
    (h : conformKeys keys v = some declared) (others : List (String × Value)) {name : String}
    (hname : name ∈ keys.map (·.1)) :
    ((declared ++ others).lookup name).map Value.kind = (v.get? name).map Value.kind := by
  induction keys generalizing declared with
  | nil => cases hname
  | cons key keys ih =>
    obtain ⟨first, m⟩ := key
    unfold conformKeys at h
    cases hget : v.get? first with
    | none =>
      rw [hget] at h
      cases h
    | some present =>
      cases hconform : m.conform present with
      | invalid =>
        simp only [hget, hconform] at h
        cases h
      | valid u =>
        simp only [hget, hconform, Option.map_eq_some_iff] at h
        obtain ⟨rest, hrest, rfl⟩ := h
        rw [List.cons_append, List.lookup_cons]
        by_cases hfirst : name = first
        · subst hfirst
          rw [beq_self_eq_true, hget]
          exact congrArg some (hkeys (name, m) List.mem_cons_self present u hconform)
        · rw [beq_eq_false_iff_ne.mpr hfirst]
          rcases List.mem_cons.mp hname with heq | hname
          · exact absurd heq hfirst
          · exact ih (fun key hkey => hkeys key (List.mem_cons_of_mem _ hkey)) hrest hname

theorem allOf_pair_isValid (m m' : Meaning) (v : Value) :
    ((allOf [m, m']).conform v).isValid = true ↔
      ∃ w, m.conform v = .valid w ∧ (m'.conform w).isValid = true := by
  change (conformThrough [m, m'] v).isValid = true ↔ _
  unfold conformThrough
  cases m.conform v with
  | invalid =>
    refine iff_of_false Bool.false_ne_true ?_
    rintro ⟨w, hw, _⟩
    cases hw
  | valid w =>
    unfold conformThrough
    constructor
    · intro h
      refine ⟨w, rfl, ?_⟩
      cases hw : m'.conform w with
      | valid u => rfl
      | invalid =>
        simp only [hw] at h
        cases h
    · rintro ⟨_, hw, h⟩
      cases hw
      simp only
      cases hw : m'.conform w with
      | valid u => rfl
      | invalid =>
        rw [hw] at h
        cases h

end Meaning

/-! ### Records -/

namespace Registry

section
variable {id : Nat} {refs : Target → Meaning} {fields : List Field}

theorem undeclared_eq_nil {pairs : List (String × Value)} :
    undeclared fields pairs = [] ↔
      ∀ key, (Value.object pairs).containsKey key = true → ∃ f ∈ fields, f.name = key := by
  unfold undeclared
  rw [List.filter_eq_nil_iff]
  constructor
  · intro h key hkey
    obtain ⟨pair, hpair, heq⟩ := List.lookup_isSome_iff.mp hkey
    have hany := h pair hpair
    rw [Bool.not_eq_true', Bool.not_eq_false, List.any_eq_true] at hany
    obtain ⟨f, hf, hname⟩ := hany
    exact ⟨f, hf, (of_decide_eq_true hname).trans (eq_of_beq heq).symm⟩
  · intro h pair hpair
    obtain ⟨f, hf, hname⟩ := h pair.1 (List.lookup_isSome_iff.mpr ⟨pair, hpair, beq_self_eq_true _⟩)
    rw [Bool.not_eq_true', Bool.not_eq_false, List.any_eq_true]
    exact ⟨f, hf, decide_eq_true hname⟩

theorem conformExtra_isSome (extra : ExtraFields) (pairs : List (String × Value)) :
    (Spec.conformExtra extra pairs).isSome = true ↔ (extra = .forbid → pairs = []) := by
  cases extra with
  | ignore | allow => exact iff_of_true rfl fun h => by cases h
  | forbid => cases pairs <;> simp [Spec.conformExtra]

/-- The dictionary part of a record: what it asks, and what it makes of a value. -/
theorem dict_conform (hrefs : ∀ target, (refs target).KeepsKind) (extra : ExtraFields) (v : Value) :
    let keys := fieldMeanings id refs fields
    let dict := Meaning.dict Kind.owner (undeclared fields) extra keys
    ((dict.conform v).isValid = true ↔ v.kind = .object ∧
        (∀ f ∈ fields, ∃ w, ∃ _ : v.get? f.name = some w,
          ((f.kind.meaning id refs).conform w).isValid = true) ∧
        (extra = .forbid → ∀ key, v.containsKey key = true → ∃ f ∈ fields, f.name = key)) ∧
      ∀ w, dict.conform v = .valid w → ∃ pairs, w = .object pairs ∧ ∀ f ∈ fields,
        (w.get? f.name).map Value.kind = (v.get? f.name).map Value.kind := by
  intro keys dict
  cases v with
  | object pairs =>
    have hkeys : (Meaning.conformKeys keys (.object pairs)).isSome = true ↔
        ∀ f ∈ fields, ∃ w, ∃ _ : (Value.object pairs).get? f.name = some w,
          ((f.kind.meaning id refs).conform w).isValid = true := by
      rw [Meaning.conformKeys_isSome]
      exact List.forall_mem_map
    constructor
    · change (Meaning.assemble _ _).isValid = true ↔ _
      rw [Meaning.isValid_assemble, hkeys, conformExtra_isSome, undeclared_eq_nil]
      exact (and_iff_right rfl).symm
    · intro w hw
      change Meaning.assemble (Meaning.conformKeys keys (.object pairs)) _ = .valid w at hw
      cases hdeclared : Meaning.conformKeys keys (.object pairs) with
      | none =>
        rw [hdeclared] at hw
        cases hw
      | some declared =>
        cases hothers : Spec.conformExtra extra (undeclared fields pairs) with
        | none =>
          rw [hdeclared, hothers] at hw
          cases hw
        | some others =>
          rw [hdeclared, hothers] at hw
          cases hw
          refine ⟨_, rfl, fun f hf => ?_⟩
          refine Meaning.lookup_conformKeys (fun key hkey => ?_) hdeclared others ?_
          · obtain ⟨g, _, rfl⟩ := List.mem_map.mp hkey
            exact Kind.spreads_keepsKind.meaning hrefs g.kind
          · exact List.mem_map.mpr ⟨(f.name, f.kind.meaning id refs), List.mem_map_of_mem hf, rfl⟩
  | null | bool | int | float | string | bytes | list | tuple =>
    refine ⟨iff_of_false Bool.false_ne_true ?_, fun w hw => ?_⟩
    · rintro ⟨hobject, _⟩
      cases hobject
    · cases hw

/-- A record accepts the objects that its fields ask for. -/
theorem formMeaning_isValid (hrefs : ∀ target, (refs target).KeepsKind) (config : DeriveConfig)
    (v : Value) :
    ((formMeaning config fields (fieldMeanings id refs fields)).conform v).isValid = true ↔
      Fits config fields v fun f w _ => ((f.kind.meaning id refs).conform w).isValid = true := by
  obtain ⟨hdict, hmade⟩ := @dict_conform id refs fields hrefs config.extra v
  have hgroups := @Session.forall_placeholderGroups fields (Spec.SameKind v)
  simp only [formMeaning]
  by_cases hgrouped : (config.checkPlaceholders && !(Session.placeholderGroups fields).isEmpty) = true
  · rw [if_pos hgrouped, Meaning.allOf_pair_isValid]
    have hconsistent : ∀ w, (Meaning.dict Kind.owner (undeclared fields) config.extra
        (fieldMeanings id refs fields)).conform v = .valid w →
        (((Meaning.consistency Kind.owner (Session.placeholderGroups fields)).conform w).isValid =
            true ↔
          ∀ f ∈ fields, ∀ g ∈ fields, ∀ p, f.kind = .placeholder p → g.kind = .placeholder p →
            Spec.SameKind v f.name g.name) := by
      intro w hw
      obtain ⟨pairs, rfl, hkinds⟩ := hmade w hw
      change (Spec.conformConsistency (Session.placeholderGroups fields) (.object pairs)).isValid =
        true ↔ _
      simp only [Spec.conformConsistency_isValid, Spec.dissenters_eq_nil]
      rw [Session.forall_placeholderGroups]
      constructor
      · intro h f hf g hg p hfp hgp
        exact (Spec.sameKind_congr (hkinds f hf) (hkinds g hg)).mp (h f hf g hg p hfp hgp)
      · intro h f hf g hg p hfp hgp
        exact (Spec.sameKind_congr (hkinds f hf) (hkinds g hg)).mpr (h f hf g hg p hfp hgp)
    constructor
    · rintro ⟨w, hw, hagree⟩
      obtain ⟨hobject, hpresent, hdeclared⟩ := hdict.mp (by rw [hw]; rfl)
      exact ⟨hobject, hpresent, hdeclared, fun _ => (hconsistent w hw).mp hagree⟩
    · rintro ⟨hobject, hpresent, hdeclared, hagree⟩
      have hvalid := hdict.mpr ⟨hobject, hpresent, hdeclared⟩
      cases hw : (Meaning.dict Kind.owner (undeclared fields) config.extra
          (fieldMeanings id refs fields)).conform v with
      | invalid =>
        rw [hw] at hvalid
        cases hvalid
      | valid w =>
        refine ⟨w, rfl, (hconsistent w hw).mpr (hagree ?_)⟩
        exact (Bool.and_eq_true_iff.mp hgrouped).1
  · rw [if_neg hgrouped, hdict]
    constructor
    · rintro ⟨hobject, hpresent, hdeclared⟩
      refine ⟨hobject, hpresent, hdeclared, fun hcheck => hgroups.mp ?_⟩
      rw [hcheck, Bool.true_and, Bool.not_eq_true, Bool.not_eq_false', List.isEmpty_iff] at hgrouped
      rw [hgrouped]
      exact fun _ hmem => absurd hmem List.not_mem_nil
    · rintro ⟨hobject, hpresent, hdeclared, _⟩
      exact ⟨hobject, hpresent, hdeclared⟩

end

end Registry

/-! ## Well-formed kinds -/

namespace Target

def WellFormed (r : Registry) : Target → Prop
  | shape _ name args => (Kind.record name args).WellFormed r
  | forward _ name args => (Kind.forward name args).WellFormed r
  | bound _ => False

def Matched (r : Registry) (v : Value) : Target → Prop
  | shape _ name args => Matches r v (.record name args)
  | forward _ name args => Matches r v (.forward name args)
  | bound _ => False

end Target

section
variable {id : Nat} {r : Registry}

theorem Kind.WellFormed.targets {k : Kind} (h : k.WellFormed r) :
    ∀ target ∈ k.targets id, target.WellFormed r := by
  intro target hmem
  have hthroughout : target.Throughout r.Refers := Kind.Throughout.targets h target hmem
  cases target <;> exact hthroughout

theorem Kind.wellFormed_of_forward {name : String} {args : List Kind}
    (h : (Kind.forward name args).WellFormed r) (hname : r.contains name = true) :
    (Kind.record name args).WellFormed r := by
  obtain ⟨hrefers, hargs⟩ := Kind.wellFormed_forward.mp h
  refine Kind.wellFormed_record.mpr ⟨?_, hargs⟩
  rcases hrefers with htakes | ⟨hunknown, _⟩
  · exact htakes
  · rw [hname] at hunknown
    cases hunknown

section
variable {refs : Target → Meaning} {b : Nat}

mutual

/-- A kind's meaning accepts what matches it, if the meanings of its references do. -/
theorem Kind.meaning_isValid (hrefs : ∀ target : Target, target.WellFormed r → ∀ w, w.depth < b →
      (((refs target).conform w).isValid = true ↔ target.Matched r w)) :
    ∀ {k : Kind}, k.WellFormed r → ∀ v : Value, v.depth < b →
      (((k.meaning id refs).conform v).isValid = true ↔ Matches r v k)
  | .leaf k, _, v, _ => by
    unfold Kind.meaning Matches
    exact (Eq.congr_left (Conformed.isValid_ofBool _ v)).trans decide_eq_true_iff
  | .nothing, _, v, _ => by
    unfold Kind.meaning Matches
    refine (Eq.congr_left (Conformed.isValid_ofBool _ v)).trans (decide_eq_true_iff.trans ?_)
    cases v <;> simp [Value.kind]
  | .record name args, h, v, hv => by
    unfold Kind.meaning
    exact hrefs (.shape id name args) h v hv
  | .forward name args, h, v, hv => by
    unfold Kind.meaning
    exact hrefs (.forward id name args) h v hv
  | .list item, h, v, hv => by
    unfold Kind.meaning Matches
    rw [Meaning.collOf_isValid]
    have hitem : ∀ items, v.items? = some items → ∀ w ∈ items,
        (((item.meaning id refs).conform w).isValid = true ↔ Matches r w item) :=
      fun items hitems w hw => Kind.meaning_isValid hrefs (Kind.wellFormed_list.mp h) w
        (Nat.lt_trans (Value.depth_lt_of_mem_items hitems hw) hv)
    constructor
    · rintro ⟨items, hitems, hall⟩
      exact ⟨items, hitems, fun w hw => (hitem items hitems w hw).mp (hall w hw)⟩
    · rintro ⟨items, hitems, hall⟩
      exact ⟨items, hitems, fun w hw => (hitem items hitems w hw).mpr (hall w hw)⟩
  | .union ks, h, v, hv => by
    unfold Kind.meaning Matches
    exact (Meaning.conformFirst_isValid _ v).trans
      (Kind.meanings_isValid hrefs (Kind.wellFormed_union.mp h) v hv)
  | .placeholder p, _, v, _ => by
    unfold Kind.meaning Matches
    exact iff_of_true rfl trivial

theorem Kind.meanings_isValid (hrefs : ∀ target : Target, target.WellFormed r → ∀ w, w.depth < b →
      (((refs target).conform w).isValid = true ↔ target.Matched r w)) :
    ∀ {ks : List Kind}, (∀ k ∈ ks, k.WellFormed r) → ∀ v : Value, v.depth < b →
      ((∃ m ∈ Kind.meanings id refs ks, (m.conform v).isValid = true) ↔
        ∃ k, ∃ _ : k ∈ ks, Matches r v k)
  | [], _, v, _ => by
    constructor
    · rintro ⟨_, hm, _⟩
      cases hm
    · rintro ⟨_, hk, _⟩
      cases hk
  | k :: ks, h, v, hv => by
    have hfirst := Kind.meaning_isValid hrefs (h k List.mem_cons_self) v hv
    have hrest := Kind.meanings_isValid hrefs (fun j hj => h j (List.mem_cons_of_mem k hj)) v hv
    unfold Kind.meanings
    simp only [exists_prop, List.mem_cons, exists_eq_or_imp] at hrest ⊢
    rw [hfirst, hrest]

end

end

/-- The meaning of a shape accepts the objects that match it, if what its fields refer to does so for
their members. -/
theorem Registry.recordMeaning_isValid (hr : r.WellFormed) {a : Applied}
    (ha : (Kind.record a.1 a.2).WellFormed r) {b : Nat}
    (hrefs : ∀ target : Target, target.WellFormed r → ∀ w, w.depth < b →
      (((r.refs id b target).conform w).isValid = true ↔ target.Matched r w))
    {v : Value} (hv : v.depth ≤ b) :
    ((r.recordMeaning id (r.refs id b) a).conform v).isValid = true ↔
      ∃ fields, r.fieldsOf a = .ok fields ∧
        Fits r.config fields v fun f w _ => Matches r w f.kind := by
  obtain ⟨fields, hfields, hwell⟩ := hr.fieldsOf ha
  rw [recordMeaning_eq (hr.alone ha) hfields, formMeaning_isValid (r.keepsKind_refs b)]
  have hmember : ∀ f ∈ fields, ∀ w (_ : v.get? f.name = some w),
      (((f.kind.meaning id (r.refs id b)).conform w).isValid = true ↔ Matches r w f.kind) :=
    fun f hf w hw => Kind.meaning_isValid hrefs (hwell f hf) w
      (Nat.lt_of_lt_of_le (Value.depth_lt_of_get? hw) hv)
  rw [Fits.congr hmember]
  constructor
  · exact fun h => ⟨fields, hfields, h⟩
  · rintro ⟨fields', hfields', h⟩
    cases hfields.symm.trans hfields'
    exact h

theorem Registry.refs_isValid (hr : r.WellFormed) (b : Nat) :
    ∀ target : Target, target.WellFormed r → ∀ v, v.depth < b →
      (((r.refs id b target).conform v).isValid = true ↔ target.Matched r v) := by
  induction b with
  | zero => exact fun _ _ _ hv => absurd hv (Nat.not_lt_zero _)
  | succ b ih =>
    intro target htarget v hv
    cases target with
    | bound name => exact htarget.elim
    | shape registry name args =>
      unfold refs Target.Matched Matches
      exact recordMeaning_isValid hr (a := (name, args)) htarget ih (Nat.le_of_lt_succ hv)
    | forward registry name args =>
      simp only [refs, Target.Matched]
      unfold Matches
      by_cases hname : r.contains name = true
      · rw [if_pos hname, if_pos hname]
        exact recordMeaning_isValid hr (a := (name, args))
          (Kind.wellFormed_of_forward htarget hname) ih (Nat.le_of_lt_succ hv)
      · rw [if_neg hname, if_neg hname]
        cases hkind : r.builtin? name args with
        | none =>
          refine iff_of_false Bool.false_ne_true ?_
          rintro ⟨k, hk, _⟩
          cases hk
        | some k =>
          refine (Eq.congr_left (Conformed.isValid_ofBool _ v)).trans (decide_eq_true_iff.trans ?_)
          constructor
          · exact fun h => ⟨k, rfl, h⟩
          · rintro ⟨_, hk, h⟩
            cases hk
            exact h

theorem Kind.meaning_isValid_iff_matches (hr : r.WellFormed) {k : Kind} (hk : k.WellFormed r)
    {v : Value} {b : Nat} (hv : v.depth < b) :
    ((k.meaning id (r.refs id b)).conform v).isValid = true ↔ Matches r v k :=
  Kind.meaning_isValid (Registry.refs_isValid hr b) hk v hv

end

end Conform

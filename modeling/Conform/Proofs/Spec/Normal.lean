import Conform.Proofs.Kind.Matches
import Mathlib.Data.List.Forall2
/-!
What specs leave alone. A spec for records may drop keys and puts those it declares in its own order,
so what it makes of a value is the value trimmed. Where a trimmed value is taken the whole value is
taken too. An alternative that rejected a value therefore rejects what a later one made of it, and
what a spec has made it does not change again.
-/

namespace Conform

/-! ## Pairs under a key -/

theorem lookup_filter_key (p : String → Bool) (pairs : List (String × Value)) (key : String) :
    (pairs.filter fun pair => p pair.1).lookup key = if p key then pairs.lookup key else none := by
  induction pairs with
  | nil => simp
  | cons pair pairs ih =>
    obtain ⟨k, v⟩ := pair
    by_cases heq : key = k
    · subst heq
      cases hp : p key <;> simp [hp, ih]
    · cases hp : p k <;> simp [hp, ih, List.lookup_cons, beq_eq_false_iff_ne.mpr heq]

/-- If no key stands twice, every pair answers for its key. -/
theorem lookup_of_mem_pair {pairs : List (String × Value)} (hkeys : (pairs.map (·.1)).Nodup)
    {key : String} {v : Value} (h : (key, v) ∈ pairs) : pairs.lookup key = some v := by
  induction pairs with
  | nil => cases h
  | cons pair pairs ih =>
    obtain ⟨k, w⟩ := pair
    obtain ⟨hnew, hrest⟩ := List.nodup_cons.mp hkeys
    rcases List.mem_cons.mp h with heq | hmem
    · cases heq
      exact List.lookup_cons_self
    · have hne : key ≠ k := fun heq => hnew (List.mem_map.mpr ⟨(key, v), hmem, heq⟩)
      rw [List.lookup_cons, beq_eq_false_iff_ne.mpr hne]
      exact ih hrest hmem

theorem lookup_eq_none_iff_key {pairs : List (String × Value)} {key : String} :
    pairs.lookup key = none ↔ key ∉ pairs.map (·.1) := by
  rw [List.lookup_eq_none_iff]
  constructor
  · intro h hmem
    obtain ⟨pair, hpair, rfl⟩ := List.mem_map.mp hmem
    simpa using h pair hpair
  · intro h pair hpair
    exact bne_iff_ne.mpr fun heq => h (List.mem_map.mpr ⟨pair, hpair, heq.symm⟩)

/-! ## Trimmed values -/

namespace Value

/-- The value is the other one with keys of its objects dropped or moved. Where no keys are allowed
but those that are declared, none are dropped either. -/
inductive Trimmed (extra : ExtraFields) : Value → Value → Prop
  | refl (v : Value) : Trimmed extra v v
  | list {ws vs : List Value} : List.Forall₂ (Trimmed extra) ws vs →
    Trimmed extra (.list ws) (.list vs)
  | tuple {ws vs : List Value} : List.Forall₂ (Trimmed extra) ws vs →
    Trimmed extra (.tuple ws) (.tuple vs)
  | object {ps qs : List (String × Value)} :
    (∀ key w v, ps.lookup key = some w → qs.lookup key = some v → Trimmed extra w v) →
    (∀ key, qs.lookup key = none → ps.lookup key = none) →
    (extra = .forbid → ∀ key, ps.lookup key = none → qs.lookup key = none) →
      Trimmed extra (.object ps) (.object qs)

namespace Trimmed

variable {extra : ExtraFields} {w v : Value}

theorem kind_eq (h : w.Trimmed extra v) : w.kind = v.kind := by
  cases h <;> rfl

theorem get? (h : w.Trimmed extra v) {key : String} {x : Value} (hx : w.get? key = some x) :
    ∃ y, v.get? key = some y ∧ x.Trimmed extra y := by
  cases h with
  | refl => exact ⟨x, hx, .refl x⟩
  | list | tuple => cases hx
  | @object ps qs hkeys hpresent =>
    cases hy : qs.lookup key with
    | some y => exact ⟨y, hy, hkeys key x y hx hy⟩
    | none => cases (hpresent key hy).symm.trans hx

theorem items? (h : w.Trimmed extra v) {ws : List Value} (hws : w.items? = some ws) :
    ∃ vs, v.items? = some vs ∧ List.Forall₂ (Trimmed extra) ws vs := by
  cases h with
  | refl => exact ⟨ws, hws, List.forall₂_same.mpr fun x _ => .refl x⟩
  | list hitems | tuple hitems =>
    cases hws
    exact ⟨_, rfl, hitems⟩
  | object => cases hws

/-- Where no other keys are allowed, a trimmed object has all the keys of the whole one. -/
theorem get?_none (h : w.Trimmed .forbid v) {key : String} (hkey : w.get? key = none) :
    v.get? key = none := by
  cases h with
  | refl => exact hkey
  | list | tuple => rfl
  | object _ _ hall => exact hall rfl key hkey

end Trimmed

end Value

/-! ## Meanings that normalize -/

namespace Meaning

/-- What the meaning makes of values is trimmed, and is left alone; what is trimmed is only taken where
the whole value is. -/
structure Normalizes (extra : ExtraFields) (m : Meaning) : Prop where
  trims {v w : Value} : m.conform v = .valid w → w.Trimmed extra v
  takes {v w : Value} : w.Trimmed extra v → (m.conform w).isValid = true →
    (m.conform v).isValid = true
  leaves {v w : Value} : m.conform v = .valid w → m.conform w = .valid w

variable {extra : ExtraFields} {m : Meaning}

theorem normalizes_anything : anything.Normalizes extra where
  trims h := by
    cases h
    exact .refl _
  takes _ _ := rfl
  leaves _ := rfl

theorem normalizes_of_invalid (h : ∀ v, m.conform v = .invalid) : m.Normalizes extra where
  trims hv := by cases (h _).symm.trans hv
  takes _ hv := by
    rw [h] at hv
    cases hv
  leaves hv := by cases (h _).symm.trans hv

theorem normalizes_ofKind (owner : Spec) (kind : ValueKind) (reason : Value → String) :
    (ofCheck owner (fun v => v.kind = kind) reason).Normalizes extra := by
  have hconform : ∀ v, (ofCheck owner (fun v => v.kind = kind) reason).conform v =
      if v.kind = kind then .valid v else .invalid := by
    intro v
    by_cases hkind : v.kind = kind <;> simp [ofCheck, Conformed.ofBool, hkind]
  constructor
  · intro v w h
    rw [hconform] at h
    split at h <;> cases h
    exact .refl _
  · intro v w h hw
    rw [hconform] at hw ⊢
    rw [← h.kind_eq]
    split at hw
    · next hkind =>
      rw [if_pos hkind]
      rfl
    · cases hw
  · intro v w h
    rw [hconform] at h
    split at h
    · next hkind =>
      cases h
      rw [hconform, if_pos hkind]
    · cases h

/-! ### Alternatives -/

theorem conformFirst_eq_valid {ms : List Meaning} {v w : Value} : conformFirst ms v = .valid w ↔
    ∃ before m after, ms = before ++ m :: after ∧ (∀ n ∈ before, n.conform v = .invalid) ∧
      m.conform v = .valid w := by
  constructor
  · intro h
    induction ms with
    | nil => cases h
    | cons m ms ih =>
      unfold conformFirst at h
      cases hm : m.conform v with
      | valid u =>
        rw [hm] at h
        exact ⟨[], m, ms, rfl, fun _ hn => absurd hn List.not_mem_nil, hm.trans h⟩
      | invalid =>
        rw [hm] at h
        obtain ⟨before, n, after, rfl, hbefore, hn⟩ := ih h
        exact ⟨m :: before, n, after, rfl, List.forall_mem_cons.mpr ⟨hm, hbefore⟩, hn⟩
  · rintro ⟨before, m, after, rfl, hbefore, hm⟩
    induction before with
    | nil => simp only [List.nil_append, conformFirst, hm]
    | cons n before ih =>
      obtain ⟨hn, hrest⟩ := List.forall_mem_cons.mp hbefore
      simp only [List.cons_append, conformFirst, hn, ih hrest]

/-- The alternatives before the one that made the value rejected the whole value, so they reject what
was made of it. -/
theorem normalizes_oneOf {ms : List Meaning} (hms : ∀ m ∈ ms, m.Normalizes extra) :
    (oneOf ms).Normalizes extra where
  trims h := by
    obtain ⟨before, m, after, rfl, _, hm⟩ := conformFirst_eq_valid.mp h
    exact (hms m (List.mem_append_right _ List.mem_cons_self)).trims hm
  takes h hw := by
    obtain ⟨m, hmem, hm⟩ := (conformFirst_isValid ms _).mp hw
    exact (conformFirst_isValid ms _).mpr ⟨m, hmem, (hms m hmem).takes h hm⟩
  leaves {v w} h := by
    obtain ⟨before, m, after, rfl, hbefore, hm⟩ := conformFirst_eq_valid.mp h
    have hnormal := hms m (List.mem_append_right _ List.mem_cons_self)
    refine conformFirst_eq_valid.mpr ⟨before, m, after, rfl, fun n hn => ?_, hnormal.leaves hm⟩
    cases hnw : n.conform w with
    | invalid => rfl
    | valid u =>
      have htakes := (hms n (List.mem_append_left _ hn)).takes (hnormal.trims hm)
        (by rw [hnw]; rfl)
      rw [hbefore n hn] at htakes
      cases htakes

/-! ### Lists -/

theorem conformItems_eq_some {vs ws : List Value} : m.conformItems vs = some ws ↔
    List.Forall₂ (fun v w => m.conform v = .valid w) vs ws := by
  induction vs generalizing ws with
  | nil => simp [conformItems, eq_comm]
  | cons v vs ih =>
    rw [List.forall₂_cons_left_iff, conformItems]
    cases hv : m.conform v with
    | invalid => simp
    | valid w =>
      simp only [Option.map_eq_some_iff, ih, Conformed.valid.injEq]
      constructor
      · rintro ⟨rest, hrest, rfl⟩
        exact ⟨w, rest, rfl, hrest, rfl⟩
      · rintro ⟨_, rest, rfl, hrest, rfl⟩
        exact ⟨rest, hrest, rfl⟩

theorem collOf_eq_valid {owner : Spec} {v w : Value} : (collOf owner m).conform v = .valid w ↔
    ∃ vs ws, List.Forall₂ (fun v w => m.conform v = .valid w) vs ws ∧
      (v = .list vs ∧ w = .list ws ∨ v = .tuple vs ∧ w = .tuple ws) := by
  constructor
  · intro h
    cases v with
    | list vs | tuple vs =>
      change contain _ (m.conformItems vs) = .valid w at h
      cases hws : m.conformItems vs with
      | none =>
        rw [hws] at h
        cases h
      | some ws =>
        rw [hws] at h
        cases h
        exact ⟨vs, ws, conformItems_eq_some.mp hws, by simp⟩
    | null | bool | int | float | string | bytes | object => cases h
  · rintro ⟨vs, ws, hitems, ⟨rfl, rfl⟩ | ⟨rfl, rfl⟩⟩
    all_goals
      change contain _ (m.conformItems vs) = _
      rw [conformItems_eq_some.mpr hitems]
      rfl

theorem Normalizes.collOf (hm : m.Normalizes extra) (owner : Spec) :
    (collOf owner m).Normalizes extra where
  trims h := by
    obtain ⟨vs, ws, hitems, ⟨rfl, rfl⟩ | ⟨rfl, rfl⟩⟩ := collOf_eq_valid.mp h
    · exact .list (hitems.imp fun _ _ h => hm.trims h).flip
    · exact .tuple (hitems.imp fun _ _ h => hm.trims h).flip
  takes h hw := by
    obtain ⟨ws, hws, hvalid⟩ := (collOf_isValid owner m _).mp hw
    obtain ⟨vs, hvs, hitems⟩ := h.items? hws
    refine (collOf_isValid owner m _).mpr ⟨vs, hvs, ?_⟩
    clear hws hvs hw h
    induction hitems with
    | nil => exact fun _ hx => absurd hx List.not_mem_nil
    | cons hx _ ih =>
      obtain ⟨hfirst, hrest⟩ := List.forall_mem_cons.mp hvalid
      exact List.forall_mem_cons.mpr ⟨hm.takes hx hfirst, ih hrest⟩
  leaves h := by
    obtain ⟨vs, ws, hitems, hcontainer⟩ := collOf_eq_valid.mp h
    have hagain : List.Forall₂ (fun v w => m.conform v = .valid w) ws ws := by
      clear hcontainer h
      induction hitems with
      | nil => exact .nil
      | cons hx _ ih => exact .cons (hm.leaves hx) ih
    exact collOf_eq_valid.mpr ⟨ws, ws, hagain, hcontainer.imp (fun h => ⟨h.2, h.2⟩) fun h => ⟨h.2, h.2⟩⟩

/-! ### Dictionaries -/

/-- The pair is what the meaning under a key makes of the value there. -/
def Makes (v : Value) (key : String × Meaning) (pair : String × Value) : Prop :=
  key.1 = pair.1 ∧ ∃ present, v.get? key.1 = some present ∧ key.2.conform present = .valid pair.2

section
variable {keys : List (String × Meaning)} {v w : Value} {declared : List (String × Value)}

theorem conformKeys_eq_some :
    conformKeys keys v = some declared ↔ List.Forall₂ (Makes v) keys declared := by
  induction keys generalizing declared with
  | nil => simp [conformKeys, eq_comm]
  | cons key keys ih =>
    obtain ⟨name, m⟩ := key
    rw [List.forall₂_cons_left_iff, conformKeys]
    constructor
    · intro h
      cases hget : v.get? name with
      | none =>
        rw [hget] at h
        cases h
      | some present =>
        cases hconform : m.conform present with
        | invalid =>
          simp only [hget, hconform] at h
          cases h
        | valid u =>
          simp only [hget, hconform, Option.map_eq_some_iff] at h
          obtain ⟨rest, hrest, rfl⟩ := h
          exact ⟨(name, u), rest, ⟨rfl, present, hget, hconform⟩, ih.mp hrest, rfl⟩
    · rintro ⟨⟨name', u⟩, rest, ⟨rfl, present, hget, hconform⟩, hrest, rfl⟩
      simp only at hget hconform
      simp only [hget, hconform, ih.mpr hrest, Option.map_some]

theorem names_of_makes (h : List.Forall₂ (Makes v) keys declared) :
    declared.map (·.1) = keys.map (·.1) := by
  induction h with
  | nil => rfl
  | cons hpair _ ih => rw [List.map_cons, List.map_cons, ih, hpair.1]

theorem exists_key_of_makes (h : List.Forall₂ (Makes v) keys declared) {pair : String × Value}
    (hpair : pair ∈ declared) : ∃ key ∈ keys, Makes v key pair := by
  induction h with
  | nil => cases hpair
  | @cons key pair' keys rest hmakes _ ih =>
    rcases List.mem_cons.mp hpair with rfl | hmem
    · exact ⟨key, List.mem_cons_self, hmakes⟩
    · obtain ⟨key', hkey', hmakes'⟩ := ih hmem
      exact ⟨key', List.mem_cons_of_mem _ hkey', hmakes'⟩

theorem dict_eq_valid {owner : Spec} {undeclared : List (String × Value) → List (String × Value)} :
    (dict owner undeclared extra keys).conform v = .valid w ↔
      ∃ pairs declared others, v = .object pairs ∧ List.Forall₂ (Makes v) keys declared ∧
        Spec.conformExtra extra (undeclared pairs) = some others ∧ w = .object (declared ++ others) := by
  constructor
  · intro h
    cases v with
    | object pairs =>
      change assemble (conformKeys keys _) (Spec.conformExtra extra _) = .valid w at h
      unfold assemble at h
      split at h
      · next declared others hdeclared hothers =>
        cases h
        exact ⟨pairs, declared, others, rfl, conformKeys_eq_some.mp hdeclared, hothers, rfl⟩
      · cases h
    | null | bool | int | float | string | bytes | list | tuple => cases h
  · rintro ⟨pairs, declared, others, rfl, hdeclared, hothers, rfl⟩
    change assemble (conformKeys keys _) (Spec.conformExtra extra _) = _
    rw [conformKeys_eq_some.mpr hdeclared, hothers]
    rfl

theorem dict_isValid {owner : Spec} {undeclared : List (String × Value) → List (String × Value)} :
    ((dict owner undeclared extra keys).conform v).isValid = true ↔
      ∃ pairs, v = .object pairs ∧
        (∀ key ∈ keys, ∃ present, ∃ _ : v.get? key.1 = some present,
          (key.2.conform present).isValid = true) ∧
        (extra = .forbid → undeclared pairs = []) := by
  cases v with
  | object pairs =>
    change (assemble _ _).isValid = true ↔ _
    rw [isValid_assemble, conformKeys_isSome, Registry.conformExtra_isSome]
    constructor
    · exact fun h => ⟨pairs, rfl, h⟩
    · rintro ⟨_, heq, h⟩
      cases heq
      exact h
  | null | bool | int | float | string | bytes | list | tuple =>
    refine iff_of_false Bool.false_ne_true ?_
    rintro ⟨_, heq, _⟩
    cases heq

end

/-- The pairs under other keys than those of the list. -/
def besides (names : List String) (pairs : List (String × Value)) : List (String × Value) :=
  pairs.filter fun pair => pair.1 ∉ names

section
variable {names : List String} {pairs others : List (String × Value)}

theorem besides_eq_nil : besides names pairs = [] ↔ ∀ pair ∈ pairs, pair.1 ∈ names := by
  simp [besides, List.filter_eq_nil_iff]

theorem lookup_besides (key : String) :
    (besides names pairs).lookup key = if key ∈ names then none else pairs.lookup key := by
  have h := lookup_filter_key (fun name => name ∉ names) pairs key
  unfold besides
  rw [h]
  by_cases hkey : key ∈ names <;> simp [hkey]

/-- What a mode makes of some pairs: all of them if it keeps them, and none otherwise. -/
theorem conformExtra_cases (h : Spec.conformExtra extra pairs = some others) :
    extra = .allow ∧ others = pairs ∨
      extra ≠ .allow ∧ others = [] ∧ (extra = .forbid → pairs = []) := by
  cases extra with
  | allow =>
    cases h
    exact .inl ⟨rfl, rfl⟩
  | ignore =>
    cases h
    exact .inr ⟨by decide, rfl, fun hforbid => by cases hforbid⟩
  | forbid =>
    have hempty : pairs = [] := (Registry.conformExtra_isSome .forbid pairs).mp (by rw [h]; rfl) rfl
    subst hempty
    cases h
    exact .inr ⟨by decide, rfl, fun _ => rfl⟩

theorem lookup_others (h : Spec.conformExtra extra (besides names pairs) = some others)
    {key : String} {w : Value} (hkey : others.lookup key = some w) : pairs.lookup key = some w := by
  rcases conformExtra_cases h with ⟨_, rfl⟩ | ⟨_, rfl, _⟩
  · rw [lookup_besides] at hkey
    split at hkey
    · cases hkey
    · exact hkey
  · cases hkey

/-- What is beside the declared pairs is dealt with as before. -/
theorem conformExtra_again (h : Spec.conformExtra extra (besides names pairs) = some others)
    {declared : List (String × Value)} (hdeclared : ∀ pair ∈ declared, pair.1 ∈ names) :
    Spec.conformExtra extra (besides names (declared ++ others)) = some others := by
  have hothers : besides names (declared ++ others) = besides names others := by
    have hnone := besides_eq_nil.mpr hdeclared
    unfold besides at hnone ⊢
    rw [List.filter_append, hnone, List.nil_append]
  rw [hothers]
  rcases conformExtra_cases h with ⟨rfl, rfl⟩ | ⟨hne, rfl, _⟩
  · have hagain : besides names (besides names pairs) = besides names pairs := by
      unfold besides
      rw [List.filter_filter]
      simp
    rw [hagain]
    rfl
  · cases extra with
    | allow => exact absurd rfl hne
    | ignore | forbid => rfl

end

section
variable {keys : List (String × Meaning)} {pairs declared others : List (String × Value)}

theorem trimmed_of_makes (hkeys : ∀ key ∈ keys, key.2.Normalizes extra)
    (hdeclared : List.Forall₂ (Makes (.object pairs)) keys declared)
    (hothers : Spec.conformExtra extra (besides (keys.map (·.1)) pairs) = some others) :
    (Value.object (declared ++ others)).Trimmed extra (.object pairs) := by
  have hmade : ∀ {key w}, declared.lookup key = some w →
      ∃ present, pairs.lookup key = some present ∧ w.Trimmed extra present := by
    intro key w hw
    obtain ⟨⟨name, m⟩, hkey, rfl, present, hpresent, hconform⟩ :=
      exists_key_of_makes hdeclared (mem_of_lookup_pair hw)
    exact ⟨present, hpresent, (hkeys _ hkey).trims hconform⟩
  refine .object (fun key w v hw hv => ?_) (fun key hnone => ?_) fun hforbid key hnone => ?_
  · rw [List.lookup_append] at hw
    rcases Option.or_eq_some_iff.mp hw with hw | ⟨_, hw⟩
    · obtain ⟨present, hpresent, htrimmed⟩ := hmade hw
      cases hv.symm.trans hpresent
      exact htrimmed
    · cases hv.symm.trans (lookup_others hothers hw)
      exact .refl w
  · rw [List.lookup_append, Option.or_eq_none_iff]
    constructor
    · cases hw : declared.lookup key with
      | none => rfl
      | some w =>
        obtain ⟨present, hpresent, _⟩ := hmade hw
        cases hnone.symm.trans hpresent
    · cases hw : others.lookup key with
      | none => rfl
      | some w => cases hnone.symm.trans (lookup_others hothers hw)
  · rw [List.lookup_append, Option.or_eq_none_iff, lookup_eq_none_iff_key,
      names_of_makes hdeclared] at hnone
    rcases conformExtra_cases hothers with ⟨rfl, _⟩ | ⟨_, _, hall⟩
    · cases hforbid
    · rw [lookup_eq_none_iff_key]
      intro hmem
      obtain ⟨pair, hpair, rfl⟩ := List.mem_map.mp hmem
      exact hnone.1 (besides_eq_nil.mp (hall hforbid) pair hpair)

/-- Each declared pair is made again of itself. -/
theorem makes_again (hkeys : ∀ key ∈ keys, key.2.Normalizes extra) {v w : Value}
    (hdeclared : List.Forall₂ (Makes v) keys declared)
    (hw : ∀ pair ∈ declared, w.get? pair.1 = some pair.2) :
    List.Forall₂ (Makes w) keys declared := by
  induction hdeclared with
  | nil => exact .nil
  | @cons key pair keys declared hmakes _ ih =>
    obtain ⟨hkey, hkeys⟩ := List.forall_mem_cons.mp hkeys
    obtain ⟨hpair, hw⟩ := List.forall_mem_cons.mp hw
    obtain ⟨hname, present, _, hconform⟩ := hmakes
    exact .cons ⟨hname, pair.2, hname ▸ hpair, hkey.leaves hconform⟩ (ih hkeys hw)

/-- A dictionary takes the value under each key, whatever else there is in the object. -/
theorem normalizes_dict (owner : Spec) (hkeys : ∀ key ∈ keys, key.2.Normalizes extra)
    (hnames : (keys.map (·.1)).Nodup) :
    (dict owner (besides (keys.map (·.1))) extra keys).Normalizes extra where
  trims h := by
    obtain ⟨pairs, declared, others, rfl, hdeclared, hothers, rfl⟩ := dict_eq_valid.mp h
    exact trimmed_of_makes hkeys hdeclared hothers
  takes {v w} h hw := by
    obtain ⟨ps, rfl, hpresent, hdeclared⟩ := dict_isValid.mp hw
    obtain ⟨qs, rfl⟩ : ∃ qs, v = .object qs := by
      have hkind := h.kind_eq
      cases v with
      | object qs => exact ⟨qs, rfl⟩
      | null | bool | int | float | string | bytes | list | tuple => cases hkind
    refine dict_isValid.mpr ⟨qs, rfl, fun key hkey => ?_, ?_⟩
    · obtain ⟨x, hx, hvalid⟩ := hpresent key hkey
      obtain ⟨y, hy, htrimmed⟩ := h.get? hx
      exact ⟨y, hy, (hkeys key hkey).takes htrimmed hvalid⟩
    · rintro rfl
      rw [besides_eq_nil]
      intro pair hpair
      by_contra hname
      have hnone : ps.lookup pair.1 = none := by
        rw [lookup_eq_none_iff_key]
        intro hmem
        obtain ⟨pair', hpair', heq⟩ := List.mem_map.mp hmem
        exact hname (heq ▸ besides_eq_nil.mp (hdeclared rfl) pair' hpair')
      have hmissing : qs.lookup pair.1 = none := h.get?_none hnone
      exact lookup_eq_none_iff_key.mp hmissing (List.mem_map_of_mem hpair)
  leaves h := by
    obtain ⟨pairs, declared, others, rfl, hdeclared, hothers, rfl⟩ := dict_eq_valid.mp h
    have hnames' := names_of_makes hdeclared
    refine dict_eq_valid.mpr ⟨_, declared, others, rfl, makes_again hkeys hdeclared ?_, ?_, rfl⟩
    · intro pair hpair
      have hlookup := lookup_of_mem_pair (hnames' ▸ hnames) hpair
      change (declared ++ others).lookup pair.1 = _
      rw [List.lookup_append, hlookup]
      rfl
    · refine conformExtra_again hothers fun pair hpair => ?_
      rw [← hnames']
      exact List.mem_map_of_mem hpair

end

theorem dict_declares {owner : Spec} {undeclared : List (String × Value) → List (String × Value)}
    {keys : List (String × Meaning)} {v w : Value}
    (h : (dict owner undeclared extra keys).conform v = .valid w) {name : String}
    (hname : name ∈ keys.map (·.1)) : w.get? name ≠ none := by
  obtain ⟨pairs, declared, others, rfl, hdeclared, _, rfl⟩ := dict_eq_valid.mp h
  rw [← names_of_makes hdeclared] at hname
  change (declared ++ others).lookup name ≠ none
  rw [List.lookup_append, Ne, Option.or_eq_none_iff, lookup_eq_none_iff_key]
  exact fun hnone => hnone.1 hname

end Meaning

/-! ### Fields that have to agree -/

namespace Spec

theorem replacePair_of_lookup {key : String} {v : Value} {pairs : List (String × Value)}
    (h : pairs.lookup key = some v) : replacePair key v pairs = pairs := by
  induction pairs with
  | nil => rfl
  | cons pair pairs ih =>
    obtain ⟨k, w⟩ := pair
    unfold replacePair
    rw [List.lookup_cons] at h
    by_cases hkey : key = k
    · subst hkey
      rw [beq_self_eq_true] at h
      cases h
      rw [if_pos rfl]
    · rw [beq_eq_false_iff_ne.mpr hkey] at h
      rw [if_neg (Ne.symm hkey), ih h]

/-- Members are written back where they were read. -/
theorem conformGroup_eq_some {pairs output : List (String × Value)} {group : PlaceholderGroup}
    (h : conformGroup (.object pairs) group pairs = some output) : output = pairs := by
  have hwritten : ∀ members : List (String × Value),
      (∀ member ∈ members, pairs.lookup member.1 = some member.2) →
        members.foldl (fun out member => replacePair member.1 member.2 out) pairs = pairs := by
    intro members hmembers
    induction members with
    | nil => rfl
    | cons member members ih =>
      obtain ⟨hfirst, hrest⟩ := List.forall_mem_cons.mp hmembers
      rw [List.foldl_cons, replacePair_of_lookup hfirst]
      exact ih hrest
  unfold conformGroup at h
  split at h
  · cases h
    exact hwritten _ fun member hmember => (mem_presentMembers.mp hmember).2
  · cases h

theorem conformGroups_eq_some {pairs output : List (String × Value)} {groups : List PlaceholderGroup}
    (h : conformGroups (.object pairs) groups pairs = some output) : output = pairs := by
  induction groups with
  | nil =>
    cases h
    rfl
  | cons group groups ih =>
    unfold conformGroups at h
    obtain ⟨written, hwritten, hrest⟩ := Option.bind_eq_some_iff.mp h
    cases conformGroup_eq_some hwritten
    exact ih hrest

/-- Groups that are content with a value leave it as it is. -/
theorem conformConsistency_eq_valid {groups : List PlaceholderGroup} {v w : Value}
    (h : conformConsistency groups v = .valid w) : w = v := by
  cases v with
  | object pairs =>
    cases houtput : conformGroups (.object pairs) groups pairs with
    | some output =>
      simp only [conformConsistency, houtput] at h
      cases h
      rw [conformGroups_eq_some houtput]
    | none =>
      simp only [conformConsistency, houtput] at h
      cases h
  | null | bool | int | float | string | bytes | list | tuple => cases h

end Spec

namespace Meaning

variable {extra : ExtraFields} {m : Meaning}

theorem consistency_isValid (owner : Spec) (groups : List PlaceholderGroup) (v : Value) :
    ((consistency owner groups).conform v).isValid = true ↔
      v.kind = .object ∧ ∀ group ∈ groups, Spec.dissenters group v = [] := by
  cases v with
  | object pairs => exact (Spec.conformConsistency_isValid groups pairs).trans (and_iff_right rfl).symm
  | null | bool | int | float | string | bytes | list | tuple =>
    exact iff_of_false Bool.false_ne_true fun h => by cases h.1

theorem allOf_pair_eq_valid {m' : Meaning} {v w : Value} : (allOf [m, m']).conform v = .valid w ↔
    ∃ made, m.conform v = .valid made ∧ m'.conform made = .valid w := by
  change conformThrough [m, m'] v = .valid w ↔ _
  unfold conformThrough
  cases m.conform v with
  | invalid => simp
  | valid made =>
    unfold conformThrough
    cases hmade : m'.conform made <;> simp [conformThrough, hmade]

/-- Members that are always there are of one kind in what is made of the value and of the trimmed
one. -/
theorem Normalizes.kind_get? (hm : m.Normalizes extra) {v w v' w' : Value}
    (h : w.Trimmed extra v) (hv : m.conform v = .valid v') (hw : m.conform w = .valid w')
    {name : String} (hname : ∀ {v w}, m.conform v = .valid w → w.get? name ≠ none) :
    (w'.get? name).map Value.kind = (v'.get? name).map Value.kind := by
  obtain ⟨x, hx⟩ := Option.ne_none_iff_exists'.mp (hname hw)
  obtain ⟨x', hx'⟩ := Option.ne_none_iff_exists'.mp (hname hv)
  obtain ⟨y, hy, hxy⟩ := (hm.trims hw).get? hx
  obtain ⟨z, hz, hyz⟩ := h.get? hy
  obtain ⟨z', hz', hxz⟩ := (hm.trims hv).get? hx'
  cases hz.symm.trans hz'
  rw [hx, hx', Option.map_some, Option.map_some, hxy.kind_eq, hyz.kind_eq, hxz.kind_eq]

/-- A second stage that only looks at the kinds of members that are always there. -/
theorem Normalizes.agreeing (hm : m.Normalizes extra) (owner : Spec) {groups : List PlaceholderGroup}
    (hgroups : ∀ group ∈ groups, ∀ name ∈ group.fields, ∀ {v w}, m.conform v = .valid w →
      w.get? name ≠ none) : (allOf [m, consistency owner groups]).Normalizes extra where
  trims h := by
    obtain ⟨made, hmade, hagree⟩ := allOf_pair_eq_valid.mp h
    cases Spec.conformConsistency_eq_valid hagree
    exact hm.trims hmade
  takes {v w} h hw := by
    obtain ⟨w', hw', hagree⟩ := (allOf_pair_isValid m _ w).mp hw
    have htakes := hm.takes h (by rw [hw']; rfl)
    cases hv' : m.conform v with
    | invalid =>
      rw [hv'] at htakes
      cases htakes
    | valid v' =>
      refine (allOf_pair_isValid m _ v).mpr ⟨v', hv', ?_⟩
      obtain ⟨hobject, hcontent⟩ := (consistency_isValid owner groups w').mp hagree
      refine (consistency_isValid owner groups v').mpr ⟨?_, fun group hgroup => ?_⟩
      · rw [(hm.trims hv').kind_eq, ← h.kind_eq, ← (hm.trims hw').kind_eq]
        exact hobject
      · have hkind : ∀ name ∈ group.fields,
            (w'.get? name).map Value.kind = (v'.get? name).map Value.kind := fun name hname =>
          hm.kind_get? h hv' hw' (hgroups group hgroup name hname)
        have hsame := (Spec.dissenters_eq_nil group w').mp (hcontent group hgroup)
        refine (Spec.dissenters_eq_nil group v').mpr fun n hn k hk => ?_
        exact (Spec.sameKind_congr (hkind n hn) (hkind k hk)).mp (hsame n hn k hk)
  leaves h := by
    obtain ⟨made, hmade, hagree⟩ := allOf_pair_eq_valid.mp h
    cases Spec.conformConsistency_eq_valid hagree
    exact allOf_pair_eq_valid.mpr ⟨_, hm.leaves hmade, hagree⟩

end Meaning

end Conform

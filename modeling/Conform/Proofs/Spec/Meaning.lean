import Conform.Session.Check
/-!
What specs mean, apart from sessions. Once it is settled what lazy references mean, a spec means two
functions of values, and each form of spec is a way to make these functions from those of its parts.
The main statement is the law that ties the two together: no problems exactly for valid values.
-/

namespace Conform

structure Meaning where
  conform : Value → Conformed
  explain : Path → Value → List Problem

namespace Meaning

/-- A spec that looks at a value as a whole and hands it on as it is. -/
def ofCheck (owner : Spec) (passes : Value → Bool) (reason : Value → String) : Meaning :=
  ⟨fun v => .ofBool (passes v) v, fun path v => Spec.rejection (passes v) owner path v (reason v)⟩

def anything : Meaning := ⟨.valid, fun _ _ => []⟩

def unresolved (owner : Spec) (e : SpecError) : Meaning :=
  ⟨fun _ => .invalid, fun path v => [⟨path, v, owner, "unresolved reference: " ++ e.message⟩]⟩

def coercionFailure (coercer : Coercer) (failureReason : Option (Value → String → String))
    (v : Value) (error : String) : String :=
  match failureReason with
  | some reason => reason v error
  | none => Spec.coercionReason coercer v error

def coerce (owner : Spec) (coercer : Coercer) (failureReason : Option (Value → String → String))
    (m : Meaning) : Meaning where
  conform v :=
    match coercer.apply v with
    | .ok w => m.conform w
    | .error _ => .invalid
  explain path v :=
    match coercer.apply v with
    | .ok w => m.explain path w
    | .error error => [⟨path, v, owner, coercionFailure coercer failureReason v error⟩]

/-! ## Alternatives and stages -/

def conformFirst : List Meaning → Value → Conformed
  | [], _ => .invalid
  | m :: ms, v =>
    match m.conform v with
    | .valid w => .valid w
    | .invalid => conformFirst ms v

def oneOf (ms : List Meaning) : Meaning where
  conform := conformFirst ms
  explain path v :=
    if (conformFirst ms v).isValid then [] else ms.flatMap fun m => m.explain path v

def conformThrough : List Meaning → Value → Conformed
  | [], v => .valid v
  | m :: ms, v =>
    match m.conform v with
    | .valid w => conformThrough ms w
    | .invalid => .invalid

def explainThrough : List Meaning → Path → Value → List Problem
  | [], _, _ => []
  | m :: ms, path, v =>
    match m.conform v with
    | .valid w => explainThrough ms path w
    | .invalid => m.explain path v

def allOf (ms : List Meaning) : Meaning := ⟨conformThrough ms, explainThrough ms⟩

/-! ## Containers -/

def conformItems (m : Meaning) : List Value → Option (List Value)
  | [] => some []
  | v :: vs =>
    match m.conform v with
    | .invalid => none
    | .valid w => (conformItems m vs).map (w :: ·)

def explainItems (m : Meaning) (path : Path) : Nat → List Value → List Problem
  | _, [] => []
  | n, v :: vs => m.explain (path.child (.index n)) v ++ explainItems m path (n + 1) vs

/-- The container around the conformed items, if there are any. -/
def contain (container : List Value → Value) : Option (List Value) → Conformed
  | some items => .valid (container items)
  | none => .invalid

def collOf (owner : Spec) (m : Meaning) : Meaning where
  conform
    | .list items => contain .list (m.conformItems items)
    | .tuple items => contain .tuple (m.conformItems items)
    | _ => .invalid
  explain path v :=
    match v.items? with
    | some items => m.explainItems path 0 items
    | none => [⟨path, v, owner, "not iterable"⟩]

def conformKeys : List (String × Meaning) → Value → Option (List (String × Value))
  | [], _ => some []
  | (key, m) :: rest, v =>
    match v.get? key with
    | none => none
    | some present =>
      match m.conform present with
      | .invalid => none
      | .valid w => (conformKeys rest v).map ((key, w) :: ·)

def explainKey (owner : Spec) (path : Path) (v : Value) (key : String) (m : Meaning) :
    List Problem :=
  match v.get? key with
  | some present => m.explain (path.child (.key key)) present
  | none => [⟨path.child (.key key), .null, owner, Spec.missingKeyReason key⟩]

def explainKeys (owner : Spec) (keys : List (String × Meaning)) (path : Path) (v : Value) :
    List Problem :=
  keys.flatMap fun (key, m) => explainKey owner path v key m

def explainExtra (owner : Spec) (extra : ExtraFields) (path : Path)
    (undeclared : List (String × Value)) : List Problem :=
  (if extra = .forbid then undeclared else []).map fun (key, w) =>
    ⟨path.child (.key key), w, owner, Spec.unexpectedKeyReason key⟩

/-- The declared pairs before the others, if both are as they should be. -/
def assemble (declared others : Option (List (String × Value))) : Conformed :=
  match declared, others with
  | some declared, some others => .valid (.object (declared ++ others))
  | _, _ => .invalid

/-- `undeclared` picks the pairs that no key declares. -/
def dict (owner : Spec) (undeclared : List (String × Value) → List (String × Value))
    (extra : ExtraFields) (keys : List (String × Meaning)) : Meaning where
  conform
    | .object pairs =>
      assemble (conformKeys keys (.object pairs)) (Spec.conformExtra extra (undeclared pairs))
    | _ => .invalid
  explain path
    | .object pairs =>
      explainKeys owner keys path (.object pairs)
        ++ explainExtra owner extra path (undeclared pairs)
    | v => [⟨path, v, owner, Spec.notDictionaryReason v⟩]

def consistency (owner : Spec) (groups : List PlaceholderGroup) : Meaning where
  conform := Spec.conformConsistency groups
  explain path
    | .object pairs => groups.flatMap (Spec.explainGroup path (.object pairs))
    | v => [⟨path, v, owner, Spec.notDictionaryReason v⟩]

end Meaning

/-! ## Specs -/

namespace Spec

section
variable (refs : Instance → Reference → Meaning)

mutual

/-- The meaning of a spec, where `refs` answers for its lazy references. -/
def meaning : Spec → Meaning
  | anything _ => .anything
  | never id => .ofCheck (never id) (fun _ => false) (fun _ => neverReason)
  | predicate id p => .ofCheck (predicate id p) p.passes p.reason
  | equalTo id expected =>
    .ofCheck (equalTo id expected) (·.looselyEqual expected) (equalToReason expected)
  | isInstance id kind =>
    .ofCheck (isInstance id kind) (fun v => v.kind = kind) (isInstanceReason kind)
  | isIn id members =>
    .ofCheck (isIn id members) (isMember members) fun _ => "not " ++ isInDescription members
  | decorated _ spec _ => meaning spec
  | coerce id coercer spec failureReason =>
    .coerce (coerce id coercer spec failureReason) coercer failureReason (meaning spec)
  | oneOf _ alternatives => .oneOf (meanings alternatives)
  | allOf _ stages => .allOf (meanings stages)
  | collOf id item => .collOf (collOf id item) (meaning item)
  | dict id keys extra => .dict (dict id keys extra) (undeclared keys) extra (keyMeanings keys)
  | deferred id reference => refs id reference
  | unbound _ _ => .anything
  | consistency id groups => .consistency (consistency id groups) groups

def meanings : List Spec → List Meaning
  | [] => []
  | s :: ss => meaning s :: meanings ss

def keyMeanings : List (String × Spec) → List (String × Meaning)
  | [] => []
  | (key, s) :: rest => (key, meaning s) :: keyMeanings rest

end

end

end Spec

/-! ## No problems exactly for valid values -/

namespace Conformed

@[simp] theorem isValid_valid (v : Value) : (valid v).isValid = true := rfl

@[simp] theorem isValid_invalid : invalid.isValid = false := rfl

@[simp] theorem isValid_ofBool (passes : Bool) (v : Value) :
    (ofBool passes v).isValid = passes := by
  cases passes <;> rfl

end Conformed

namespace Spec

@[simp] theorem rejection_eq_nil (passes : Bool) (spec : Spec) (path : Path) (v : Value)
    (reason : String) : rejection passes spec path v reason = [] ↔ passes = true := by
  cases passes <;> simp [rejection]

theorem conformGroup_isSome (v : Value) (group : PlaceholderGroup)
    (output : List (String × Value)) :
    (conformGroup v group output).isSome = true ↔ dissenters group v = [] := by
  simp [conformGroup]

theorem explainGroup_eq_nil (path : Path) (v : Value) (group : PlaceholderGroup) :
    explainGroup path v group = [] ↔ dissenters group v = [] := by
  unfold explainGroup
  split
  · next h => simp [dissenters, h]
  · simp

/-- Groups are written one after the other, but each is judged by the value as it came. -/
theorem conformGroups_isSome (v : Value) (groups : List PlaceholderGroup)
    (output : List (String × Value)) :
    (conformGroups v groups output).isSome = true ↔
      ∀ group ∈ groups, dissenters group v = [] := by
  induction groups generalizing output with
  | nil => simp [conformGroups]
  | cons group groups ih =>
    have hgroup := conformGroup_isSome v group output
    cases h : conformGroup v group output with
    | none => simp_all [conformGroups]
    | some written => simp_all [conformGroups]

theorem conformConsistency_isValid (groups : List PlaceholderGroup)
    (pairs : List (String × Value)) :
    (conformConsistency groups (.object pairs)).isValid = true ↔
      ∀ group ∈ groups, dissenters group (.object pairs) = [] := by
  rw [← conformGroups_isSome (.object pairs) groups pairs]
  cases h : conformGroups (.object pairs) groups pairs with
  | none => simp [conformConsistency, h]
  | some output => simp [conformConsistency, h]

end Spec

namespace Meaning

/-- No problems exactly for valid values. -/
def Lawful (m : Meaning) : Prop :=
  ∀ path v, m.explain path v = [] ↔ (m.conform v).isValid = true

theorem lawful_ofCheck (owner : Spec) (passes : Value → Bool) (reason : Value → String) :
    (ofCheck owner passes reason).Lawful := by
  intro path v
  simp [ofCheck]

theorem lawful_anything : anything.Lawful := by
  intro path v
  simp [anything]

theorem lawful_unresolved (owner : Spec) (e : SpecError) : (unresolved owner e).Lawful := by
  intro path v
  simp [unresolved]

theorem Lawful.coerce {m : Meaning} (hm : m.Lawful) (owner : Spec) (coercer : Coercer)
    (failureReason : Option (Value → String → String)) :
    (coerce owner coercer failureReason m).Lawful := by
  intro path v
  cases h : coercer.apply v with
  | ok w => simpa [Meaning.coerce, h] using hm path w
  | error error => simp [Meaning.coerce, h]

/-! ### Alternatives and stages -/

theorem conformFirst_isValid (ms : List Meaning) (v : Value) :
    (conformFirst ms v).isValid = true ↔ ∃ m ∈ ms, (m.conform v).isValid = true := by
  induction ms with
  | nil => simp [conformFirst]
  | cons m ms ih =>
    cases h : m.conform v with
    | valid w => simp [conformFirst, h]
    | invalid => simp [conformFirst, h, ih]

/-- Without alternatives nothing is valid, yet there would be no problems either. -/
theorem lawful_oneOf {ms : List Meaning} (hne : ms ≠ []) (hms : ∀ m ∈ ms, m.Lawful) :
    (oneOf ms).Lawful := by
  intro path v
  by_cases hv : (conformFirst ms v).isValid = true
  · simp [oneOf, hv]
  · have hfails : ∀ m ∈ ms, m.explain path v ≠ [] := by
      intro m hm hnil
      exact hv ((conformFirst_isValid ms v).mpr ⟨m, hm, (hms m hm path v).mp hnil⟩)
    obtain ⟨m, rest, rfl⟩ := List.exists_cons_of_ne_nil hne
    simp [oneOf, hv, hfails m (by simp)]

theorem explainThrough_eq_nil {ms : List Meaning} (hms : ∀ m ∈ ms, m.Lawful) (path : Path)
    (v : Value) : explainThrough ms path v = [] ↔ (conformThrough ms v).isValid = true := by
  induction ms generalizing v with
  | nil => simp [explainThrough, conformThrough]
  | cons m ms ih =>
    have hm := hms m (by simp)
    cases h : m.conform v with
    | valid w =>
      simpa [explainThrough, conformThrough, h] using ih (fun n hn => hms n (by simp [hn])) w
    | invalid => simpa [explainThrough, conformThrough, h] using hm path v

theorem lawful_allOf {ms : List Meaning} (hms : ∀ m ∈ ms, m.Lawful) : (allOf ms).Lawful :=
  fun path v => explainThrough_eq_nil hms path v

/-! ### Containers -/

theorem Lawful.explainItems_eq_nil {m : Meaning} (hm : m.Lawful) (path : Path) (n : Nat)
    (vs : List Value) : m.explainItems path n vs = [] ↔ (m.conformItems vs).isSome = true := by
  induction vs generalizing n with
  | nil => simp [explainItems, conformItems]
  | cons v vs ih =>
    have hv := hm (path.child (.index n)) v
    cases h : m.conform v with
    | valid w => simp_all [explainItems, conformItems]
    | invalid => simp_all [explainItems, conformItems]

theorem isValid_contain (container : List Value → Value) (items : Option (List Value)) :
    (contain container items).isValid = items.isSome := by
  cases items <;> rfl

theorem Lawful.collOf {m : Meaning} (hm : m.Lawful) (owner : Spec) :
    (collOf owner m).Lawful := by
  intro path v
  cases v with
  | list items => simp [Meaning.collOf, Value.items?, isValid_contain, hm.explainItems_eq_nil]
  | tuple items => simp [Meaning.collOf, Value.items?, isValid_contain, hm.explainItems_eq_nil]
  | null | bool | int | float | string | bytes | object =>
    simp [Meaning.collOf, Value.items?]

theorem explainKeys_eq_nil {keys : List (String × Meaning)}
    (hkeys : ∀ pair ∈ keys, pair.2.Lawful) (owner : Spec) (path : Path) (v : Value) :
    explainKeys owner keys path v = [] ↔ (conformKeys keys v).isSome = true := by
  induction keys with
  | nil => simp [explainKeys, conformKeys]
  | cons pair keys ih =>
    obtain ⟨key, m⟩ := pair
    have hrest := ih fun pair hpair => hkeys pair (by simp [hpair])
    have hm : m.Lawful := hkeys (key, m) (by simp)
    simp only [explainKeys, List.flatMap_cons, List.append_eq_nil_iff] at hrest ⊢
    rw [hrest]
    cases hget : v.get? key with
    | none => simp [explainKey, conformKeys, hget]
    | some present =>
      have hpresent := hm (path.child (.key key)) present
      cases h : m.conform present with
      | valid w => simp_all [explainKey, conformKeys]
      | invalid => simp_all [explainKey, conformKeys]

theorem explainExtra_eq_nil (owner : Spec) (extra : ExtraFields) (path : Path)
    (undeclared : List (String × Value)) :
    explainExtra owner extra path undeclared = [] ↔
      (Spec.conformExtra extra undeclared).isSome = true := by
  cases extra with
  | ignore => simp [explainExtra, Spec.conformExtra]
  | allow => simp [explainExtra, Spec.conformExtra]
  | forbid => cases undeclared <;> simp [explainExtra, Spec.conformExtra]

theorem isValid_assemble (declared others : Option (List (String × Value))) :
    (assemble declared others).isValid = true ↔
      declared.isSome = true ∧ others.isSome = true := by
  cases declared <;> cases others <;> simp [assemble]

theorem lawful_dict {keys : List (String × Meaning)} (hkeys : ∀ pair ∈ keys, pair.2.Lawful)
    (owner : Spec) (undeclared : List (String × Value) → List (String × Value))
    (extra : ExtraFields) : (dict owner undeclared extra keys).Lawful := by
  intro path v
  cases v with
  | object pairs =>
    simp [dict, isValid_assemble, explainKeys_eq_nil hkeys, explainExtra_eq_nil]
  | null | bool | int | float | string | bytes | list | tuple => simp [dict]

theorem lawful_consistency (owner : Spec) (groups : List PlaceholderGroup) :
    (consistency owner groups).Lawful := by
  intro path v
  cases v with
  | object pairs =>
    simp [consistency, Spec.conformConsistency_isValid, Spec.explainGroup_eq_nil]
  | null | bool | int | float | string | bytes | list | tuple =>
    simp [consistency, Spec.conformConsistency]

end Meaning

/-! ## Specs whose unions have alternatives -/

namespace Spec

mutual

/-- Every union in the tree has an alternative. -/
def HasAlternatives : Spec → Prop
  | decorated _ spec _ => HasAlternatives spec
  | coerce _ _ spec _ => HasAlternatives spec
  | oneOf _ alternatives => alternatives ≠ [] ∧ AllHaveAlternatives alternatives
  | allOf _ stages => AllHaveAlternatives stages
  | collOf _ item => HasAlternatives item
  | dict _ keys _ => KeysHaveAlternatives keys
  | anything _ | never _ | predicate _ _ | equalTo _ _ | isInstance _ _ | isIn _ _ | deferred _ _
  | unbound _ _ | consistency _ _ => True

def AllHaveAlternatives : List Spec → Prop
  | [] => True
  | s :: ss => HasAlternatives s ∧ AllHaveAlternatives ss

def KeysHaveAlternatives : List (String × Spec) → Prop
  | [] => True
  | (_, s) :: rest => HasAlternatives s ∧ KeysHaveAlternatives rest

end

theorem allHaveAlternatives_iff {ss : List Spec} :
    AllHaveAlternatives ss ↔ ∀ s ∈ ss, s.HasAlternatives := by
  induction ss with
  | nil => simp [AllHaveAlternatives]
  | cons s ss ih => rw [AllHaveAlternatives, List.forall_mem_cons, ih]

theorem keysHaveAlternatives_iff {keys : List (String × Spec)} :
    KeysHaveAlternatives keys ↔ ∀ key ∈ keys, key.2.HasAlternatives := by
  induction keys with
  | nil => simp [KeysHaveAlternatives]
  | cons key keys ih => rw [KeysHaveAlternatives, List.forall_mem_cons, ih]

theorem meanings_eq_nil (refs : Instance → Reference → Meaning) (ss : List Spec) :
    meanings refs ss = [] ↔ ss = [] := by
  cases ss <;> simp [meanings]

mutual

theorem lawful_meaning {refs : Instance → Reference → Meaning}
    (hrefs : ∀ id reference, (refs id reference).Lawful) :
    ∀ s : Spec, s.HasAlternatives → (meaning refs s).Lawful
  | anything _, _ => Meaning.lawful_anything
  | never _, _ => Meaning.lawful_ofCheck _ _ _
  | predicate _ _, _ => Meaning.lawful_ofCheck _ _ _
  | equalTo _ _, _ => Meaning.lawful_ofCheck _ _ _
  | isInstance _ _, _ => Meaning.lawful_ofCheck _ _ _
  | isIn _ _, _ => Meaning.lawful_ofCheck _ _ _
  | decorated _ spec _, h => by
    simp only [HasAlternatives] at h
    exact lawful_meaning hrefs spec h
  | coerce _ _ spec _, h => by
    simp only [HasAlternatives] at h
    exact (lawful_meaning hrefs spec h).coerce _ _ _
  | oneOf _ alternatives, h => by
    simp only [HasAlternatives] at h
    exact Meaning.lawful_oneOf (mt (meanings_eq_nil refs alternatives).mp h.1)
      (lawful_meanings hrefs alternatives h.2)
  | allOf _ stages, h => by
    simp only [HasAlternatives] at h
    exact Meaning.lawful_allOf (lawful_meanings hrefs stages h)
  | collOf _ item, h => by
    simp only [HasAlternatives] at h
    exact (lawful_meaning hrefs item h).collOf _
  | dict _ keys _, h => by
    simp only [HasAlternatives] at h
    exact Meaning.lawful_dict (lawful_keyMeanings hrefs keys h) _ _ _
  | deferred id reference, _ => hrefs id reference
  | unbound _ _, _ => Meaning.lawful_anything
  | consistency _ _, _ => Meaning.lawful_consistency _ _

theorem lawful_meanings {refs : Instance → Reference → Meaning}
    (hrefs : ∀ id reference, (refs id reference).Lawful) :
    ∀ ss : List Spec, AllHaveAlternatives ss → ∀ m ∈ meanings refs ss, m.Lawful
  | [], _ => by simp [meanings]
  | s :: ss, h => by
    simp only [AllHaveAlternatives] at h
    simp only [meanings, List.forall_mem_cons]
    exact ⟨lawful_meaning hrefs s h.1, lawful_meanings hrefs ss h.2⟩

theorem lawful_keyMeanings {refs : Instance → Reference → Meaning}
    (hrefs : ∀ id reference, (refs id reference).Lawful) :
    ∀ keys : List (String × Spec), KeysHaveAlternatives keys →
      ∀ pair ∈ keyMeanings refs keys, pair.2.Lawful
  | [], _ => by simp [keyMeanings]
  | (_, s) :: rest, h => by
    simp only [KeysHaveAlternatives] at h
    simp only [keyMeanings, List.forall_mem_cons]
    exact ⟨lawful_meaning hrefs s h.1, lawful_keyMeanings hrefs rest h.2⟩

end

end Spec

end Conform

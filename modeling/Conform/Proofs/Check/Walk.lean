import Conform.Proofs.Check.Ensures
import Conform.Proofs.Session.Lookup
/-!
Walks of derived specs, compared. Two walks of one spec that differ only in what they do at lazy
references take the same steps in between, so what relates the one to the other step by step relates
the walks as a whole. Values get shallower on the way into a record, which bounds how deep references
can nest.
-/

namespace Conform

/-! ## Depths -/

namespace Value

theorem depth_le_of_mem {v : Value} {vs : List Value} (h : v ∈ vs) :
    v.depth ≤ depthOfItems vs := by
  induction vs with
  | nil => cases h
  | cons w vs ih =>
    unfold depthOfItems
    rcases List.mem_cons.mp h with rfl | h
    · exact Nat.le_max_left _ _
    · exact Nat.le_trans (ih h) (Nat.le_max_right _ _)

theorem depth_lt_of_mem_items {v w : Value} {items : List Value} (hitems : v.items? = some items)
    (hw : w ∈ items) : w.depth < v.depth := by
  cases v with
  | list vs | tuple vs =>
    cases hitems
    exact Nat.lt_succ_of_le (depth_le_of_mem hw)
  | null | bool | int | float | string | bytes | object => cases hitems

theorem depth_le_of_lookup {v : Value} {key : String} {pairs : List (String × Value)}
    (h : pairs.lookup key = some v) : v.depth ≤ depthOfPairs pairs := by
  induction pairs with
  | nil => cases h
  | cons pair pairs ih =>
    obtain ⟨k, w⟩ := pair
    unfold depthOfPairs
    rw [List.lookup_cons] at h
    split at h
    · cases h
      exact Nat.le_max_left _ _
    · exact Nat.le_trans (ih h) (Nat.le_max_right _ _)

theorem depth_lt_of_get? {v w : Value} {key : String} (h : v.get? key = some w) :
    w.depth < v.depth := by
  cases v with
  | object pairs => exact Nat.lt_succ_of_le (depth_le_of_lookup h)
  | null | bool | int | float | string | bytes | list | tuple => cases h

/-- The first value is a proper part of the second. -/
inductive Within : Value → Value → Prop
  | item {v w : Value} {items : List Value} : v.items? = some items → w ∈ items → Within w v
  | member {v w : Value} {key : String} : v.get? key = some w → Within w v
  | trans {u v w : Value} : Within w v → Within v u → Within w u

theorem Within.depth_lt {v w : Value} (h : w.Within v) : w.depth < v.depth := by
  induction h with
  | item hitems hw => exact depth_lt_of_mem_items hitems hw
  | member hget => exact depth_lt_of_get? hget
  | trans _ _ hwv hvu => exact Nat.lt_trans hwv hvu

end Value

/-! ## Walks in step -/

namespace Check

/-- A relation of checks that passes from steps to the checks they make up. -/
structure Compositional (P : {α : Type} → Check α → Check α → Prop) : Prop where
  pure {α : Type} (a : α) : P (pure a) (pure a)
  bind {α β : Type} {x y : Check α} {f g : α → Check β} :
    P x y → (∀ a, P (f a) (g a)) → P (x >>= f) (y >>= g)

end Check

open Check (Compositional)

namespace Spec

variable {P : {α : Type} → Check α → Check α → Prop} {d d' : Delegate} {v : Value}

/-- Both ways to walk a spec are related, whichever delegate answers for its references. -/
structure InStep (P : {α : Type} → Check α → Check α → Prop) (d d' : Delegate) (s : Spec)
    (v : Value) : Prop where
  conform : P (conformWith d s v) (conformWith d' s v)
  explain : ∀ path, P (explainWith d s path v) (explainWith d' s path v)

theorem inStep_isInstance (hP : Compositional P) (i : Instance) (k : ValueKind) (v : Value) :
    InStep P d d' (isInstance i k) v := by
  constructor
  · unfold conformWith
    exact hP.pure _
  · intro path
    unfold explainWith
    exact hP.pure _

theorem inStep_unbound (hP : Compositional P) (i : Instance) (p : String) (v : Value) :
    InStep P d d' (unbound i p) v := by
  constructor
  · unfold conformWith
    exact hP.pure _
  · intro path
    unfold explainWith
    exact hP.pure _

theorem inStep_consistency (hP : Compositional P) (i : Instance) (groups : List PlaceholderGroup)
    (v : Value) : InStep P d d' (consistency i groups) v := by
  constructor
  · unfold conformWith
    exact hP.pure _
  · intro path
    unfold explainWith
    cases v <;> exact hP.pure _

theorem InStep.decorated {s : Spec} (h : InStep P d d' s v) (i : Instance) (label : Option String) :
    InStep P d d' (decorated i s label) v := by
  constructor
  · simpa using h.conform
  · intro path
    simpa using h.explain path

/-! ### Alternatives and stages -/

theorem conformFirst_inStep (hP : Compositional P) {ss : List Spec}
    (h : ∀ s ∈ ss, InStep P d d' s v) : P (conformFirst d ss v) (conformFirst d' ss v) := by
  induction ss with
  | nil =>
    unfold conformFirst
    exact hP.pure _
  | cons s ss ih =>
    unfold conformFirst
    refine hP.bind (h s List.mem_cons_self).conform fun c => ?_
    cases c with
    | valid w => exact hP.pure _
    | invalid => exact ih fun s hs => h s (List.mem_cons_of_mem _ hs)

theorem explainEach_inStep (hP : Compositional P) {ss : List Spec}
    (h : ∀ s ∈ ss, InStep P d d' s v) (path : Path) :
    P (explainEach d ss path v) (explainEach d' ss path v) := by
  induction ss with
  | nil =>
    unfold explainEach
    exact hP.pure _
  | cons s ss ih =>
    unfold explainEach
    refine hP.bind ((h s List.mem_cons_self).explain path) fun problems => ?_
    refine hP.bind (ih fun s hs => h s (List.mem_cons_of_mem _ hs)) fun others => ?_
    exact hP.pure _

theorem inStep_oneOf (hP : Compositional P) {ss : List Spec} (h : ∀ s ∈ ss, InStep P d d' s v)
    (i : Instance) : InStep P d d' (oneOf i ss) v := by
  constructor
  · unfold conformWith
    exact conformFirst_inStep hP h
  · intro path
    unfold explainWith
    refine hP.bind (conformFirst_inStep hP h) fun c => ?_
    cases c with
    | valid w => exact hP.pure _
    | invalid => exact explainEach_inStep hP h path

/-- Two stages, of which the second takes whatever the first makes of the value. -/
theorem inStep_allOf_pair (hP : Compositional P) {s t : Spec} (hs : InStep P d d' s v)
    (ht : ∀ w, InStep P d d' t w) (i : Instance) : InStep P d d' (allOf i [s, t]) v := by
  constructor
  · unfold conformWith conformThrough
    refine hP.bind hs.conform fun c => ?_
    cases c with
    | invalid => exact hP.pure _
    | valid w =>
      unfold conformThrough
      refine hP.bind (ht w).conform fun c => ?_
      cases c with
      | invalid => exact hP.pure _
      | valid u =>
        unfold conformThrough
        exact hP.pure _
  · intro path
    unfold explainWith explainThrough
    refine hP.bind hs.conform fun c => ?_
    cases c with
    | invalid => exact hs.explain path
    | valid w =>
      unfold explainThrough
      refine hP.bind (ht w).conform fun c => ?_
      cases c with
      | invalid => exact (ht w).explain path
      | valid u =>
        unfold explainThrough
        exact hP.pure _

/-! ### Containers -/

theorem conformItems_inStep (hP : Compositional P) {item : Spec} {vs : List Value}
    (h : ∀ w ∈ vs, InStep P d d' item w) :
    P (conformItems (conformWith d item) vs) (conformItems (conformWith d' item) vs) := by
  induction vs with
  | nil => exact hP.pure _
  | cons w vs ih =>
    unfold conformItems
    refine hP.bind (h w List.mem_cons_self).conform fun c => ?_
    cases c with
    | invalid => exact hP.pure _
    | valid u =>
      refine hP.bind (ih fun w hw => h w (List.mem_cons_of_mem _ hw)) fun items => ?_
      exact hP.pure _

theorem explainItems_inStep (hP : Compositional P) {item : Spec} {vs : List Value}
    (h : ∀ w ∈ vs, InStep P d d' item w) (path : Path) (n : Nat) :
    P (explainItems (explainWith d item) path n vs) (explainItems (explainWith d' item) path n vs) := by
  induction vs generalizing n with
  | nil => exact hP.pure _
  | cons w vs ih =>
    unfold explainItems
    refine hP.bind ((h w List.mem_cons_self).explain _) fun problems => ?_
    refine hP.bind (ih (fun w hw => h w (List.mem_cons_of_mem _ hw)) (n + 1)) fun others => ?_
    exact hP.pure _

theorem inStep_collOf (hP : Compositional P) {item : Spec}
    (h : ∀ items, v.items? = some items → ∀ w ∈ items, InStep P d d' item w) (i : Instance) :
    InStep P d d' (collOf i item) v := by
  constructor
  · unfold conformWith
    cases v with
    | list vs | tuple vs =>
      refine hP.bind (conformItems_inStep hP (h vs rfl)) fun items => ?_
      cases items <;> exact hP.pure _
    | null | bool | int | float | string | bytes | object => exact hP.pure _
  · intro path
    unfold explainWith
    cases hitems : v.items? with
    | some items => exact explainItems_inStep hP (h items hitems) path 0
    | none => exact hP.pure _

theorem conformKeys_inStep (hP : Compositional P) {keys : List (String × Spec)}
    (h : ∀ key ∈ keys, ∀ w, v.get? key.1 = some w → InStep P d d' key.2 w) :
    P (conformKeys d keys v) (conformKeys d' keys v) := by
  induction keys with
  | nil =>
    unfold conformKeys
    exact hP.pure _
  | cons key keys ih =>
    obtain ⟨name, s⟩ := key
    unfold conformKeys
    cases hget : v.get? name with
    | none => exact hP.pure _
    | some present =>
      refine hP.bind (h (name, s) List.mem_cons_self present hget).conform fun c => ?_
      cases c with
      | invalid => exact hP.pure _
      | valid w =>
        refine hP.bind (ih fun key hkey => h key (List.mem_cons_of_mem _ hkey)) fun pairs => ?_
        exact hP.pure _

theorem explainKeys_inStep (hP : Compositional P) {keys : List (String × Spec)} (owner : Spec)
    (h : ∀ key ∈ keys, ∀ w, v.get? key.1 = some w → InStep P d d' key.2 w) (path : Path) :
    P (explainKeys d owner keys path v) (explainKeys d' owner keys path v) := by
  induction keys with
  | nil =>
    unfold explainKeys
    exact hP.pure _
  | cons key keys ih =>
    obtain ⟨name, s⟩ := key
    have hrest := ih fun key hkey => h key (List.mem_cons_of_mem _ hkey)
    unfold explainKeys
    cases hget : v.get? name with
    | none => exact hP.bind (hP.pure _) fun problems => hP.bind hrest fun others => hP.pure _
    | some present =>
      refine hP.bind ((h (name, s) List.mem_cons_self present hget).explain _) fun problems => ?_
      exact hP.bind hrest fun others => hP.pure _

theorem inStep_dict (hP : Compositional P) {keys : List (String × Spec)}
    (h : ∀ key ∈ keys, ∀ w, v.get? key.1 = some w → InStep P d d' key.2 w) (i : Instance)
    (extra : ExtraFields) : InStep P d d' (dict i keys extra) v := by
  constructor
  · unfold conformWith
    cases v with
    | object pairs =>
      refine hP.bind (conformKeys_inStep hP h) fun declared => ?_
      cases declared with
      | none => exact hP.pure _
      | some declared =>
        simp only
        split <;> exact hP.pure _
    | null | bool | int | float | string | bytes | list | tuple => exact hP.pure _
  · intro path
    unfold explainWith
    cases v with
    | object pairs =>
      exact hP.bind (explainKeys_inStep hP (dict i keys extra) h path) fun problems => hP.pure _
    | null | bool | int | float | string | bytes | list | tuple => exact hP.pure _

theorem inStep_record (hP : Compositional P) {config : DeriveConfig}
    {groups : List PlaceholderGroup} {keys : List (String × Spec)} {s : Spec}
    (hform : RecordForm config groups keys s)
    (h : ∀ key ∈ keys, ∀ w, v.get? key.1 = some w → InStep P d d' key.2 w) : InStep P d d' s v := by
  cases hform with
  | plain i j label _ => exact (inStep_dict hP h j config.extra).decorated i label
  | grouped i j k l label _ =>
    exact (inStep_allOf_pair hP (inStep_dict hP h k config.extra)
      (fun w => inStep_consistency hP l groups w) j).decorated i label

/-! ### Lazy references -/

/-- The walk of a lazy reference, however the delegate looks behind it. -/
theorem conformWith_looks {look : Build Spec} {reference : Reference}
    (hd : ∀ s, d.resolve reference s = some (look.run s)) (i : Instance) (v : Value) (s : Session) :
    conformWith d (deferred i reference) v s =
      match look.run s with
      | (.ok spec, t) => d.conform spec v t
      | (.error _, t) => some (.invalid, t) := by
  conv => lhs; unfold conformWith
  rw [Check.bind_apply, hd]
  change Option.bind (some (look.run s)) _ = _
  rcases look.run s with ⟨e | spec, t⟩ <;> rfl

theorem explainWith_looks {look : Build Spec} {reference : Reference}
    (hd : ∀ s, d.resolve reference s = some (look.run s)) (i : Instance) (path : Path) (v : Value)
    (s : Session) :
    explainWith d (deferred i reference) path v s =
      match look.run s with
      | (.ok spec, t) => d.explain spec path v t
      | (.error e, t) =>
        some ([⟨path, v, deferred i reference, "unresolved reference: " ++ e.message⟩], t) := by
  conv => lhs; unfold explainWith
  rw [Check.bind_apply, hd]
  change Option.bind (some (look.run s)) _ = _
  rcases look.run s with ⟨e | spec, t⟩ <;> rfl

theorem conformWith_resolve (hd : d.resolve = Session.resolveInCheck) (i : Instance)
    (reference : Reference) (v : Value) (s : Session) :
    conformWith d (deferred i reference) v s =
      match (Session.resolve reference).run s with
      | (.ok spec, t) => d.conform spec v t
      | (.error _, t) => some (.invalid, t) :=
  conformWith_looks (fun s => congrFun (congrFun hd reference) s) i v s

theorem explainWith_resolve (hd : d.resolve = Session.resolveInCheck) (i : Instance)
    (reference : Reference) (path : Path) (v : Value) (s : Session) :
    explainWith d (deferred i reference) path v s =
      match (Session.resolve reference).run s with
      | (.ok spec, t) => d.explain spec path v t
      | (.error e, t) =>
        some ([⟨path, v, deferred i reference, "unresolved reference: " ++ e.message⟩], t) :=
  explainWith_looks (fun s => congrFun (congrFun hd reference) s) i path v s

theorem conformWith_deferred (n : Nat) (i : Instance) (reference : Reference) (v : Value)
    (s : Session) :
    conformWith (.within (n + 1)) (deferred i reference) v s =
      match (Session.resolve reference).run s with
      | (.ok spec, t) => conformWith (.within n) spec v t
      | (.error _, t) => some (.invalid, t) :=
  conformWith_resolve rfl i reference v s

theorem explainWith_deferred (n : Nat) (i : Instance) (reference : Reference) (path : Path)
    (v : Value) (s : Session) :
    explainWith (.within (n + 1)) (deferred i reference) path v s =
      match (Session.resolve reference).run s with
      | (.ok spec, t) => explainWith (.within n) spec path v t
      | (.error e, t) =>
        some ([⟨path, v, deferred i reference, "unresolved reference: " ++ e.message⟩], t) :=
  explainWith_resolve rfl i reference path v s

end Spec

theorem Check.depth_lt_reach (v : Value) (s : Session) : v.depth < reach v s := by
  unfold reach coercionAllowance
  have h : (v.depth + 1) * 1 ≤ (v.depth + 1) * (s.nextCell + 1) :=
    Nat.mul_le_mul_left _ (Nat.le_add_left 1 _)
  omega

/-! ## Derived specs -/

namespace Kind

section
variable (id : Nat)

mutual

/-- The targets that the spec of a kind refers to, or has built in. -/
def targets : Kind → List Target
  | leaf _ | nothing | placeholder _ => []
  | record name args => [.shape id name args]
  | forward name args => [.forward id name args]
  | list item => targets item
  | union ks => targetsOfAll ks

def targetsOfAll : List Kind → List Target
  | [] => []
  | k :: ks => targets k ++ targetsOfAll ks

end

end

end Kind

open Spec (InStep)

section
variable {P : {α : Type} → Check α → Check α → Prop} {d d' : Delegate} {id : Nat} {r : Registry}
  {Q F : Target → Prop} {cells : List Target} {n : Nat}

/-- Walks are in step at the lazy references that the table knows, where the values that they are met
at are in `V`. `F` tells which of the targets matter. -/
def LazyInStepAmong (P : {α : Type} → Check α → Check α → Prop) (d d' : Delegate) (id : Nat)
    (F : Target → Prop) (cells : List Target) (V : Value → Prop) : Prop :=
  ∀ i reference w, cells[reference.cell]? = some reference.target → reference.target.IsOf id →
    F reference.target → V w → InStep P d d' (.deferred i reference) w

/-- If a shape matters, so do the targets in its fields. -/
def Inwards (id : Nat) (r : Registry) (F : Target → Prop) : Prop :=
  ∀ {a : Applied} {fields : List Field}, F (.shape id a.1 a.2) → r.fieldsOf a = .ok fields →
    ∀ f ∈ fields, ∀ target ∈ f.kind.targets id, F target

section
variable {V : Value → Prop}

mutual

/-- Walks are in step if they are at the lazy references that the table knows. -/
theorem Stands.inStepAmong (hP : Compositional P) (hin : Inwards id r F)
    (hV : ∀ {v w}, V v → w.Within v → V w) (hlazy : LazyInStepAmong P d d' id F cells V) :
    ∀ {k : Kind} {s : Spec}, Stands id r Q cells k s → (∀ target ∈ k.targets id, F target) →
      ∀ v : Value, V v → InStep P d d' s v
  | _, _, .leaf i k, _, v, _ => Spec.inStep_isInstance hP i k v
  | _, _, .nothing i, _, v, _ => Spec.inStep_isInstance hP i .null v
  | _, _, .record h, hF, v, hv =>
    h.inStepAmong hP hin hV hlazy (hF _ List.mem_cons_self) v fun _ hw => hV hv hw
  | _, _, .lazyRecord i _ hcell, hF, v, hv => hlazy i _ v hcell rfl (hF _ List.mem_cons_self) hv
  | _, _, .forward i _ hcell, hF, v, hv => hlazy i _ v hcell rfl (hF _ List.mem_cons_self) hv
  | _, _, .list i h, hF, _, hv =>
    Spec.inStep_collOf hP (fun _ hitems w hw =>
      h.inStepAmong hP hin hV hlazy hF w (hV hv (.item hitems hw))) i
  | _, _, .union i h, hF, v, hv => Spec.inStep_oneOf hP (h.inStepAmong hP hin hV hlazy hF v hv) i
  | _, _, .placeholder i p, _, v, _ => Spec.inStep_unbound hP i p v

theorem StandAll.inStepAmong (hP : Compositional P) (hin : Inwards id r F)
    (hV : ∀ {v w}, V v → w.Within v → V w) (hlazy : LazyInStepAmong P d d' id F cells V) :
    ∀ {ks : List Kind} {ss : List Spec}, StandAll id r Q cells ks ss →
      (∀ target ∈ Kind.targetsOfAll id ks, F target) →
      ∀ v : Value, V v → ∀ s ∈ ss, InStep P d d' s v
  | _, _, .nil, _, _, _ => fun _ hs => absurd hs List.not_mem_nil
  | _, _, .cons h hs, hF, v, hv =>
    List.forall_mem_cons.mpr ⟨
      h.inStepAmong hP hin hV hlazy (fun target hmem => hF target (List.mem_append_left _ hmem)) v hv,
      hs.inStepAmong hP hin hV hlazy
        (fun target hmem => hF target (List.mem_append_right _ hmem)) v hv⟩

theorem StandFields.inStepAmong (hP : Compositional P) (hin : Inwards id r F)
    (hV : ∀ {v w}, V v → w.Within v → V w) (hlazy : LazyInStepAmong P d d' id F cells V) :
    ∀ {fields : List Field} {keys : List (String × Spec)}, StandFields id r Q cells fields keys →
      (∀ f ∈ fields, ∀ target ∈ f.kind.targets id, F target) →
      ∀ v : Value, (∀ w, w.Within v → V w) →
        ∀ key ∈ keys, ∀ w, v.get? key.1 = some w → InStep P d d' key.2 w
  | _, _, .nil, _, _, _ => fun _ hkey => absurd hkey List.not_mem_nil
  | _, _, .cons h hs, hF, v, hv =>
    List.forall_mem_cons.mpr ⟨
      fun w hw => h.inStepAmong hP hin hV hlazy (hF _ List.mem_cons_self) w (hv w (.member hw)),
      hs.inStepAmong hP hin hV hlazy (fun f hf => hF f (List.mem_cons_of_mem _ hf)) v hv⟩

/-- References in a record are met at members of the value only. -/
theorem StandsRecord.inStepAmong (hP : Compositional P) (hin : Inwards id r F)
    (hV : ∀ {v w}, V v → w.Within v → V w) (hlazy : LazyInStepAmong P d d' id F cells V) :
    ∀ {a : Applied} {s : Spec}, StandsRecord id r Q cells a s → F (.shape id a.1 a.2) →
      ∀ v : Value, (∀ w, w.Within v → V w) → InStep P d d' s v
  | _, _, .mk _ hfields hkeys hform, hF, v, hv =>
    Spec.inStep_record hP hform (hkeys.inStepAmong hP hin hV hlazy (hin hF hfields) v hv)

end

/-- What answers for a target that matters is walked in step, if a name that matters means a shape
that does. -/
theorem Answers.inStepAmong (hP : Compositional P) (hin : Inwards id r F)
    (hV : ∀ {v w}, V v → w.Within v → V w) (hlazy : LazyInStepAmong P d d' id F cells V)
    {target : Target} {s : Spec} (h : Answers id r Q cells target s) (htarget : F target)
    (hforward : ∀ name args, target = .forward id name args → r.contains name = true →
      F (.shape id name args))
    (v : Value) (hv : ∀ w, w.Within v → V w) : InStep P d d' s v := by
  cases h with
  | shape h => exact h.inStepAmong hP hin hV hlazy htarget v hv
  | forward hname h => exact h.inStepAmong hP hin hV hlazy (hforward _ _ rfl hname) v hv
  | builtin i _ _ => exact Spec.inStep_isInstance hP i _ v

end

/-! ### Values of a depth -/

/-- Walks are in step at the lazy references that the table knows, for values less than `n` deep. -/
def LazyInStep (P : {α : Type} → Check α → Check α → Prop) (d d' : Delegate) (id : Nat)
    (F : Target → Prop) (cells : List Target) (n : Nat) : Prop :=
  LazyInStepAmong P d d' id F cells fun w => w.depth < n

theorem Stands.inStep (hP : Compositional P) (hin : Inwards id r F)
    (hlazy : LazyInStep P d d' id F cells n) {k : Kind} {s : Spec} (h : Stands id r Q cells k s)
    (hF : ∀ target ∈ k.targets id, F target) (v : Value) (hv : v.depth < n) : InStep P d d' s v :=
  h.inStepAmong hP hin (fun hv hw => Nat.lt_trans hw.depth_lt hv) hlazy hF v hv

/-- Inside a record values are shallower, so the record itself may be one deeper. -/
theorem StandFields.inStep (hP : Compositional P) (hin : Inwards id r F)
    (hlazy : LazyInStep P d d' id F cells n) {fields : List Field} {keys : List (String × Spec)}
    (h : StandFields id r Q cells fields keys)
    (hF : ∀ f ∈ fields, ∀ target ∈ f.kind.targets id, F target) (v : Value) (hv : v.depth ≤ n) :
    ∀ key ∈ keys, ∀ w, v.get? key.1 = some w → InStep P d d' key.2 w :=
  h.inStepAmong hP hin (fun hv hw => Nat.lt_trans hw.depth_lt hv) hlazy hF v
    fun _ hw => Nat.lt_of_lt_of_le hw.depth_lt hv

theorem Answers.inStep (hP : Compositional P) (hin : Inwards id r F)
    (hlazy : LazyInStep P d d' id F cells n) {target : Target} {s : Spec}
    (h : Answers id r Q cells target s) (htarget : F target)
    (hforward : ∀ name args, target = .forward id name args → r.contains name = true →
      F (.shape id name args))
    (v : Value) (hv : v.depth ≤ n) : InStep P d d' s v :=
  h.inStepAmong hP hin (fun hv hw => Nat.lt_trans hw.depth_lt hv) hlazy htarget hforward v
    fun _ hw => Nat.lt_of_lt_of_le hw.depth_lt hv

end

/-! ## Walks that come to an end -/

namespace Session

/-- Holds of the session by a table that begins with the cells known before. -/
def Over (I : List Target → Session → Prop) (base : List Target) (s : Session) : Prop :=
  ∃ cells, base <+: cells ∧ I cells s

/-- A look behind a reference that the table knows preserves what holds of the session. If it finds a
spec, that answers for the reference. -/
structure Preserved (id : Nat) (r : Registry) (Q : Target → Prop) (I : List Target → Session → Prop) :
    Prop where
  look : ∀ {cells : List Target} {s : Session} {reference : Reference}, I cells s →
    cells[reference.cell]? = some reference.target → reference.target.IsOf id →
      ∃ found t cells', (resolve reference).run s = (found, t) ∧ cells <+: cells' ∧ I cells' t ∧
        ∀ spec, found = .ok spec → Answers id r Q cells' reference.target spec

end Session

section
variable {id : Nat} {r : Registry} {Q : Target → Prop} {I : List Target → Session → Prop}
  {base : List Target}

/-- The walk has an answer, and what holds of the session is preserved. -/
def Preserves (I : List Target → Session → Prop) (base : List Target) {α : Type} (x _y : Check α) :
    Prop :=
  Check.Ensures False (Session.Over I base) x fun _ => True

theorem Preserves.exists_some {α : Type} {x y : Check α} (h : Preserves I base x y) {s : Session}
    (hs : I base s) : ∃ a t cells, x s = some (a, t) ∧ base <+: cells ∧ I cells t := by
  obtain ⟨a, t, hrun, _, cells, hcells, ht⟩ :=
    Check.Ensures.exists_some h ⟨base, List.prefix_refl _, hs⟩
  exact ⟨a, t, cells, hrun, hcells, ht⟩

theorem compositional_preserves (base : List Target) : Compositional (Preserves I base) where
  pure _ := Check.Ensures.pure trivial
  bind hx hf := Check.Ensures.bind hx fun a _ => hf a

/-- A check that goes on behind a reference preserves what the look does, if it does so behind what
answers. -/
theorem preserves_behind (hI : Session.Preserved id r Q I) {α : Type} {reference : Reference}
    {x y : Check α} {f : Spec → Check α} {missing : SpecError → α}
    (hcell : base[reference.cell]? = some reference.target) (htarget : reference.target.IsOf id)
    (hx : ∀ s, x s =
      match (Session.resolve reference).run s with
      | (.ok spec, t) => f spec t
      | (.error e, t) => some (missing e, t))
    (hf : ∀ {cells spec}, Answers id r Q cells reference.target spec →
      Preserves I cells (f spec) (f spec)) : Preserves I base x y := by
  rintro s ⟨cells, hcells, hs⟩
  obtain ⟨found, t, cells', hrun, hmore, ht, hanswers⟩ := hI.look hs (cell_mono hcells hcell) htarget
  rw [hx, hrun]
  cases found with
  | error e => exact ⟨trivial, cells', hcells.trans hmore, ht⟩
  | ok spec =>
    obtain ⟨a, u, cells'', hwalk, hmore', hu⟩ := (hf (hanswers spec rfl)).exists_some ht
    simp only [hwalk]
    exact ⟨trivial, cells'', hcells.trans (hmore.trans hmore'), hu⟩

theorem Session.Preserved.deferred (hI : Session.Preserved id r Q I) (n : Nat) (cells : List Target) :
    LazyInStep (Preserves I cells) (.within n) (.within n) id (fun _ => True) cells n := by
  induction n generalizing cells with
  | zero => exact fun _ _ _ _ _ _ hv => absurd hv (Nat.not_lt_zero _)
  | succ n ih =>
    intro i reference v hcell htarget _ hv
    -- Whatever is found, its walk has one level of references less, over values no deeper than that.
    have hwalk : ∀ {cells' : List Target} {spec : Spec}, Answers id r Q cells' reference.target spec →
        InStep (Preserves I cells') (.within n) (.within n) spec v :=
      fun h => h.inStep (compositional_preserves _) (fun _ _ _ _ _ _ => trivial) (ih _) trivial
        (fun _ _ _ _ => trivial) v (Nat.le_of_lt_succ hv)
    exact ⟨preserves_behind hI hcell htarget (Spec.conformWith_deferred n i reference v)
        fun h => (hwalk h).conform,
      fun path => preserves_behind hI hcell htarget (Spec.explainWith_deferred n i reference path v)
        fun h => (hwalk h).explain path⟩

/-- Every walk of a derived spec that may go through more references than the value is deep. -/
theorem Session.Preserved.stands (hI : Session.Preserved id r Q I) {cells : List Target} {k : Kind}
    {s : Spec} (h : Stands id r Q cells k s) {n : Nat} {v : Value} (hv : v.depth < n) :
    InStep (Preserves I cells) (.within n) (.within n) s v :=
  h.inStep (compositional_preserves cells) (fun _ _ _ _ _ _ => trivial) (hI.deferred n cells)
    (fun _ _ => trivial) v hv

end

/-! ### Sound sessions -/

namespace Session

/-- Sound by a table that begins with the cells known before. -/
def SoundOver (id : Nat) (r : Registry) (Q : Target → Prop) (base : List Target) (s : Session) :
    Prop :=
  ∃ cells, base <+: cells ∧ Sound id r Q cells s

end Session

/-- What is ensured over more cells is ensured over fewer. -/
theorem Check.Ensures.widen {id : Nat} {r : Registry} {Q : Target → Prop} {base base' : List Target}
    {stuck : Prop} {α : Type} {x : Check α} {R : α → Prop}
    (h : Check.Ensures stuck (Session.SoundOver id r Q base') x R) (hbase : base <+: base')
    {s : Session} {cells : List Target} (hcells : base' <+: cells)
    (hs : Session.Sound id r Q cells s) :
    match x s with
    | some (a, t) => R a ∧ Session.SoundOver id r Q base t
    | none => stuck := by
  have hx := h s ⟨cells, hcells, hs⟩
  cases hrun : x s with
  | none =>
    rw [hrun] at hx
    exact hx
  | some p =>
    rw [hrun] at hx
    obtain ⟨ha, more, hmore, hsound⟩ := hx
    exact ⟨ha, more, hbase.trans hmore, hsound⟩

section
variable {id : Nat} {r : Registry} {Q : Target → Prop}

/-- `Q` holds of the builtin names, and of what a look behind a reference adds to the shapes that it
holds of. -/
structure Closed (id : Nat) (r : Registry) (Q : Target → Prop) : Prop where
  builtin : ∀ name args, r.contains name = false → Q (.forward id name args)
  seek : ∀ target done, target.IsOf id → (∀ a ∈ done, Q (.shape id a.1 a.2)) →
    ∀ a ∈ (r.seek r.config.memoize target done).2, Q (.shape id a.1 a.2)

theorem closed_trivial (id : Nat) (r : Registry) : Closed id r fun _ => True :=
  ⟨fun _ _ _ => trivial, fun _ _ _ _ _ _ => trivial⟩

/-- A look behind a reference leaves the session sound, and finds what answers for the reference
unless there is nothing to be found. -/
theorem Closed.look (hQ : Closed id r Q) {reference : Reference} {s : Session}
    (hsound : Session.Sound id r Q cells s)
    (hcell : cells[reference.cell]? = some reference.target) (htarget : reference.target.IsOf id) :
    (∃ spec t cells', (Session.resolve reference).run s = (.ok spec, t) ∧ cells <+: cells' ∧
      Session.Sound id r Q cells' t ∧ Answers id r Q cells' reference.target spec) ∨
    ∃ e t cells', (Session.resolve reference).run s = (.error e, t) ∧ cells <+: cells' ∧
      Session.Sound id r Q cells' t ∧
      (r.seek r.config.memoize reference.target (s.kept id)).1 = .error e := by
  have h := Session.resolved hQ.builtin hsound (Session.tallies_kept s) hcell htarget
    (hQ.seek _ _ htarget fun _ ha => hsound.kept ha)
  generalize (Session.resolve reference).run s = o at h ⊢
  cases h with
  | known _ hanswers => exact .inl ⟨_, s, cells, rfl, List.prefix_refl _, hsound, hanswers⟩
  | found _ _ hcells hsound' _ _ _ hanswers => exact .inl ⟨_, _, _, rfl, hcells, hsound', hanswers⟩
  | missing _ he hcells hsound' => exact .inr ⟨_, _, _, rfl, hcells, hsound', he⟩

theorem Closed.preserved (hQ : Closed id r Q) :
    Session.Preserved id r Q (Session.Sound id r Q) := by
  refine ⟨fun {cells s reference} hs hcell htarget => ?_⟩
  rcases hQ.look hs hcell htarget with
    ⟨spec, t, cells', hrun, hcells, ht, hanswers⟩ | ⟨e, t, cells', hrun, hcells, ht, _⟩
  · exact ⟨_, t, cells', hrun, hcells, ht, fun _ h => Except.ok.inj h ▸ hanswers⟩
  · exact ⟨_, t, cells', hrun, hcells, ht, fun _ h => by cases h⟩

/-- The walk has an answer, and the session stays sound. -/
def Ends (id : Nat) (r : Registry) (Q : Target → Prop) (base : List Target) {α : Type}
    (x _y : Check α) : Prop :=
  Check.Ensures False (Session.SoundOver id r Q base) x fun _ => True

theorem compositional_ends (base : List Target) : Compositional (Ends id r Q base) :=
  compositional_preserves base

theorem deferred_ends (hQ : Closed id r Q) (n : Nat) (cells : List Target) :
    LazyInStep (Ends id r Q cells) (.within n) (.within n) id (fun _ => True) cells n :=
  hQ.preserved.deferred n cells

/-- Every walk of a derived spec that may go through more references than the value is deep. -/
theorem Stands.ends (hQ : Closed id r Q) {cells : List Target} {k : Kind} {s : Spec}
    (h : Stands id r Q cells k s) {n : Nat} {v : Value} (hv : v.depth < n) :
    InStep (Ends id r Q cells) (.within n) (.within n) s v :=
  hQ.preserved.stands h hv

end

end Conform

import Conform.Proofs.Check.Blame
import Conform.Proofs.Check.Path
import Conform.Proofs.Kind.Groups
import Conform.Proofs.Kind.Meaning
import Conform.Proofs.Value.Parts
/-!
Where problems are. The path of a problem leads, from the value that was explained, to the value that
the problem is about; only for a required key that is missing there is nothing at its end. A form of
spec that hands on parts of the value keeps this, a form that hands on what it made of them may not.
-/

namespace Conform

open Check (Ensures)

namespace Report

/-- The path leads to the reported value. -/
def Reaches (v : Value) (p : Report) : Prop := v.at? p.path.steps = some p.value

/-- A required key is missing, of an object that the path before that key leads to. -/
def Misses (v : Value) (p : Report) : Prop :=
  ∃ (outer : Path) (key : String) (pairs : List (String × Value)),
    p.path = outer.child (.key key) ∧ p.value = .null ∧ p.reason = Spec.missingKeyReason key ∧
      v.at? outer.steps = some (.object pairs) ∧ key ∉ pairs.map (·.1)

def Addresses (v : Value) (p : Report) : Prop := p.Reaches v ∨ p.Misses v

/-- What addresses a part addresses the whole, one step further out. -/
theorem Addresses.inside {v w : Value} {p : Report} (h : p.Addresses w) {step : PathStep}
    (hstep : v.step? step = some w) :
    Addresses v ⟨Path.append ⟨[step]⟩ p.path, p.value, p.reason⟩ := by
  rcases h with hreaches | ⟨outer, key, pairs, hpath, hvalue, hreason, hat, hkey⟩
  · exact .inl ((Value.at?_cons hstep _).trans hreaches)
  · refine .inr ⟨Path.append ⟨[step]⟩ outer, key, pairs, ?_, hvalue, hreason,
      (Value.at?_cons hstep _).trans hat, hkey⟩
    rw [hpath, Path.child_append]

end Report

namespace Problem

variable {path : Path} {v w : Value}

/-- The path leads through the one the value was explained at, and from there on into the value. -/
def Addresses (path : Path) (v : Value) (p : Problem) : Prop :=
  ∃ q, p.path = path.append q ∧ Report.Addresses v ⟨q, p.value, p.reason⟩

theorem addresses_here (s : Spec) (reason : String) : Addresses path v ⟨path, v, s, reason⟩ :=
  ⟨.root, path.append_root.symm, .inl rfl⟩

theorem Addresses.inside {p : Problem} {step : PathStep} (h : p.Addresses (path.child step) w)
    (hstep : v.step? step = some w) : p.Addresses path v := by
  obtain ⟨q, hpath, hq⟩ := h
  refine ⟨_, ?_, hq.inside hstep⟩
  rw [hpath]
  simp [Path.append, Path.child]

theorem addresses_missing {pairs : List (String × Value)} {key : String}
    (hkey : pairs.lookup key = none) (s : Spec) :
    Addresses path (.object pairs) ⟨path.child (.key key), .null, s, Spec.missingKeyReason key⟩ :=
  ⟨⟨[.key key]⟩, rfl,
    .inr ⟨.root, key, pairs, rfl, rfl, rfl, rfl, lookup_eq_none_iff_key.mp hkey⟩⟩

end Problem

open Problem (addresses_here addresses_missing)

namespace Spec

/-- From a session in `I` the value is explained, and every problem addresses it. -/
def Locates (I : Session → Prop) (d : Delegate) (s : Spec) (v : Value) : Prop :=
  ∀ path, Ensures False I (explainWith d s path v) fun problems => ∀ p ∈ problems, p.Addresses path v

variable {I : Session → Prop} {d : Delegate} {v : Value}

theorem locates_isInstance (i : Instance) (k : ValueKind) (v : Value) :
    Locates I d (isInstance i k) v := by
  intro path
  unfold explainWith rejection
  split
  · exact Ensures.pure fun _ hp => absurd hp List.not_mem_nil
  · exact Ensures.pure (List.forall_mem_singleton.mpr (addresses_here _ _))

theorem locates_unbound (i : Instance) (p : String) (v : Value) : Locates I d (unbound i p) v := by
  intro path
  unfold explainWith
  exact Ensures.pure fun _ hp => absurd hp List.not_mem_nil

theorem Locates.decorated {s : Spec} (h : Locates I d s v) (i : Instance) (label : Option String) :
    Locates I d (decorated i s label) v := by
  intro path
  simpa using h path

theorem locates_explainEach {ss : List Spec} (h : ∀ s ∈ ss, Locates I d s v) (path : Path) :
    Ensures False I (explainEach d ss path v) fun problems => ∀ p ∈ problems, p.Addresses path v := by
  induction ss with
  | nil =>
    unfold explainEach
    exact Ensures.pure fun _ hp => absurd hp List.not_mem_nil
  | cons s ss ih =>
    obtain ⟨hs, hss⟩ := List.forall_mem_cons.mp h
    unfold explainEach
    exact (hs path).append (ih hss)

/-- The alternatives are tried before they are explained. -/
theorem locates_oneOf {i : Instance} {ss : List Spec}
    (hends : Ensures False I (conformWith d (oneOf i ss) v) fun _ => True)
    (h : ∀ s ∈ ss, Locates I d s v) : Locates I d (oneOf i ss) v := by
  intro path
  unfold conformWith at hends
  unfold explainWith
  refine hends.bind fun c _ => ?_
  cases c with
  | valid w => exact Ensures.pure fun _ hp => absurd hp List.not_mem_nil
  | invalid => exact locates_explainEach h path

/-- The items are at their indices, counted from where the walk is in the container. -/
theorem locates_explainItems {item : Spec} {vs items : List Value} {n : Nat}
    (hitems : v.items? = some items) (hdrop : items.drop n = vs)
    (h : ∀ w ∈ vs, Locates I d item w) (path : Path) :
    Ensures False I (explainItems (explainWith d item) path n vs)
      fun problems => ∀ p ∈ problems, p.Addresses path v := by
  induction vs generalizing n with
  | nil => exact Ensures.pure fun _ hp => absurd hp List.not_mem_nil
  | cons w vs ih =>
    obtain ⟨hw, hvs⟩ := List.forall_mem_cons.mp h
    have hstep : v.step? (.index n) = some w := by
      change v.items?.bind (·[n]?) = some w
      rw [hitems, Option.bind_some, ← List.head?_drop, hdrop]
      rfl
    have hrest : items.drop (n + 1) = vs := by
      rw [← List.tail_drop, hdrop]
      rfl
    unfold explainItems
    exact ((hw _).mono fun _ hps p hp => (hps p hp).inside hstep).append (ih hrest hvs)

theorem locates_collOf {item : Spec}
    (h : ∀ items, v.items? = some items → ∀ w ∈ items, Locates I d item w) (i : Instance) :
    Locates I d (collOf i item) v := by
  intro path
  unfold explainWith
  cases hitems : v.items? with
  | some items => exact locates_explainItems hitems List.drop_zero (h items hitems) path
  | none => exact Ensures.pure (List.forall_mem_singleton.mpr (addresses_here _ _))

theorem locates_explainKeys {keys : List (String × Spec)} {pairs : List (String × Value)}
    (h : ∀ key ∈ keys, ∀ w, (Value.object pairs).get? key.1 = some w → Locates I d key.2 w)
    (owner : Spec) (path : Path) :
    Ensures False I (explainKeys d owner keys path (.object pairs))
      fun problems => ∀ p ∈ problems, p.Addresses path (.object pairs) := by
  induction keys with
  | nil =>
    unfold explainKeys
    exact Ensures.pure fun _ hp => absurd hp List.not_mem_nil
  | cons key keys ih =>
    obtain ⟨name, s⟩ := key
    obtain ⟨hkey, hkeys⟩ := List.forall_mem_cons.mp h
    unfold explainKeys
    cases hget : (Value.object pairs).get? name with
    | some present =>
      have hstep : (Value.object pairs).step? (.key name) = some present := hget
      exact ((hkey present hget _).mono fun _ hps p hp => (hps p hp).inside hstep).append (ih hkeys)
    | none =>
      refine Ensures.append (Ensures.pure ?_) (ih hkeys)
      exact List.forall_mem_singleton.mpr (addresses_missing hget owner)

/-- A key that is not expected stands once in the object, so its path leads to the value it has. -/
theorem locates_dict {keys : List (String × Spec)} (hv : v.DistinctKeys)
    (h : ∀ key ∈ keys, ∀ w, v.get? key.1 = some w → Locates I d key.2 w) (i : Instance)
    (extra : ExtraFields) : Locates I d (dict i keys extra) v := by
  intro path
  unfold explainWith
  cases v with
  | object pairs =>
    refine Ensures.append (locates_explainKeys h _ path) (Ensures.pure ?_)
    refine List.forall_mem_map.mpr fun pair hpair => (addresses_here _ _).inside (hv.step? ?_)
    split at hpair
    · exact (List.mem_filter.mp hpair).1
    · cases hpair
  | null | bool | int | float | string | bytes | list | tuple =>
    exact Ensures.pure (List.forall_mem_singleton.mpr (addresses_here _ _))

/-- The members of groups are looked for in what the first stage made of the value, so that has to be
what they are in the value itself. -/
theorem locates_agreeing {s : Spec} {groups : List PlaceholderGroup} (hs : Locates I d s v)
    (hmade : Ensures False I (conformWith d s v) fun c => ∀ w, c = .valid w →
      w.kind = .object ∧ ∀ group ∈ groups, ∀ field ∈ group.fields, w.get? field = v.get? field)
    (i l : Instance) : Locates I d (allOf i [s, consistency l groups]) v := by
  intro path
  unfold explainWith explainThrough
  refine hmade.bind fun c hc => ?_
  cases c with
  | invalid => exact hs path
  | valid w =>
    obtain ⟨hkind, hfields⟩ := hc w rfl
    unfold explainThrough conformWith
    simp only [pure_bind]
    cases conformConsistency groups w with
    | valid u =>
      unfold explainThrough
      exact Ensures.pure fun _ hp => absurd hp List.not_mem_nil
    | invalid =>
      unfold explainWith
      cases w with
      | object pairs =>
        refine Ensures.pure fun p hp => ?_
        obtain ⟨group, hgroup, hmem⟩ := List.mem_flatMap.mp hp
        obtain ⟨first, field, w, hmember, _, rfl⟩ := exists_of_mem_explainGroup hmem
        obtain ⟨hfield, hget⟩ := mem_presentMembers.mp hmember
        have hstep : v.step? (.key field) = some w :=
          (hfields group hgroup field hfield).symm.trans hget
        exact (addresses_here _ _).inside hstep
      | null | bool | int | float | string | bytes | list | tuple => cases hkind

end Spec

end Conform

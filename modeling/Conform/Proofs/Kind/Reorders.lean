import Conform.Proofs.Registry.Distinct
import Conform.Proofs.Value.Parts
import Conform.Proofs.Value.Permutation
/-!
Records that keep all keys. Where the keys that are not declared are kept, a record's object is taken
apart into the declared pairs and the others and put together again: if it has no key twice, nothing is
lost and nothing comes twice, so only the order of the pairs may have changed.
-/

namespace Conform

namespace Meaning

/-- What the meaning makes of a value has the same parts, in an order of its own. -/
def Reorders (m : Meaning) : Prop :=
  ∀ v w, v.DistinctKeys → m.conform v = .valid w → w.Permuted v

theorem reorders_anything : anything.Reorders := by
  intro v w _ h
  cases h
  exact .refl v

theorem reorders_unresolved (owner : Spec) (e : SpecError) : (unresolved owner e).Reorders := by
  intro v w _ h
  cases h

theorem reorders_ofCheck (owner : Spec) (passes : Value → Bool) (reason : Value → String) :
    (ofCheck owner passes reason).Reorders := by
  intro v w _ h
  change Conformed.ofBool (passes v) v = .valid w at h
  unfold Conformed.ofBool at h
  split at h
  · cases h
    exact .refl v
  · cases h

theorem reorders_oneOf {ms : List Meaning} (hms : ∀ m ∈ ms, m.Reorders) : (oneOf ms).Reorders := by
  intro v w hv h
  obtain ⟨before, m, after, rfl, _, hm⟩ := conformFirst_eq_valid.mp h
  exact hms m (List.mem_append_right _ List.mem_cons_self) v w hv hm

theorem reorders_items {m : Meaning} (hm : m.Reorders) {vs ws : List Value}
    (hvs : ∀ v ∈ vs, v.DistinctKeys) (h : List.Forall₂ (fun v w => m.conform v = .valid w) vs ws) :
    List.Forall₂ Value.Permuted ws vs := by
  induction h with
  | nil => exact .nil
  | cons hv _ ih =>
    obtain ⟨hfirst, hrest⟩ := List.forall_mem_cons.mp hvs
    exact .cons (hm _ _ hfirst hv) (ih hrest)

theorem Reorders.collOf {m : Meaning} (hm : m.Reorders) (owner : Spec) :
    (collOf owner m).Reorders := by
  intro v w hv h
  obtain ⟨vs, ws, hitems, ⟨rfl, rfl⟩ | ⟨rfl, rfl⟩⟩ := collOf_eq_valid.mp h
  · exact .list (reorders_items hm (hv.items rfl) hitems)
  · exact .tuple (reorders_items hm (hv.items rfl) hitems)

/-! ### Dictionaries -/

section
variable {keys : List (String × Meaning)} {pairs declared : List (String × Value)}

/-- The pairs of the object that declared pairs were made of. -/
theorem exists_taken (hkeys : ∀ key ∈ keys, key.2.Reorders) (hpairs : (Value.object pairs).DistinctKeys)
    (h : List.Forall₂ (Makes (.object pairs)) keys declared) :
    ∃ taken, taken.map (·.1) = keys.map (·.1) ∧ taken ⊆ pairs ∧
      List.Forall₂ (fun p q : String × Value => p.1 = q.1 ∧ p.2.Permuted q.2) declared taken := by
  induction h with
  | nil => exact ⟨[], rfl, List.nil_subset _, .nil⟩
  | @cons key pair keys declared hmakes _ ih =>
    obtain ⟨hkey, hrest⟩ := List.forall_mem_cons.mp hkeys
    obtain ⟨taken, hnames, hsubset, hpermuted⟩ := ih hrest
    obtain ⟨hname, present, hget, hconform⟩ := hmakes
    refine ⟨(key.1, present) :: taken, ?_, ?_, .cons ⟨hname.symm, ?_⟩ hpermuted⟩
    · rw [List.map_cons, List.map_cons, hnames]
    · exact List.cons_subset.mpr ⟨mem_of_lookup_pair hget, hsubset⟩
    · exact hkey _ _ (hpairs.get? hget) hconform

/-- Together with the pairs under other names they are all pairs of the object. -/
theorem taken_perm {names : List String} {taken : List (String × Value)}
    (hpairs : (pairs.map (·.1)).Nodup) (hnames : taken.map (·.1) = names) (hdistinct : names.Nodup)
    (hsubset : taken ⊆ pairs) : (taken ++ besides names pairs).Perm pairs := by
  have hdeclared : taken.Perm (pairs.filter fun pair => pair.1 ∈ names) := by
    subst hnames
    refine (List.perm_ext_iff_of_nodup hdistinct.of_map (hpairs.of_map.filter _)).mpr fun pair => ?_
    rw [List.mem_filter, decide_eq_true_iff]
    constructor
    · exact fun h => ⟨hsubset h, List.mem_map_of_mem h⟩
    · rintro ⟨hpair, hname⟩
      obtain ⟨pair', hpair', heq⟩ := List.mem_map.mp hname
      exact List.inj_on_of_nodup_map hpairs (hsubset hpair') hpair heq ▸ hpair'
  refine (hdeclared.append_right _).trans ?_
  have hall := List.filter_append_perm (fun pair => decide (pair.1 ∈ names)) pairs
  simpa only [besides, decide_not] using hall

theorem reorders_dict (owner : Spec) (hkeys : ∀ key ∈ keys, key.2.Reorders)
    (hnames : (keys.map (·.1)).Nodup) :
    (dict owner (besides (keys.map (·.1))) .allow keys).Reorders := by
  intro v w hv h
  obtain ⟨pairs, declared, others, rfl, hdeclared, hothers, rfl⟩ := dict_eq_valid.mp h
  obtain rfl : besides (keys.map (·.1)) pairs = others := Option.some.inj hothers
  obtain ⟨taken, htaken, hsubset, hpermuted⟩ := exists_taken hkeys hv hdeclared
  refine .object (taken_perm hv.keys htaken hnames hsubset) (List.rel_append hpermuted ?_)
  exact Value.Permuted.refl_pairs _

end

theorem Reorders.consistent {m : Meaning} (hm : m.Reorders) (owner : Spec)
    (groups : List PlaceholderGroup) : (allOf [m, consistency owner groups]).Reorders := by
  intro v w hv h
  obtain ⟨made, hmade, hagree⟩ := allOf_pair_eq_valid.mp h
  cases Spec.conformConsistency_eq_valid hagree
  exact hm v _ hv hmade

end Meaning

/-! ## Records -/

theorem Kind.spreads_reorders : Kind.Spreads Meaning.Reorders where
  anything := Meaning.reorders_anything
  unresolved := Meaning.reorders_unresolved _
  leaf _ := Meaning.reorders_ofCheck _ _ _
  collOf h := h.collOf _
  oneOf := Meaning.reorders_oneOf

namespace Registry

variable {id : Nat} {r : Registry}

theorem undeclared_eq_besides (fields : List Field) :
    undeclared fields = Meaning.besides (fields.map (·.name)) := by
  funext pairs
  refine List.filter_congr fun pair _ => ?_
  rw [decide_not]
  congr 1
  simp [List.any_eq, eq_comm]

theorem reorders_form {config : DeriveConfig} (hextra : config.extra = .allow) {fields : List Field}
    (hfields : Field.Distinct fields) {refs : Target → Meaning}
    (h : ∀ f ∈ fields, (f.kind.meaning id refs).Reorders) :
    (formMeaning config fields (fieldMeanings id refs fields)).Reorders := by
  have hnames : (fieldMeanings id refs fields).map (·.1) = fields.map (·.name) := by
    unfold fieldMeanings
    rw [List.map_map]
    rfl
  have hdict : (Meaning.dict Kind.owner (undeclared fields) config.extra
      (fieldMeanings id refs fields)).Reorders := by
    rw [hextra, undeclared_eq_besides, ← hnames]
    exact Meaning.reorders_dict _ (List.forall_mem_map.mpr h) (hnames ▸ hfields)
  simp only [formMeaning]
  split
  · exact hdict.consistent _ _
  · exact hdict

/-- Where the keys that are not declared are kept, kinds make of a value only one in another order. -/
theorem reorders_meaning (hextra : r.config.extra = .allow) (b : Nat) (k : Kind) :
    (k.meaning id (r.refs id b)).Reorders := by
  refine Kind.spreads_reorders.meaning (Kind.spreads_reorders.refs (fun refs hfields h => ?_) b) k
  exact reorders_form hextra (distinct_fieldsOf hfields) h

end Registry

end Conform

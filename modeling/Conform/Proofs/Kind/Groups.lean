import Conform.Proofs.Spec.Meaning
import Conform.Session.Derive
import Mathlib.Data.List.Induction
import Mathlib.Data.List.Nodup
/-!
Which fields of a record have to agree. Fields declared as one placeholder stand in one group, and a
group is content with a value if the members that are there are all of one kind.
-/

namespace Conform

/-! ## What a group asks -/

namespace Spec

theorem mem_presentMembers {group : PlaceholderGroup} {v : Value} {name : String} {w : Value} :
    (name, w) ∈ presentMembers group v ↔ name ∈ group.fields ∧ v.get? name = some w := by
  unfold presentMembers
  rw [List.mem_filterMap]
  constructor
  · rintro ⟨field, hfield, hget⟩
    obtain ⟨u, hu, hpair⟩ := Option.map_eq_some_iff.mp hget
    cases hpair
    exact ⟨hfield, hu⟩
  · rintro ⟨hfield, hget⟩
    exact ⟨name, hfield, by rw [hget]; rfl⟩

/-- The members under two names are of one kind, if both are there. -/
def SameKind (v : Value) (name other : String) : Prop :=
  ∀ w u, v.get? name = some w → v.get? other = some u → w.kind = u.kind

theorem sameKind_congr {v v' : Value} {name other : String}
    (hname : (v.get? name).map Value.kind = (v'.get? name).map Value.kind)
    (hother : (v.get? other).map Value.kind = (v'.get? other).map Value.kind) :
    SameKind v name other ↔ SameKind v' name other := by
  unfold SameKind
  cases h₁ : v.get? name <;> cases h₂ : v.get? other <;> cases h₃ : v'.get? name <;>
    cases h₄ : v'.get? other <;> simp_all

theorem dissenters_eq_nil (group : PlaceholderGroup) (v : Value) :
    dissenters group v = [] ↔ ∀ n ∈ group.fields, ∀ m ∈ group.fields, SameKind v n m := by
  unfold dissenters
  cases hmembers : presentMembers group v with
  | nil =>
    refine iff_of_true rfl fun n hn m _ w u hw _ => ?_
    have hmem := mem_presentMembers.mpr ⟨hn, hw⟩
    rw [hmembers] at hmem
    cases hmem
  | cons member rest =>
    obtain ⟨field, first⟩ := member
    have hfirst : field ∈ group.fields ∧ v.get? field = some first :=
      mem_presentMembers.mp (hmembers ▸ List.mem_cons_self)
    simp only [List.filter_eq_nil_iff, ne_eq, decide_not, Bool.not_eq_true', decide_eq_false_iff_not,
      Decidable.not_not]
    constructor
    · intro h n hn m hm w u hw hu
      rw [h (n, w) (hmembers ▸ mem_presentMembers.mpr ⟨hn, hw⟩),
        h (m, u) (hmembers ▸ mem_presentMembers.mpr ⟨hm, hu⟩)]
    · rintro h ⟨n, w⟩ hmem
      rw [← hmembers] at hmem
      obtain ⟨hn, hw⟩ := mem_presentMembers.mp hmem
      exact h n hn field hfirst.1 w first hw hfirst.2

end Spec

/-! ## Which fields are in one group -/

namespace Session

/-- Some group of the placeholder has the field. -/
def Has (groups : List PlaceholderGroup) (placeholder field : String) : Prop :=
  ∃ group ∈ groups, group.placeholder = placeholder ∧ field ∈ group.fields

/-- Every group of a placeholder that there is before is there after, with the field if it is that
placeholder's own. -/
theorem has_joinGroup {field p q n : String} {groups : List PlaceholderGroup} :
    Has (joinGroup field p groups) q n ↔ Has groups q n ∨ q = p ∧ n = field := by
  unfold Has
  induction groups with
  | nil => simp [joinGroup, eq_comm]
  | cons g groups ih =>
    unfold joinGroup
    split
    · next hg =>
      subst hg
      simp only [List.mem_cons, exists_eq_or_imp, List.mem_append]
      grind
    · simp only [List.mem_cons, exists_eq_or_imp, ih]
      grind

theorem placeholders_joinGroup (field p : String) (groups : List PlaceholderGroup) :
    (joinGroup field p groups).map (·.placeholder) =
      if p ∈ groups.map (·.placeholder) then groups.map (·.placeholder)
      else groups.map (·.placeholder) ++ [p] := by
  induction groups with
  | nil => rfl
  | cons g groups ih =>
    unfold joinGroup
    split
    · next hg =>
      subst hg
      simp
    · next hg =>
      simp only [List.map_cons, ih, List.mem_cons, Ne.symm hg, false_or]
      split <;> rfl

/-- Groups made for fields: one for each placeholder, with the fields declared as it. -/
structure GroupsOf (fields : List Field) (groups : List PlaceholderGroup) : Prop where
  nodup : (groups.map (·.placeholder)).Nodup
  has : ∀ p n, Has groups p n ↔ ∃ f ∈ fields, f.kind = .placeholder p ∧ f.name = n

theorem placeholderGroups_concat (fields : List Field) (f : Field) :
    placeholderGroups (fields ++ [f]) =
      match f.kind with
      | .placeholder p => joinGroup f.name p (placeholderGroups fields)
      | _ => placeholderGroups fields := by
  unfold placeholderGroups
  rw [List.foldl_append]
  rfl

theorem groupsOf_placeholderGroups (fields : List Field) :
    GroupsOf fields (placeholderGroups fields) := by
  induction fields using List.reverseRecOn with
  | nil =>
    refine ⟨List.nodup_nil, fun p n => iff_of_false ?_ ?_⟩
    · rintro ⟨_, hmem, _⟩
      cases hmem
    · rintro ⟨_, hmem, _⟩
      cases hmem
  | append_singleton fields f ih =>
    rw [placeholderGroups_concat]
    split
    · next p hkind =>
      refine ⟨?_, fun q n => ?_⟩
      · rw [placeholders_joinGroup]
        split
        · exact ih.nodup
        · next hnew => exact List.nodup_append.mpr ⟨ih.nodup, List.nodup_singleton p, by grind⟩
      · rw [has_joinGroup, ih.has]
        simp only [List.mem_append, List.mem_singleton]
        grind
    · next hkind =>
      refine ⟨ih.nodup, fun q n => ?_⟩
      rw [ih.has]
      simp only [List.mem_append, List.mem_singleton]
      grind

/-- There is a group only for placeholders that fields are declared as. -/
theorem exists_field_of_mem_placeholderGroups {fields : List Field} {group : PlaceholderGroup}
    (h : group ∈ placeholderGroups fields) :
    ∃ f ∈ fields, f.kind = .placeholder group.placeholder := by
  suffices hall : ∀ p ∈ (placeholderGroups fields).map (·.placeholder),
      ∃ f ∈ fields, f.kind = .placeholder p from hall _ (List.mem_map_of_mem h)
  clear h
  induction fields using List.reverseRecOn with
  | nil => exact fun _ hp => absurd hp List.not_mem_nil
  | append_singleton fields f ih =>
    have hbefore : ∀ p ∈ (placeholderGroups fields).map (·.placeholder),
        ∃ e ∈ fields ++ [f], e.kind = .placeholder p := fun p hp =>
      have ⟨e, he, hkind⟩ := ih p hp
      ⟨e, List.mem_append_left _ he, hkind⟩
    rw [placeholderGroups_concat]
    split
    · next q hkind =>
      rw [placeholders_joinGroup]
      split
      · exact hbefore
      · intro p hp
        rcases List.mem_append.mp hp with hp | hp
        · exact hbefore p hp
        · cases List.mem_singleton.mp hp
          exact ⟨f, List.mem_append_right _ (List.mem_singleton_self f), hkind⟩
    · exact hbefore

/-- What all groups ask is asked of any two fields declared as one placeholder. -/
theorem forall_placeholderGroups {fields : List Field} {R : String → String → Prop} :
    (∀ group ∈ placeholderGroups fields, ∀ n ∈ group.fields, ∀ m ∈ group.fields, R n m) ↔
      ∀ f ∈ fields, ∀ g ∈ fields, ∀ p, f.kind = .placeholder p → g.kind = .placeholder p →
        R f.name g.name := by
  have hgroups := groupsOf_placeholderGroups fields
  constructor
  · intro h f hf g hg p hfp hgp
    obtain ⟨group, hmem, hp, hn⟩ := (hgroups.has p f.name).mpr ⟨f, hf, hfp, rfl⟩
    obtain ⟨group', hmem', hp', hn'⟩ := (hgroups.has p g.name).mpr ⟨g, hg, hgp, rfl⟩
    obtain rfl := List.inj_on_of_nodup_map hgroups.nodup hmem hmem' (hp.trans hp'.symm)
    exact h group hmem f.name hn g.name hn'
  · intro h group hmem n hn m hm
    obtain ⟨f, hf, hfp, rfl⟩ := (hgroups.has group.placeholder n).mp ⟨group, hmem, rfl, hn⟩
    obtain ⟨g, hg, hgp, rfl⟩ := (hgroups.has group.placeholder m).mp ⟨group, hmem, rfl, hm⟩
    exact h f hf g hg group.placeholder hfp hgp

end Session

end Conform

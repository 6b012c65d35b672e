import Conform.Proofs.Kind.Groups
import Conform.Proofs.Spec.Normal
import Mathlib.Data.List.Forall2
/-!
Placeholder groups agree or not. A value is content with its groups if any two members of one group are
of one kind, so it does not matter in which order groups and fields are listed. Where two members differ
the first one sets the kind, and all that are of another are blamed.
-/

namespace Conform

namespace Spec

/-- Any two members that the value has in one group are of one kind. -/
def Agree (groups : List PlaceholderGroup) (v : Value) : Prop :=
  ∀ group ∈ groups, ∀ n ∈ group.fields, ∀ m ∈ group.fields, SameKind v n m

/-- The same groups in another order, with their fields in another order. -/
def Reordered (groups groups' : List PlaceholderGroup) : Prop :=
  ∃ among, groups'.Perm among ∧
    List.Forall₂ (fun group group' => group.fields.Perm group'.fields) groups among

/-- The kind of the first field of the group that the value has. -/
def firstKind? (group : PlaceholderGroup) (v : Value) : Option ValueKind :=
  group.fields.findSome? fun field => (v.get? field).map Value.kind

/-- One problem for each field that the value has, and not of the first one's kind. -/
def blamed (path : Path) (v : Value) (group : PlaceholderGroup) : List Problem :=
  group.fields.filterMap fun field =>
    match firstKind? group v, v.get? field with
    | some first, some member =>
      if member.kind = first then none
      else some ⟨path.child (.key field), member, isInstance (.implied first) first,
        isInstanceReason first member⟩
    | _, _ => none

section
variable {groups groups' : List PlaceholderGroup} {v : Value}

/-! ## Agreement -/

theorem agree_iff_dissenters : Agree groups v ↔ ∀ group ∈ groups, dissenters group v = [] :=
  forall₂_congr fun group _ => (dissenters_eq_nil group v).symm

theorem Reordered.agree_iff (h : Reordered groups groups') : Agree groups' v ↔ Agree groups v := by
  obtain ⟨among, hperm, hfields⟩ := h
  have hamong : Agree groups' v ↔ Agree among v :=
    forall_congr' fun group => imp_congr_left hperm.mem_iff
  rw [hamong]
  clear hperm hamong
  unfold Agree
  induction hfields with
  | nil => rfl
  | cons hfirst _ ih => simp only [List.forall_mem_cons, ih, hfirst.mem_iff]

/-! ## Blame -/

theorem firstKind?_eq (group : PlaceholderGroup) (v : Value) :
    firstKind? group v = (presentMembers group v).head?.map fun member => member.2.kind := by
  unfold firstKind? presentMembers
  rw [List.head?_filterMap, List.map_findSome?]
  congr 1
  funext field
  rw [Function.comp_apply, Option.map_map]
  rfl

theorem explainGroup_eq_blamed (path : Path) (v : Value) (group : PlaceholderGroup) :
    explainGroup path v group = blamed path v group := by
  have hfirst := firstKind?_eq group v
  unfold explainGroup dissenters blamed
  rw [hfirst]
  cases hmembers : presentMembers group v with
  | nil => simp
  | cons member rest =>
    obtain ⟨field, first⟩ := member
    simp only [List.head?_cons, Option.map_some]
    rw [← hmembers]
    unfold presentMembers
    rw [List.filter_filterMap, List.map_filterMap]
    refine List.filterMap_congr fun field _ => ?_
    cases v.get? field with
    | none => rfl
    | some member => by_cases hkind : member.kind = first.kind <;> simp [Option.filter, hkind]

/-- No one is blamed where all agree, and someone is where not. -/
theorem flatMap_blamed_eq_nil (path : Path) :
    groups.flatMap (blamed path v) = [] ↔ Agree groups v := by
  rw [List.flatMap_eq_nil_iff, agree_iff_dissenters]
  refine forall₂_congr fun group _ => ?_
  rw [← explainGroup_eq_blamed, explainGroup_eq_nil]

theorem conformConsistency_of_agree {pairs : List (String × Value)}
    (h : Agree groups (.object pairs)) :
    conformConsistency groups (.object pairs) = .valid (.object pairs) := by
  have hvalid := (conformConsistency_isValid groups pairs).mpr (agree_iff_dissenters.mp h)
  cases hconform : conformConsistency groups (.object pairs) with
  | valid w => rw [conformConsistency_eq_valid hconform]
  | invalid =>
    rw [hconform] at hvalid
    cases hvalid

theorem conformConsistency_of_not_agree (h : ¬ Agree groups v) :
    conformConsistency groups v = .invalid := by
  cases hconform : conformConsistency groups v with
  | invalid => rfl
  | valid w =>
    refine absurd (agree_iff_dissenters.mpr ?_) h
    cases v with
    | object pairs => exact (conformConsistency_isValid groups pairs).mp (by rw [hconform]; rfl)
    | null | bool | int | float | string | bytes | list | tuple => cases hconform

/-- The order of groups and of their fields does not matter to the verdict. -/
theorem Reordered.conformConsistency_eq (h : Reordered groups groups') :
    conformConsistency groups' v = conformConsistency groups v := by
  by_cases hagree : Agree groups v
  · cases v with
    | object pairs =>
      rw [conformConsistency_of_agree hagree, conformConsistency_of_agree (h.agree_iff.mpr hagree)]
    | null | bool | int | float | string | bytes | list | tuple => rfl
  · rw [conformConsistency_of_not_agree hagree,
      conformConsistency_of_not_agree (mt h.agree_iff.mp hagree)]

end

end Spec

/-! ## Checks -/

section
variable (id : Instance) (groups : List PlaceholderGroup) (v : Value) (s : Session)

theorem Check.conform_consistency :
    Check.conform (.consistency id groups) v s = some (Spec.conformConsistency groups v, s) := by
  unfold Check.conform Spec.conformWith
  rfl

theorem Check.explain_consistency (path : Path) (pairs : List (String × Value)) :
    Check.explain (.consistency id groups) path (.object pairs) s =
      some (groups.flatMap (Spec.blamed path (.object pairs)), s) := by
  unfold Check.explain Spec.explainWith
  rw [← funext (Spec.explainGroup_eq_blamed path (.object pairs))]
  rfl

end

/-- An object conforms, as it is, if and only if any two members of a group are of one kind. If not, the
problems are those of the members that are not of the first one's kind. All else is no object, and that
is the one problem of it. -/
theorem Check.consistency_valid_iff_agree (id : Instance) (groups : List PlaceholderGroup)
    (s : Session) :
    (∀ pairs,
      (Spec.Agree groups (.object pairs) →
        conform (.consistency id groups) (.object pairs) s = some (.valid (.object pairs), s)) ∧
      (¬ Spec.Agree groups (.object pairs) →
        conform (.consistency id groups) (.object pairs) s = some (.invalid, s)) ∧
      ∀ path, explain (.consistency id groups) path (.object pairs) s =
          some (groups.flatMap (Spec.blamed path (.object pairs)), s) ∧
        (groups.flatMap (Spec.blamed path (.object pairs)) = [] ↔
          Spec.Agree groups (.object pairs))) ∧
    (∀ id' groups' v, Spec.Reordered groups groups' →
      conform (.consistency id' groups') v s = conform (.consistency id groups) v s) ∧
    ∀ v, v.kind ≠ .object → conform (.consistency id groups) v s = some (.invalid, s) ∧
      ∀ path, explain (.consistency id groups) path v s =
        some ([⟨path, v, .consistency id groups, Spec.notDictionaryReason v⟩], s) := by
  refine ⟨fun pairs => ⟨fun hagree => ?_, fun hdiffer => ?_, fun path => ⟨?_, ?_⟩⟩,
    fun id' groups' v hreordered => ?_, fun v hkind => ⟨?_, fun path => ?_⟩⟩
  · rw [conform_consistency, Spec.conformConsistency_of_agree hagree]
  · rw [conform_consistency, Spec.conformConsistency_of_not_agree hdiffer]
  · exact explain_consistency id groups s path pairs
  · exact Spec.flatMap_blamed_eq_nil path
  · rw [conform_consistency, conform_consistency, Spec.Reordered.conformConsistency_eq hreordered]
  · cases v with
    | object pairs => exact absurd rfl hkind
    | null | bool | int | float | string | bytes | list | tuple =>
      exact conform_consistency id groups _ s
  · cases v with
    | object pairs => exact absurd rfl hkind
    | null | bool | int | float | string | bytes | list | tuple =>
      unfold explain Spec.explainWith
      rfl

/-- Of two groups that share a field, the one that begins with an absent field blames the shared one. -/
theorem Check.consistency_valid_iff_agree_overlapping :
    let groups : List PlaceholderGroup := [⟨"T", ["c", "a", "b"]⟩, ⟨"U", ["b", "b"]⟩]
    let pairs : List (String × Value) := [("a", .int 1), ("b", .string "x"), ("a", .bool true)]
    ¬ Spec.Agree groups (.object pairs) ∧
      conform (.consistency (.made 0) groups) (.object pairs) .empty = some (.invalid, .empty) ∧
      explain (.consistency (.made 0) groups) .root (.object pairs) .empty =
        some ([⟨Path.root.child (.key "b"), .string "x", .isInstance (.implied .int) .int,
          "expected an integer but got a string"⟩], .empty) := by
  intro groups pairs
  obtain ⟨hobject, _⟩ := consistency_valid_iff_agree (.made 0) groups .empty
  obtain ⟨_, hinvalid, hexplain⟩ := hobject pairs
  obtain ⟨hproblems, hagree⟩ := hexplain .root
  have hblamed : groups.flatMap (Spec.blamed .root (.object pairs)) =
      [⟨Path.root.child (.key "b"), .string "x", .isInstance (.implied .int) .int,
        "expected an integer but got a string"⟩] := by rfl
  have hdiffer : ¬ Spec.Agree groups (.object pairs) := by
    rw [← hagree, hblamed]
    exact List.cons_ne_nil _ _
  exact ⟨hdiffer, hinvalid hdiffer, hblamed ▸ hproblems⟩

end Conform

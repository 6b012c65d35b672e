import Conform.Json
import Conform.Proofs.Text.ByteOrder
import Mathlib.Data.List.Induction
/-!
The members of objects in documents. They stand in ascending order of their names, however they came, and
the last of each name is the one that stands.
-/

namespace Conform.Json

variable {α β : Type} {members others : List (String × α)} {name key : String}

/-- The names stand in the order of their bytes, each of them once. -/
def Ascending (members : List (String × α)) : Prop :=
  members.Pairwise fun p q => Text.Precedes p.1 q.1

theorem lookup_cons_ite (name : String) (x : α) (members : List (String × α)) (key : String) :
    ((name, x) :: members).lookup key = if key = name then some x else members.lookup key := by
  rw [List.lookup_cons]
  by_cases h : key = name
  · simp [h]
  · rw [beq_false_of_ne h, if_neg h]

/-! ## Ascending members -/

theorem ascending_iff : Ascending members ↔ members.Pairwise fun p q => p.1 < q.1 := by
  simp only [Ascending, Text.precedes_iff]

theorem Ascending.map (h : Ascending members) (f : α → β) :
    Ascending (members.map fun p => (p.1, f p.2)) :=
  List.pairwise_map.mpr h

theorem lookup_eq_none_of_forall_lt (h : ∀ p ∈ members, key < p.1) : members.lookup key = none := by
  rw [List.lookup_eq_none_iff]
  intro p hp
  simpa using (h p hp).ne

/-- Ascending members are settled by what is found under each name. -/
theorem Ascending.eq_of_lookup (h : Ascending members) (h' : Ascending others)
    (hlookup : ∀ key, members.lookup key = others.lookup key) : members = others := by
  rw [ascending_iff] at h h'
  induction members generalizing others with
  | nil =>
    cases others with
    | nil => rfl
    | cons q others =>
      have hfound := hlookup q.1
      rw [List.lookup_nil, List.lookup_cons_self] at hfound
      cases hfound
  | cons p members ih =>
    obtain ⟨m, x⟩ := p
    obtain ⟨hm, hmembers⟩ := List.pairwise_cons.mp h
    cases others with
    | nil =>
      have hfound := hlookup m
      rw [List.lookup_nil, List.lookup_cons_self] at hfound
      cases hfound
    | cons q others =>
      obtain ⟨n, y⟩ := q
      obtain ⟨hn, hothers⟩ := List.pairwise_cons.mp h'
      -- The lesser of two first names would be missing on the other side.
      have hname : m = n := by
        rcases lt_trichotomy m n with hlt | heq | hgt
        · have hnone : ((n, y) :: others).lookup m = none := by
            refine lookup_eq_none_of_forall_lt (List.forall_mem_cons.mpr ⟨hlt, fun q hq => ?_⟩)
            exact hlt.trans (hn q hq)
          have hfound := hlookup m
          rw [List.lookup_cons_self, hnone] at hfound
          cases hfound
        · exact heq
        · have hnone : ((m, x) :: members).lookup n = none := by
            refine lookup_eq_none_of_forall_lt (List.forall_mem_cons.mpr ⟨hgt, fun p hp => ?_⟩)
            exact hgt.trans (hm p hp)
          have hfound := hlookup n
          rw [List.lookup_cons_self, hnone] at hfound
          cases hfound
      subst hname
      have hfound := hlookup m
      rw [List.lookup_cons_self, List.lookup_cons_self] at hfound
      cases hfound
      refine congrArg ((m, x) :: ·) (ih hmembers hothers fun key => ?_)
      by_cases hkey : key = m
      · subst hkey
        rw [lookup_eq_none_of_forall_lt hm, lookup_eq_none_of_forall_lt hn]
      · have hrest := hlookup key
        rwa [lookup_cons_ite, lookup_cons_ite, if_neg hkey, if_neg hkey] at hrest

theorem lookup_map_snd (members : List (String × α)) (f : α → β) (key : String) :
    (members.map fun p => (p.1, f p.2)).lookup key = (members.lookup key).map f := by
  induction members with
  | nil => rfl
  | cons p members ih =>
    obtain ⟨name, x⟩ := p
    rw [List.map_cons, lookup_cons_ite, lookup_cons_ite, ih]
    split <;> rfl

/-! ## Members put in their places -/

section
variable {j : Json} {members : List (String × Json)}

theorem mem_insert {p : String × Json} (h : p ∈ insert name j members) :
    p = (name, j) ∨ p ∈ members := by
  induction members with
  | nil => exact .inl (List.mem_singleton.mp h)
  | cons q members ih =>
    rw [insert] at h
    split at h
    · exact List.mem_cons.mp h
    split at h
    · rcases List.mem_cons.mp h with rfl | hmem
      · exact .inl rfl
      · exact .inr (List.mem_cons_of_mem _ hmem)
    · rcases List.mem_cons.mp h with rfl | hmem
      · exact .inr List.mem_cons_self
      · exact (ih hmem).imp_right (List.mem_cons_of_mem _)

theorem ascending_insert (h : Ascending members) : Ascending (insert name j members) := by
  rw [ascending_iff] at h ⊢
  induction members with
  | nil => exact List.pairwise_singleton _ _
  | cons q members ih =>
    obtain ⟨hq, hmembers⟩ := List.pairwise_cons.mp h
    rw [insert]
    split
    · next hlt =>
      refine List.pairwise_cons.mpr ⟨List.forall_mem_cons.mpr ⟨hlt, fun p hp => ?_⟩, h⟩
      exact String.lt_trans hlt (hq p hp)
    split
    · next heq =>
      refine List.pairwise_cons.mpr ⟨fun p hp => ?_, hmembers⟩
      exact heq ▸ hq p hp
    · next hnlt hne =>
      refine List.pairwise_cons.mpr ⟨fun p hp => ?_, ih hmembers⟩
      rcases mem_insert hp with rfl | hp
      · exact lt_of_le_of_ne (not_lt.mp hnlt) (Ne.symm hne)
      · exact hq p hp

/-- The new member is found under its name, and the others under theirs. -/
theorem lookup_insert (name : String) (j : Json) (members : List (String × Json)) (key : String) :
    (insert name j members).lookup key = if key = name then some j else members.lookup key := by
  induction members with
  | nil => exact lookup_cons_ite name j [] key
  | cons q members ih =>
    obtain ⟨m, k⟩ := q
    rw [insert]
    split
    · exact lookup_cons_ite name j _ key
    split
    · next heq =>
      subst heq
      rw [lookup_cons_ite, lookup_cons_ite]
      by_cases hkey : key = name <;> simp [hkey]
    · next hne =>
      rw [lookup_cons_ite, lookup_cons_ite, ih]
      by_cases hkey : key = name
      · subst hkey
        simp [hne]
      · simp [hkey]

/-- A member whose name comes after all others goes to the end. -/
theorem insert_eq_append (h : ∀ p ∈ members, p.1 < name) :
    insert name j members = members ++ [(name, j)] := by
  induction members with
  | nil => rfl
  | cons q members ih =>
    obtain ⟨hq, hmembers⟩ := List.forall_mem_cons.mp h
    rw [insert, if_neg (lt_asymm hq), if_neg hq.ne', ih hmembers, List.cons_append]

/-- All of the members put in their places, one after the other. -/
def gather (members : List (String × Json)) : List (String × Json) :=
  members.foldl (fun done p => insert p.1 p.2 done) []

theorem ofMembers_eq (members : List (String × Json)) : ofMembers members = object (gather members) := rfl

theorem gather_concat (members : List (String × Json)) (p : String × Json) :
    gather (members ++ [p]) = insert p.1 p.2 (gather members) :=
  List.foldl_append

theorem ascending_gather (members : List (String × Json)) : Ascending (gather members) := by
  induction members using List.reverseRecOn with
  | nil => exact .nil
  | append_singleton members p ih =>
    rw [gather_concat]
    exact ascending_insert ih

theorem mem_of_mem_gather {p : String × Json} (h : p ∈ gather members) : p ∈ members := by
  induction members using List.reverseRecOn with
  | nil => cases h
  | append_singleton members q ih =>
    rw [gather_concat] at h
    rw [List.mem_append, List.mem_singleton]
    rcases mem_insert h with rfl | hmem
    · exact .inr rfl
    · exact .inl (ih hmem)

/-- The last of the members with a name is found under it. -/
theorem lookup_gather (members : List (String × Json)) (key : String) :
    (gather members).lookup key = members.reverse.lookup key := by
  induction members using List.reverseRecOn with
  | nil => rfl
  | append_singleton members p ih =>
    obtain ⟨name, j⟩ := p
    rw [gather_concat, lookup_insert, List.reverse_concat, lookup_cons_ite, ih]

theorem Ascending.gather_eq (h : Ascending members) : gather members = members := by
  induction members using List.reverseRecOn with
  | nil => rfl
  | append_singleton members p ih =>
    obtain ⟨hmembers, _, hlast⟩ := List.pairwise_append.mp h
    have hbefore : ∀ q ∈ members, q.1 < p.1 := fun q hq =>
      Text.precedes_iff.mp (hlast q hq p List.mem_cons_self)
    rw [gather_concat, ih hmembers, insert_eq_append hbefore]

end

end Conform.Json

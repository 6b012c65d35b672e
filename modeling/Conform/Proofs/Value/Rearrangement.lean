import Conform.Proofs.Spec.Depth
import Conform.Proofs.Spec.Normal
/-!
Values that differ in the order of keys. The pairs of an object may be moved if no key stands twice,
and this at every depth; the items of lists and tuples stay in their places. What can be asked of a
value by key does not depend on where its pairs stand.
-/

namespace Conform.Value

/-- The pairs are the same, in the same order unless the keys are distinct. -/
def Moved (ps qs : List (String × Value)) : Prop :=
  ps = qs ∨ (ps.map (·.1)).Nodup ∧ ps.Perm qs

mutual

/-- The values are equal but for the order of pairs under distinct keys. -/
def Rearranged : Value → Value → Prop
  | list vs, list ws => ItemsRearranged vs ws
  | tuple vs, tuple ws => ItemsRearranged vs ws
  | object ps, object qs => ∃ rs, PairsRearranged ps rs ∧ Moved rs qs
  | v, w => v = w

def ItemsRearranged : List Value → List Value → Prop
  | [], [] => True
  | v :: vs, w :: ws => Rearranged v w ∧ ItemsRearranged vs ws
  | _, _ => False

/-- Pair by pair the keys are the same, and the values rearranged. -/
def PairsRearranged : List (String × Value) → List (String × Value) → Prop
  | [], [] => True
  | (key, v) :: ps, (key', w) :: qs => key = key' ∧ Rearranged v w ∧ PairsRearranged ps qs
  | _, _ => False

end

/-- The keys are the same, and the values rearranged. -/
def Paired (p q : String × Value) : Prop := p.1 = q.1 ∧ p.2.Rearranged q.2

/-! ## Moved pairs -/

namespace Moved

variable {ps qs : List (String × Value)}

theorem refl (ps : List (String × Value)) : Moved ps ps := .inl rfl

theorem lookup_eq (h : Moved ps qs) (key : String) : ps.lookup key = qs.lookup key := by
  rcases h with rfl | ⟨hkeys, hperm⟩
  · rfl
  · have hkeys' : (qs.map (·.1)).Nodup := (hperm.map _).nodup_iff.mp hkeys
    cases hlookup : ps.lookup key with
    | some v => exact (lookup_of_mem_pair hkeys' (hperm.mem_iff.mp (mem_of_lookup_pair hlookup))).symm
    | none =>
      have hkey : key ∉ ps.map (·.1) := lookup_eq_none_iff_key.mp hlookup
      exact (lookup_eq_none_iff_key.mpr fun hmem => hkey ((hperm.map _).mem_iff.mpr hmem)).symm

theorem depth_eq (h : Moved ps qs) : depthOfPairs ps = depthOfPairs qs := by
  rcases h with rfl | ⟨hkeys, hperm⟩
  · rfl
  · clear hkeys
    induction hperm with
    | nil => rfl
    | cons p _ ih => simp only [depthOfPairs, ih]
    | swap p q _ =>
      simp only [depthOfPairs]
      exact Nat.max_left_comm _ _ _
    | trans _ _ ih ih' => exact ih.trans ih'

theorem filter (h : Moved ps qs) (p : String × Value → Bool) :
    Moved (ps.filter p) (qs.filter p) := by
  rcases h with rfl | ⟨hkeys, hperm⟩
  · exact refl _
  · exact .inr ⟨hkeys.sublist (List.filter_sublist.map _), hperm.filter p⟩

/-- Other pairs may stand before them, under keys of their own. -/
theorem append_left (h : Moved ps qs) {os : List (String × Value)} (hkeys : (os.map (·.1)).Nodup)
    (hapart : ∀ pair ∈ ps, pair.1 ∉ os.map (·.1)) : Moved (os ++ ps) (os ++ qs) := by
  rcases h with rfl | ⟨hps, hperm⟩
  · exact refl _
  · refine .inr ⟨?_, hperm.append_left os⟩
    rw [List.map_append]
    refine List.nodup_append.mpr ⟨hkeys, hps, ?_⟩
    rintro key hos _ hmem rfl
    obtain ⟨pair, hpair, rfl⟩ := List.mem_map.mp hmem
    exact hapart pair hpair hos

end Moved

/-! ## Rearranged values -/

theorem itemsRearranged_iff {vs ws : List Value} :
    ItemsRearranged vs ws ↔ List.Forall₂ Rearranged vs ws := by
  induction vs generalizing ws with
  | nil => cases ws <;> simp [ItemsRearranged]
  | cons v vs ih => cases ws <;> simp [ItemsRearranged, ih]

theorem pairsRearranged_iff {ps qs : List (String × Value)} :
    PairsRearranged ps qs ↔ List.Forall₂ Paired ps qs := by
  induction ps generalizing qs with
  | nil => cases qs <;> simp [PairsRearranged]
  | cons p ps ih => cases qs <;> simp [PairsRearranged, Paired, ih, and_assoc]

namespace Rearranged

variable {v w : Value}

theorem list {vs ws : List Value} (h : List.Forall₂ Rearranged vs ws) :
    (Value.list vs).Rearranged (.list ws) := by
  simpa only [Rearranged] using itemsRearranged_iff.mpr h

theorem tuple {vs ws : List Value} (h : List.Forall₂ Rearranged vs ws) :
    (Value.tuple vs).Rearranged (.tuple ws) := by
  simpa only [Rearranged] using itemsRearranged_iff.mpr h

theorem object {ps rs qs : List (String × Value)} (h : List.Forall₂ Paired ps rs)
    (hmoved : Moved rs qs) : (Value.object ps).Rearranged (.object qs) := by
  simpa only [Rearranged] using ⟨rs, pairsRearranged_iff.mpr h, hmoved⟩

theorem exists_list {vs : List Value} (h : (Value.list vs).Rearranged w) :
    ∃ ws, w = .list ws ∧ List.Forall₂ Rearranged vs ws := by
  cases w with
  | list ws => exact ⟨ws, rfl, itemsRearranged_iff.mp (by simpa only [Rearranged] using h)⟩
  | null | bool | int | float | string | bytes | tuple | object => simp [Rearranged] at h

theorem exists_tuple {vs : List Value} (h : (Value.tuple vs).Rearranged w) :
    ∃ ws, w = .tuple ws ∧ List.Forall₂ Rearranged vs ws := by
  cases w with
  | tuple ws => exact ⟨ws, rfl, itemsRearranged_iff.mp (by simpa only [Rearranged] using h)⟩
  | null | bool | int | float | string | bytes | list | object => simp [Rearranged] at h

theorem exists_object {ps : List (String × Value)} (h : (Value.object ps).Rearranged w) :
    ∃ qs, w = .object qs ∧ ∃ rs, List.Forall₂ Paired ps rs ∧ Moved rs qs := by
  cases w with
  | object qs =>
    obtain ⟨rs, hrs, hmoved⟩ : ∃ rs, PairsRearranged ps rs ∧ Moved rs qs := by
      simpa only [Rearranged] using h
    exact ⟨qs, rfl, rs, pairsRearranged_iff.mp hrs, hmoved⟩
  | null | bool | int | float | string | bytes | list | tuple => simp [Rearranged] at h

/-- Whatever has no members stays what it is. -/
theorem eq_of_depth (h : v.Rearranged w) (hv : v.depth = 0) : v = w := by
  cases v with
  | null | bool | int | float | string | bytes => simpa only [Rearranged] using h
  | list | tuple | object => simp only [depth, Nat.add_one_ne_zero] at hv

mutual

theorem refl : ∀ v : Value, v.Rearranged v
  | .null | .bool _ | .int _ | .float _ | .string _ | .bytes _ => by simp only [Rearranged]
  | .list vs => list (refl_items vs)
  | .tuple vs => tuple (refl_items vs)
  | .object ps => object (refl_pairs ps) (.refl ps)

theorem refl_items : ∀ vs : List Value, List.Forall₂ Rearranged vs vs
  | [] => .nil
  | v :: vs => .cons (refl v) (refl_items vs)

theorem refl_pairs : ∀ ps : List (String × Value), List.Forall₂ Paired ps ps
  | [] => .nil
  | (_, v) :: ps => .cons ⟨rfl, refl v⟩ (refl_pairs ps)

end

theorem of_perm {ps qs : List (String × Value)} (hkeys : (ps.map (·.1)).Nodup) (hperm : ps.Perm qs) :
    (Value.object ps).Rearranged (.object qs) :=
  object (refl_pairs ps) (.inr ⟨hkeys, hperm⟩)

/-! ### What stays the same -/

theorem kind_eq (h : v.Rearranged w) : v.kind = w.kind := by
  cases v with
  | null | bool | int | float | string | bytes => rw [h.eq_of_depth rfl]
  | list vs =>
    obtain ⟨ws, rfl, _⟩ := h.exists_list
    rfl
  | tuple vs =>
    obtain ⟨ws, rfl, _⟩ := h.exists_tuple
    rfl
  | object ps =>
    obtain ⟨qs, rfl, _⟩ := h.exists_object
    rfl

mutual

theorem depth_eq : ∀ {v w : Value}, v.Rearranged w → v.depth = w.depth
  | .null, _, h | .bool _, _, h | .int _, _, h | .float _, _, h | .string _, _, h
  | .bytes _, _, h => by rw [h.eq_of_depth rfl]
  | .list _, _, h => by
    obtain ⟨ws, rfl, hitems⟩ := h.exists_list
    simp only [depth, depth_items hitems]
  | .tuple _, _, h => by
    obtain ⟨ws, rfl, hitems⟩ := h.exists_tuple
    simp only [depth, depth_items hitems]
  | .object _, _, h => by
    obtain ⟨qs, rfl, rs, hpairs, hmoved⟩ := h.exists_object
    simp only [depth, depth_pairs hpairs, hmoved.depth_eq]

theorem depth_items : ∀ {vs ws : List Value}, List.Forall₂ Rearranged vs ws →
    depthOfItems vs = depthOfItems ws
  | [], _, .nil => rfl
  | _ :: _, _, .cons h hs => by simp only [depthOfItems, depth_eq h, depth_items hs]

theorem depth_pairs : ∀ {ps rs : List (String × Value)}, List.Forall₂ Paired ps rs →
    depthOfPairs ps = depthOfPairs rs
  | [], _, .nil => rfl
  | (_, _) :: _, (_, _) :: _, .cons h hs => by
    simp only [depthOfPairs, depth_eq h.2, depth_pairs hs]

end

theorem lookup {ps rs : List (String × Value)} (h : List.Forall₂ Paired ps rs) (key : String) :
    Option.Rel Rearranged (ps.lookup key) (rs.lookup key) := by
  induction h with
  | nil => exact .none
  | @cons p q ps rs hpq _ ih =>
    obtain ⟨k, v⟩ := p
    obtain ⟨_, w⟩ := q
    obtain ⟨rfl, hvw⟩ := hpq
    simp only [List.lookup_cons]
    cases key == k with
    | true => exact .some hvw
    | false => exact ih

/-- Under every key there is a rearrangement of what was there. -/
theorem get? (h : v.Rearranged w) (key : String) :
    Option.Rel Rearranged (v.get? key) (w.get? key) := by
  cases v with
  | object ps =>
    obtain ⟨qs, rfl, rs, hpairs, hmoved⟩ := h.exists_object
    have hlookup := lookup hpairs key
    rw [hmoved.lookup_eq key] at hlookup
    exact hlookup
  | null | bool | int | float | string | bytes =>
    rw [← h.eq_of_depth rfl]
    exact .none
  | list vs =>
    obtain ⟨ws, rfl, _⟩ := h.exists_list
    exact .none
  | tuple vs =>
    obtain ⟨ws, rfl, _⟩ := h.exists_tuple
    exact .none

theorem map_kind_get? (h : v.Rearranged w) (key : String) :
    (v.get? key).map Value.kind = (w.get? key).map Value.kind := by
  have hget := h.get? key
  revert hget
  generalize v.get? key = o
  generalize w.get? key = o'
  intro hget
  cases hget with
  | none => rfl
  | some hmember => exact congrArg some hmember.kind_eq

end Rearranged

end Conform.Value

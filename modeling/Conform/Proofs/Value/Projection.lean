import Conform.Proofs.Spec.Normal
/-!
Projections of values. A projection leaves what is no container as it is, keeps the items of lists and
tuples in their places, and gives objects no pair that the value does not have under the same key. It
may drop pairs, move them, and repeat them.
-/

namespace Conform.Value

mutual

/-- The first value is a projection of the second. -/
def Projects : Value → Value → Prop
  | list ws, list vs => ItemsProject ws vs
  | tuple ws, tuple vs => ItemsProject ws vs
  | object ps, object qs => PairsProject ps qs
  | w, v => w = v

/-- Each item is a projection of the one at its index. -/
def ItemsProject : List Value → List Value → Prop
  | [], [] => True
  | w :: ws, v :: vs => Projects w v ∧ ItemsProject ws vs
  | _, _ => False

/-- Each pair is a projection of some pair with its key. -/
def PairsProject : List (String × Value) → List (String × Value) → Prop
  | [], _ => True
  | (key, w) :: ps, qs => (∃ v, (key, v) ∈ qs ∧ Projects w v) ∧ PairsProject ps qs

end

theorem itemsProject_iff {ws vs : List Value} :
    ItemsProject ws vs ↔ List.Forall₂ Projects ws vs := by
  induction ws generalizing vs with
  | nil => cases vs <;> simp [ItemsProject]
  | cons w ws ih => cases vs <;> simp [ItemsProject, ih]

theorem pairsProject_iff {ps qs : List (String × Value)} :
    PairsProject ps qs ↔ ∀ key w, (key, w) ∈ ps → ∃ v, (key, v) ∈ qs ∧ w.Projects v := by
  induction ps with
  | nil => simp [PairsProject]
  | cons pair ps ih =>
    obtain ⟨key, w⟩ := pair
    simp only [PairsProject, ih, List.mem_cons, Prod.mk.injEq]
    constructor
    · rintro ⟨hpair, hps⟩ key' w' (⟨rfl, rfl⟩ | hmem)
      · exact hpair
      · exact hps key' w' hmem
    · exact fun h => ⟨h key w (.inl ⟨rfl, rfl⟩), fun key' w' hmem => h key' w' (.inr hmem)⟩

namespace Projects

theorem list {ws vs : List Value} (h : List.Forall₂ Projects ws vs) :
    (Value.list ws).Projects (.list vs) := by
  simpa only [Projects] using itemsProject_iff.mpr h

theorem tuple {ws vs : List Value} (h : List.Forall₂ Projects ws vs) :
    (Value.tuple ws).Projects (.tuple vs) := by
  simpa only [Projects] using itemsProject_iff.mpr h

theorem object {ps qs : List (String × Value)}
    (h : ∀ key w, (key, w) ∈ ps → ∃ v, (key, v) ∈ qs ∧ w.Projects v) :
    (Value.object ps).Projects (.object qs) := by
  simpa only [Projects] using pairsProject_iff.mpr h

mutual

theorem refl : ∀ v : Value, v.Projects v
  | .null | .bool _ | .int _ | .float _ | .string _ | .bytes _ => by simp only [Projects]
  | .list vs => list (refl_items vs)
  | .tuple vs => tuple (refl_items vs)
  | .object ps => object fun key w hmem => ⟨w, hmem, refl_pairs ps (key, w) hmem⟩

theorem refl_items : ∀ vs : List Value, List.Forall₂ Projects vs vs
  | [] => .nil
  | v :: vs => .cons (refl v) (refl_items vs)

theorem refl_pairs : ∀ ps : List (String × Value), ∀ pair ∈ ps, pair.2.Projects pair.2
  | [] => fun _ hpair => absurd hpair List.not_mem_nil
  | (_, v) :: ps => List.forall_mem_cons.mpr ⟨refl v, refl_pairs ps⟩

end

variable {v : Value}

theorem exists_list {ws : List Value} (h : (Value.list ws).Projects v) :
    ∃ vs, v = .list vs ∧ List.Forall₂ Projects ws vs := by
  cases v with
  | list vs => exact ⟨vs, rfl, itemsProject_iff.mp (by simpa only [Projects] using h)⟩
  | null | bool | int | float | string | bytes | tuple | object => simp [Projects] at h

theorem exists_tuple {ws : List Value} (h : (Value.tuple ws).Projects v) :
    ∃ vs, v = .tuple vs ∧ List.Forall₂ Projects ws vs := by
  cases v with
  | tuple vs => exact ⟨vs, rfl, itemsProject_iff.mp (by simpa only [Projects] using h)⟩
  | null | bool | int | float | string | bytes | list | object => simp [Projects] at h

theorem exists_object {ps : List (String × Value)} (h : (Value.object ps).Projects v) :
    ∃ qs, v = .object qs ∧ ∀ key w, (key, w) ∈ ps → ∃ v, (key, v) ∈ qs ∧ w.Projects v := by
  cases v with
  | object qs => exact ⟨qs, rfl, pairsProject_iff.mp (by simpa only [Projects] using h)⟩
  | null | bool | int | float | string | bytes | list | tuple => simp [Projects] at h

mutual

theorem trans : ∀ {w v u : Value}, w.Projects v → v.Projects u → w.Projects u
  | .null, _, _, h, h' | .bool _, _, _, h, h' | .int _, _, _, h, h' | .float _, _, _, h, h'
  | .string _, _, _, h, h' | .bytes _, _, _, h, h' => by
    simp only [Projects] at h
    exact h ▸ h'
  | .list _, _, _, h, h' => by
    obtain ⟨vs, rfl, hvs⟩ := h.exists_list
    obtain ⟨us, rfl, hus⟩ := h'.exists_list
    exact list (trans_items hvs hus)
  | .tuple _, _, _, h, h' => by
    obtain ⟨vs, rfl, hvs⟩ := h.exists_tuple
    obtain ⟨us, rfl, hus⟩ := h'.exists_tuple
    exact tuple (trans_items hvs hus)
  | .object ps, _, _, h, h' => by
    obtain ⟨qs, rfl, hqs⟩ := h.exists_object
    obtain ⟨os, rfl, hos⟩ := h'.exists_object
    refine object fun key w hmem => ?_
    obtain ⟨v, hv, hproject⟩ := hqs key w hmem
    obtain ⟨u, hu, hproject'⟩ := hos key v hv
    exact ⟨u, hu, trans_pairs ps (key, w) hmem hproject hproject'⟩

theorem trans_items : ∀ {ws vs us : List Value}, List.Forall₂ Projects ws vs →
    List.Forall₂ Projects vs us → List.Forall₂ Projects ws us
  | [], _, _, .nil, .nil => .nil
  | _ :: _, _, _, .cons h hs, .cons h' hs' => .cons (trans h h') (trans_items hs hs')

theorem trans_pairs : ∀ (ps : List (String × Value)), ∀ pair ∈ ps, ∀ {v u : Value},
    pair.2.Projects v → v.Projects u → pair.2.Projects u
  | [] => fun _ hpair => absurd hpair List.not_mem_nil
  | (_, _) :: ps => List.forall_mem_cons.mpr ⟨fun h h' => trans h h', trans_pairs ps⟩

end

end Projects

end Conform.Value

import Conform.Value.Basic
import Mathlib.Data.List.Forall2
/-!
Values that are equal up to the order of the pairs in their objects, at every depth.
-/

namespace Conform.Value

mutual

/-- The first value is the second one with the pairs of its objects in another order. -/
def Permuted : Value → Value → Prop
  | list ws, list vs => ItemsPermuted ws vs
  | tuple ws, tuple vs => ItemsPermuted ws vs
  | object ps, object qs => ∃ rs, rs.Perm qs ∧ PairsPermuted ps rs
  | w, v => w = v

def ItemsPermuted : List Value → List Value → Prop
  | [], [] => True
  | w :: ws, v :: vs => Permuted w v ∧ ItemsPermuted ws vs
  | _, _ => False

/-- Pair by pair the keys are the same, and the values equal up to order. -/
def PairsPermuted : List (String × Value) → List (String × Value) → Prop
  | [], [] => True
  | (key, w) :: ps, (key', v) :: qs => key = key' ∧ Permuted w v ∧ PairsPermuted ps qs
  | _, _ => False

end

theorem itemsPermuted_iff {ws vs : List Value} :
    ItemsPermuted ws vs ↔ List.Forall₂ Permuted ws vs := by
  induction ws generalizing vs with
  | nil => cases vs <;> simp [ItemsPermuted]
  | cons w ws ih => cases vs <;> simp [ItemsPermuted, ih]

theorem pairsPermuted_iff {ps qs : List (String × Value)} :
    PairsPermuted ps qs ↔ List.Forall₂ (fun p q => p.1 = q.1 ∧ p.2.Permuted q.2) ps qs := by
  induction ps generalizing qs with
  | nil => cases qs <;> simp [PairsPermuted]
  | cons p ps ih => cases qs <;> simp [PairsPermuted, ih, and_assoc]

namespace Permuted

theorem list {ws vs : List Value} (h : List.Forall₂ Permuted ws vs) :
    (Value.list ws).Permuted (.list vs) := by
  simpa only [Permuted] using itemsPermuted_iff.mpr h

theorem tuple {ws vs : List Value} (h : List.Forall₂ Permuted ws vs) :
    (Value.tuple ws).Permuted (.tuple vs) := by
  simpa only [Permuted] using itemsPermuted_iff.mpr h

theorem object {ps qs rs : List (String × Value)} (hperm : rs.Perm qs)
    (h : List.Forall₂ (fun p q => p.1 = q.1 ∧ p.2.Permuted q.2) ps rs) :
    (Value.object ps).Permuted (.object qs) := by
  simpa only [Permuted] using ⟨rs, hperm, pairsPermuted_iff.mpr h⟩

mutual

theorem refl : ∀ v : Value, v.Permuted v
  | .null | .bool _ | .int _ | .float _ | .string _ | .bytes _ => by simp only [Permuted]
  | .list vs => list (refl_items vs)
  | .tuple vs => tuple (refl_items vs)
  | .object ps => object (.refl ps) (refl_pairs ps)

theorem refl_items : ∀ vs : List Value, List.Forall₂ Permuted vs vs
  | [] => .nil
  | v :: vs => .cons (refl v) (refl_items vs)

theorem refl_pairs : ∀ ps : List (String × Value),
    List.Forall₂ (fun p q : String × Value => p.1 = q.1 ∧ p.2.Permuted q.2) ps ps
  | [] => .nil
  | (_, v) :: ps => .cons ⟨rfl, refl v⟩ (refl_pairs ps)

end

end Permuted

end Conform.Value

import Conform.Proofs.Json.Members
import Conform.Proofs.Number.Integer
/-!
Values to documents, and back. A document comes back from its value as it was if its numbers are finite or
have 64 bits with a sign, and its members ascend; all documents of values are such.
-/

namespace Conform

namespace Json

/-! ## Documents that values hold -/

mutual

/-- Integers have 64 bits with a sign, other numbers are finite, and members ascend. -/
def Canonical : Json → Prop
  | null | bool _ | string _ => True
  | integer n => Integer.InRange n
  | number x => x.isFinite = true
  | array items => CanonicalItems items
  | object members => Ascending members ∧ CanonicalMembers members

def CanonicalItems : List Json → Prop
  | [] => True
  | j :: js => Canonical j ∧ CanonicalItems js

def CanonicalMembers : List (String × Json) → Prop
  | [] => True
  | (_, j) :: rest => Canonical j ∧ CanonicalMembers rest

end

theorem canonicalItems_iff {items : List Json} :
    CanonicalItems items ↔ ∀ j ∈ items, j.Canonical := by
  induction items with
  | nil => simp [CanonicalItems]
  | cons j items ih => simp [CanonicalItems, ih]

theorem canonicalMembers_iff {members : List (String × Json)} :
    CanonicalMembers members ↔ ∀ p ∈ members, p.2.Canonical := by
  induction members with
  | nil => simp [CanonicalMembers]
  | cons p members ih => simp [CanonicalMembers, ih]

mutual

theorem canonical_ofValue : (v : Value) → (ofValue v).Canonical
  | .null | .bool _ | .string _ => trivial
  | .int n => Integer.inRange_toInt n
  | .float x => by
    rw [ofValue]
    split
    · next h => exact h
    · exact trivial
  | .bytes data => by
    refine canonicalItems_iff.mpr fun j hj => ?_
    obtain ⟨b, _, rfl⟩ := List.mem_map.mp hj
    exact Integer.inRange_byte b
  | .list items => canonicalItems_iff.mpr (canonical_ofItems items)
  | .tuple items => canonicalItems_iff.mpr (canonical_ofItems items)
  | .object pairs => by
    refine ⟨ascending_gather _, canonicalMembers_iff.mpr fun p hp => ?_⟩
    exact canonical_ofPairs pairs p (mem_of_mem_gather hp)

theorem canonical_ofItems : (vs : List Value) → ∀ j ∈ ofItems vs, j.Canonical
  | [] => List.forall_mem_nil _
  | v :: vs => List.forall_mem_cons.mpr ⟨canonical_ofValue v, canonical_ofItems vs⟩

theorem canonical_ofPairs : (ps : List (String × Value)) → ∀ p ∈ ofPairs ps, p.2.Canonical
  | [] => List.forall_mem_nil _
  | (_, v) :: ps => List.forall_mem_cons.mpr ⟨canonical_ofValue v, canonical_ofPairs ps⟩

end

mutual

theorem ofValue_of_canonical : (j : Json) → j.Canonical → ofValue j.toValue = j
  | null, _ | bool _, _ | string _, _ => rfl
  | integer n, h => by
    have hn : (Int64.ofInt n).toInt = n := Int64.toInt_ofInt_of_le h.1 h.2
    rw [toValue, Integer.ofInt?_eq_some h, ofValue, hn]
  | number x, h => if_pos h
  | array items, h => by rw [toValue, ofValue, ofItems_of_canonical items h]
  | object members, h => by
    rw [toValue, ofValue, ofPairs_of_canonical members h.2, ofMembers_eq, h.1.gather_eq]

theorem ofItems_of_canonical : (js : List Json) → CanonicalItems js → ofItems (toItems js) = js
  | [], _ => rfl
  | j :: js, h => by
    rw [toItems, ofItems, ofValue_of_canonical j h.1, ofItems_of_canonical js h.2]

theorem ofPairs_of_canonical : (ms : List (String × Json)) → CanonicalMembers ms →
    ofPairs (toPairs ms) = ms
  | [], _ => rfl
  | (_, j) :: ms, h => by
    rw [toPairs, ofPairs, ofValue_of_canonical j h.1, ofPairs_of_canonical ms h.2]

end

/-- The documents that come back from their values as they were are those with ascending members, finite
numbers, and integers of 64 bits with a sign. -/
theorem ofValue_toValue_iff (j : Json) : ofValue j.toValue = j ↔ j.Canonical := by
  constructor
  · intro h
    rw [← h]
    exact canonical_ofValue j.toValue
  · exact ofValue_of_canonical j

end Json

end Conform

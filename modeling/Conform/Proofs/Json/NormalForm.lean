import Conform.Proofs.Json.RoundTrip
import Conform.Proofs.Spec.Normal
import Mathlib.Data.Finset.Sort
/-!
Normal forms of values: what is left of a value that went into a document and came back. Tuples and bytes
are lists then, floats that are no numbers are null, and of the pairs with a key the last is left.
-/

namespace Conform

namespace Json

theorem toPairs_eq_map (members : List (String × Json)) :
    toPairs members = members.map fun p => (p.1, p.2.toValue) := by
  induction members with
  | nil => rfl
  | cons p members ih => rw [toPairs, ih, List.map_cons]

theorem toItems_bytes (data : List UInt8) :
    toItems (data.map fun b => integer b.toNat) = data.map fun b => Value.int (.ofNat b.toNat) := by
  induction data with
  | nil => rfl
  | cons b data ih =>
    have hbyte : (integer b.toNat).toValue = .int (.ofNat b.toNat) := by
      rw [toValue, Integer.ofInt?_eq_some (Integer.inRange_byte b)]
      rfl
    rw [List.map_cons, List.map_cons, toItems, hbyte, ih]

end Json

namespace Value

/-- The last pair with each key, in ascending order of the keys. -/
def settled (pairs : List (String × Value)) : List (String × Value) :=
  (pairs.map (·.1)).toFinset.sort.filterMap fun key => (pairs.reverse.lookup key).map (key, ·)

mutual

/-- The value as a document can hold it. -/
def normalForm : Value → Value
  | null => null
  | bool b => bool b
  | int n => int n
  | float x => if x.isFinite then float x else null
  | string s => string s
  | bytes data => list (data.map fun b => int (.ofNat b.toNat))
  | list items => list (normalItems items)
  | tuple items => list (normalItems items)
  | object pairs => object (settled (normalPairs pairs))

def normalItems : List Value → List Value
  | [] => []
  | v :: vs => normalForm v :: normalItems vs

def normalPairs : List (String × Value) → List (String × Value)
  | [] => []
  | (key, v) :: ps => (key, normalForm v) :: normalPairs ps

end

open Json (Ascending lookup_cons_ite)

variable {pairs : List (String × Value)}

theorem ascending_settled (pairs : List (String × Value)) : Ascending (settled pairs) := by
  rw [Json.ascending_iff]
  have hkeys := (Finset.sortedLT_sort (pairs.map (·.1)).toFinset).pairwise
  refine List.Pairwise.filterMap _ ?_ hkeys
  intro key key' hlt p hp p' hp'
  obtain ⟨v, _, rfl⟩ := Option.map_eq_some_iff.mp hp
  obtain ⟨v', _, rfl⟩ := Option.map_eq_some_iff.mp hp'
  exact hlt

theorem lookup_filterMap_key (found : String → Option Value) (keys : List String) (key : String) :
    (keys.filterMap fun k => (found k).map (k, ·)).lookup key =
      if key ∈ keys then found key else none := by
  induction keys with
  | nil => rfl
  | cons k keys ih =>
    cases hfound : found k with
    | none =>
      rw [List.filterMap_cons_none (by rw [hfound]; rfl), ih]
      by_cases hkey : key = k
      · subst hkey
        simp [hfound]
      · simp [hkey]
    | some v =>
      rw [List.filterMap_cons_some (by rw [hfound]; rfl), lookup_cons_ite, ih]
      by_cases hkey : key = k
      · subst hkey
        simp [hfound]
      · simp [hkey]

/-- What is found under a key is the last that was there. -/
theorem lookup_settled (pairs : List (String × Value)) (key : String) :
    (settled pairs).lookup key = pairs.reverse.lookup key := by
  rw [settled, lookup_filterMap_key]
  split
  · rfl
  · next hkey =>
    rw [Finset.mem_sort, List.mem_toFinset] at hkey
    symm
    rw [lookup_eq_none_iff_key, List.map_reverse, List.mem_reverse]
    exact hkey

theorem normalPairs_eq_map (pairs : List (String × Value)) :
    normalPairs pairs = pairs.map fun p => (p.1, p.2.normalForm) := by
  induction pairs with
  | nil => rfl
  | cons p pairs ih => rw [normalPairs, ih, List.map_cons]

mutual

/-- A value comes back from its document in its normal form. -/
theorem toValue_ofValue : (v : Value) → (Json.ofValue v).toValue = v.normalForm
  | .null | .bool _ | .string _ => rfl
  | .int n => by
    rw [Json.ofValue, Json.toValue, Integer.ofInt?_eq_some (Integer.inRange_toInt n), Int64.ofInt_toInt]
    rfl
  | .float x => by
    rw [Json.ofValue, normalForm]
    split <;> rfl
  | .bytes data => by rw [Json.ofValue, Json.toValue, Json.toItems_bytes, normalForm]
  | .list items => by rw [Json.ofValue, Json.toValue, toItems_ofItems items, normalForm]
  | .tuple items => by rw [Json.ofValue, Json.toValue, toItems_ofItems items, normalForm]
  | .object pairs => by
    have hpairs := toPairs_ofPairs pairs
    rw [Json.ofValue, Json.ofMembers_eq, Json.toValue, normalForm]
    congr 1
    have hascending : Ascending (Json.toPairs (Json.gather (Json.ofPairs pairs))) := by
      rw [Json.toPairs_eq_map]
      exact (Json.ascending_gather _).map Json.toValue
    refine hascending.eq_of_lookup (ascending_settled _) fun key => ?_
    rw [lookup_settled, ← hpairs, Json.toPairs_eq_map, Json.toPairs_eq_map, ← List.map_reverse,
      Json.lookup_map_snd, Json.lookup_map_snd, Json.lookup_gather]

theorem toItems_ofItems : (vs : List Value) → Json.toItems (Json.ofItems vs) = normalItems vs
  | [] => rfl
  | v :: vs => by rw [Json.ofItems, Json.toItems, normalItems, toValue_ofValue v, toItems_ofItems vs]

theorem toPairs_ofPairs : (ps : List (String × Value)) → Json.toPairs (Json.ofPairs ps) = normalPairs ps
  | [] => rfl
  | (key, v) :: ps => by
    rw [Json.ofPairs, Json.toPairs, normalPairs, toValue_ofValue v, toPairs_ofPairs ps]

end

/-- A key that stands once at most is found from either end. -/
theorem lookup_reverse_of_count {key : String} (h : (pairs.map (·.1)).count key ≤ 1) :
    pairs.reverse.lookup key = pairs.lookup key := by
  induction pairs with
  | nil => rfl
  | cons p pairs ih =>
    obtain ⟨k, v⟩ := p
    rw [List.map_cons, List.count_cons] at h
    rw [List.reverse_cons, List.lookup_append, ih (by omega), lookup_cons_ite, lookup_cons_ite]
    by_cases hkey : key = k
    · subst hkey
      have hnone : pairs.lookup key = none := by
        rw [if_pos (beq_self_eq_true key)] at h
        rw [lookup_eq_none_iff_key, ← List.count_eq_zero]
        omega
      simp [hnone]
    · simp [hkey]

/-- The value after it went into a document and came back. -/
def throughDocument (v : Value) : Value := (Json.ofValue v).toValue

/-- A value comes back from its document in its normal form, and from there as it is. An object comes back
with ascending keys, and under each of them the normal form of the last value that was there; that is the
value which the key had, unless it stood twice. -/
theorem throughDocument_isNormal (v : Value) :
    v.throughDocument = v.normalForm ∧ v.throughDocument.throughDocument = v.throughDocument ∧
      ∀ pairs, v = object pairs →
        (∃ members, v.throughDocument = object members ∧ Ascending members ∧
          ∀ key, members.lookup key = (pairs.reverse.lookup key).map normalForm) ∧
        ∀ key, (pairs.map (·.1)).count key ≤ 1 →
          v.throughDocument.get? key = (v.get? key).map normalForm := by
  have hlast : ∀ (pairs : List (String × Value)) (key : String),
      (settled (normalPairs pairs)).lookup key = (pairs.reverse.lookup key).map normalForm := by
    intro pairs key
    rw [lookup_settled, normalPairs_eq_map, ← List.map_reverse, Json.lookup_map_snd]
  refine ⟨toValue_ofValue v, ?_, ?_⟩
  · have hcanonical := Json.ofValue_of_canonical _ (Json.canonical_ofValue v)
    rw [throughDocument, throughDocument, hcanonical]
  · rintro pairs rfl
    have hobject : (object pairs).throughDocument = object (settled (normalPairs pairs)) :=
      toValue_ofValue (object pairs)
    refine ⟨⟨_, hobject, ascending_settled _, hlast pairs⟩, fun key hkey => ?_⟩
    rw [hobject, get?, get?, hlast, lookup_reverse_of_count hkey]

/-- An object with a key that stands twice, out of order, and values that a document cannot hold. -/
def unsettled : Value :=
  object [("b", list []), ("a", float (.nan false)), ("b", tuple [int 1, bytes [255]])]

theorem throughDocument_isNormal_unsettled :
    unsettled.normalForm = object [("a", null), ("b", list [int 1, list [int 255]])] ∧
      unsettled.throughDocument.get? "a" = some null := by
  obtain ⟨hnormal, _, hobject⟩ := throughDocument_isNormal unsettled
  obtain ⟨_, hget⟩ := hobject _ rfl
  constructor
  · rw [← hnormal]
    decide +kernel
  · rw [hget "a" (by decide)]
    decide +kernel

end Value

end Conform

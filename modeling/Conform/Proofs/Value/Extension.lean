import Conform.Proofs.Spec.Normal
import Conform.Proofs.Value.Equality
/-!
Values that extend others. An object extends one whose keys it has, with extensions there of what the
other has; its excerpt is what it has under those keys. Anything else extends what it is loosely equal
to, and its excerpt is all of it.
-/

namespace Conform.Value

mutual

/-- The second value extends the first. -/
def ExtendedBy : Value → Value → Prop
  | object pairs, v => v.kind = .object ∧ PairsExtendedBy pairs v
  | u, v => v.looselyEqual u = true

def PairsExtendedBy : List (String × Value) → Value → Prop
  | [], _ => True
  | (key, u) :: pairs, v => (∃ own, v.get? key = some own ∧ ExtendedBy u own) ∧ PairsExtendedBy pairs v

end

mutual

/-- The third value is the excerpt of the second by the keys of the first. -/
def Excerpt : Value → Value → Value → Prop
  | object pairs, v, w => ∃ made, w = object made ∧ PairsExcerpt pairs v made
  | _, v, w => w = v

def PairsExcerpt : List (String × Value) → Value → List (String × Value) → Prop
  | [], _, made => made = []
  | (key, u) :: pairs, v, made => ∃ own w rest, v.get? key = some own ∧ Excerpt u own w ∧
      PairsExcerpt pairs v rest ∧ made = (key, w) :: rest

end

mutual

/-- No key stands twice in the value, nor in an object that stands in it under keys only. -/
def KeysDiffer : Value → Prop
  | object pairs => (pairs.map (·.1)).Nodup ∧ PairsKeysDiffer pairs
  | _ => True

def PairsKeysDiffer : List (String × Value) → Prop
  | [] => True
  | (_, v) :: pairs => KeysDiffer v ∧ PairsKeysDiffer pairs

end

/-- The second pair has the key of the first, and the excerpt of what the value has under it. -/
def PairExcerpt (v : Value) (pair own : String × Value) : Prop :=
  own.1 = pair.1 ∧ ∃ u, v.get? pair.1 = some u ∧ pair.2.Excerpt u own.2

/-- Every float in the value is a number. -/
def NumbersOnly (v : Value) : Prop := v.MadeOf fun w => ∀ x, w = float x → x.isNaN = false

section
variable {pairs made : List (String × Value)} {u v w : Value}

theorem extendedBy_object : (object pairs).ExtendedBy v ↔ v.kind = .object ∧
    ∀ pair ∈ pairs, ∃ own, v.get? pair.1 = some own ∧ pair.2.ExtendedBy own := by
  have hpairs : PairsExtendedBy pairs v ↔
      ∀ pair ∈ pairs, ∃ own, v.get? pair.1 = some own ∧ pair.2.ExtendedBy own := by
    induction pairs with
    | nil => simp [PairsExtendedBy]
    | cons pair pairs ih => simp [PairsExtendedBy, ih]
  rw [ExtendedBy, hpairs]

theorem extendedBy_of_ne (h : u.kind ≠ .object) :
    u.ExtendedBy v ↔ v.looselyEqual u = true := by
  cases u with
  | object => exact absurd rfl h
  | null | bool | int | float | string | bytes | list | tuple =>
    rw [ExtendedBy]
    nofun

theorem pairsExcerpt_iff :
    PairsExcerpt pairs v made ↔ List.Forall₂ (PairExcerpt v) pairs made := by
  induction pairs generalizing made with
  | nil => simp [PairsExcerpt]
  | cons pair pairs ih =>
    rw [List.forall₂_cons_left_iff, PairsExcerpt]
    constructor
    · rintro ⟨own, w, rest, hget, hw, hrest, rfl⟩
      exact ⟨(pair.1, w), rest, ⟨rfl, own, hget, hw⟩, ih.mp hrest, rfl⟩
    · rintro ⟨⟨key, w⟩, rest, ⟨rfl, own, hget, hw⟩, hrest, rfl⟩
      exact ⟨own, w, rest, hget, hw, ih.mpr hrest, rfl⟩

theorem excerpt_object : (object pairs).Excerpt v w ↔
    ∃ made, w = object made ∧ List.Forall₂ (PairExcerpt v) pairs made := by
  rw [Excerpt]
  simp only [pairsExcerpt_iff]

theorem excerpt_of_ne (h : u.kind ≠ .object) : u.Excerpt v w ↔ w = v := by
  cases u with
  | object => exact absurd rfl h
  | null | bool | int | float | string | bytes | list | tuple =>
    rw [Excerpt]
    nofun

theorem pairsKeysDiffer_iff : PairsKeysDiffer pairs ↔ ∀ pair ∈ pairs, pair.2.KeysDiffer := by
  induction pairs with
  | nil => simp [PairsKeysDiffer]
  | cons pair pairs ih => simp [PairsKeysDiffer, ih]

end

theorem IsScalar.kind_ne {v : Value} (h : v.IsScalar) : v.kind ≠ .object := by
  cases v with
  | null | bool | int | float | string | bytes => nofun
  | list | tuple | object => exact h.elim

/-- An extension has an excerpt. -/
theorem ExtendedBy.exists_excerpt {u v : Value} (h : u.ExtendedBy v) : ∃ w, u.Excerpt v w := by
  induction u using Value.induction generalizing v with
  | scalar u hscalar => exact ⟨v, (excerpt_of_ne hscalar.kind_ne).mpr rfl⟩
  | list | tuple => exact ⟨v, (excerpt_of_ne (by nofun)).mpr rfl⟩
  | object pairs ih =>
    obtain ⟨_, hpairs⟩ := extendedBy_object.mp h
    have hmade : ∃ made, PairsExcerpt pairs v made := by
      clear h
      induction pairs with
      | nil => exact ⟨[], pairsExcerpt_iff.mpr .nil⟩
      | cons pair pairs ihpairs =>
        obtain ⟨⟨own, hget, hown⟩, hrest⟩ := List.forall_mem_cons.mp hpairs
        obtain ⟨hfirst, hothers⟩ := List.forall_mem_cons.mp ih
        obtain ⟨w, hw⟩ := hfirst hown
        obtain ⟨rest, hrest⟩ := ihpairs hothers hrest
        exact ⟨(pair.1, w) :: rest, own, w, rest, hget, hw, hrest, rfl⟩
    obtain ⟨made, hmade⟩ := hmade
    exact ⟨object made, excerpt_object.mpr ⟨made, rfl, pairsExcerpt_iff.mp hmade⟩⟩

/-! ## Values that extend themselves -/

theorem scalarLooselyEqual_self {v : Value} (hscalar : v.IsScalar) (h : v.NumbersOnly) :
    scalarLooselyEqual v v = true := by
  cases v with
  | null => rfl
  | bool | int | string | bytes => exact beq_self_eq_true _
  | float x =>
    have hnumber := madeOf_float.mp h x rfl
    exact Double.equal_iff.mpr ⟨hnumber, hnumber, rfl⟩
  | list | tuple | object => exact hscalar.elim

theorem NumbersOnly.looselyEqual_self {v : Value} (h : v.NumbersOnly) : v.looselyEqual v = true := by
  unfold looselyEqual
  induction v using Value.induction with
  | scalar v hscalar =>
    rw [equalBy_scalar hscalar]
    exact scalarLooselyEqual_self hscalar h
  | list items ih =>
    exact equalBy_list.mpr (List.forall₂_same.mpr fun v hv => ih v hv (madeOf_list.mp h v hv))
  | tuple items ih =>
    exact equalBy_tuple.mpr (List.forall₂_same.mpr fun v hv => ih v hv (madeOf_tuple.mp h v hv))
  | object pairs ih =>
    refine equalBy_object.mpr (List.forall₂_same.mpr fun pair hpair => ⟨rfl, ?_⟩)
    exact ih pair hpair (madeOf_object.mp h pair hpair)

/-- A value of numbers is its own extension and its own excerpt, if its keys differ. -/
theorem NumbersOnly.extendedBy_self {v : Value} (h : v.NumbersOnly) (hkeys : v.KeysDiffer) :
    v.ExtendedBy v ∧ v.Excerpt v v := by
  induction v using Value.induction with
  | scalar v hscalar =>
    exact ⟨(extendedBy_of_ne hscalar.kind_ne).mpr h.looselyEqual_self,
      (excerpt_of_ne hscalar.kind_ne).mpr rfl⟩
  | list | tuple =>
    exact ⟨(extendedBy_of_ne (by nofun)).mpr h.looselyEqual_self, (excerpt_of_ne (by nofun)).mpr rfl⟩
  | object pairs ih =>
    obtain ⟨hnodup, hdiffer⟩ := hkeys
    have hget : ∀ pair ∈ pairs, (object pairs).get? pair.1 = some pair.2 :=
      fun pair hpair => lookup_of_mem_pair hnodup hpair
    have hself : ∀ pair ∈ pairs, pair.2.ExtendedBy pair.2 ∧ pair.2.Excerpt pair.2 pair.2 :=
      fun pair hpair =>
        ih pair hpair (madeOf_object.mp h pair hpair) (pairsKeysDiffer_iff.mp hdiffer pair hpair)
    constructor
    · exact extendedBy_object.mpr
        ⟨rfl, fun pair hpair => ⟨pair.2, hget pair hpair, (hself pair hpair).1⟩⟩
    · refine excerpt_object.mpr ⟨pairs, rfl, List.forall₂_same.mpr fun pair hpair => ⟨rfl, ?_⟩⟩
      exact ⟨pair.2, hget pair hpair, (hself pair hpair).2⟩

end Conform.Value

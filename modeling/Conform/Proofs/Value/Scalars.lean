import Conform.Value.Basic
/-!
Values and the scalars that they are made of. Whatever is no container is a scalar; what is shown for
scalars, and for containers from their members, holds for all values.
-/

namespace Conform.Value

def IsScalar : Value → Prop
  | null | bool _ | int _ | float _ | string _ | bytes _ => True
  | list _ | tuple _ | object _ => False

/-- What all scalars have, and every container whose members have it, all values have. -/
theorem induction {P : Value → Prop} (scalar : ∀ v, v.IsScalar → P v)
    (list : ∀ items, (∀ v ∈ items, P v) → P (list items))
    (tuple : ∀ items, (∀ v ∈ items, P v) → P (tuple items))
    (object : ∀ pairs, (∀ pair ∈ pairs, P pair.2) → P (object pairs)) (v : Value) : P v :=
  @Value.rec P (fun items => ∀ v ∈ items, P v) (fun pairs => ∀ pair ∈ pairs, P pair.2)
    (fun pair => P pair.2) (scalar _ trivial) (fun _ => scalar _ trivial) (fun _ => scalar _ trivial)
    (fun _ => scalar _ trivial) (fun _ => scalar _ trivial) (fun _ => scalar _ trivial) list tuple
    object (fun _ hv => absurd hv List.not_mem_nil)
    (fun _ _ hv hvs => List.forall_mem_cons.mpr ⟨hv, hvs⟩)
    (fun _ hpair => absurd hpair List.not_mem_nil)
    (fun _ _ hpair hpairs => List.forall_mem_cons.mpr ⟨hpair, hpairs⟩) (fun _ _ hv => hv) v

/-! ## What a value is made of -/

mutual

/-- Every scalar in the value, at any depth, has a property. -/
def MadeOf (p : Value → Prop) : Value → Prop
  | list items | tuple items => AllMadeOf p items
  | object pairs => PairsMadeOf p pairs
  | v => p v

def AllMadeOf (p : Value → Prop) : List Value → Prop
  | [] => True
  | v :: vs => MadeOf p v ∧ AllMadeOf p vs

def PairsMadeOf (p : Value → Prop) : List (String × Value) → Prop
  | [] => True
  | (_, v) :: pairs => MadeOf p v ∧ PairsMadeOf p pairs

end

/-- There is no float in the value. -/
def FloatFree (v : Value) : Prop := v.MadeOf fun w => w.kind ≠ .float

section
variable {p : Value → Prop} {items : List Value} {pairs : List (String × Value)} {v : Value}

theorem allMadeOf_iff : AllMadeOf p items ↔ ∀ v ∈ items, v.MadeOf p := by
  induction items with
  | nil => simp [AllMadeOf]
  | cons v vs ih => simp [AllMadeOf, ih]

theorem pairsMadeOf_iff : PairsMadeOf p pairs ↔ ∀ pair ∈ pairs, pair.2.MadeOf p := by
  induction pairs with
  | nil => simp [PairsMadeOf]
  | cons pair pairs ih => simp [PairsMadeOf, ih]

@[simp] theorem madeOf_list : (list items).MadeOf p ↔ ∀ v ∈ items, v.MadeOf p := by
  rw [MadeOf, allMadeOf_iff]

@[simp] theorem madeOf_tuple : (tuple items).MadeOf p ↔ ∀ v ∈ items, v.MadeOf p := by
  rw [MadeOf, allMadeOf_iff]

@[simp] theorem madeOf_object : (object pairs).MadeOf p ↔ ∀ pair ∈ pairs, pair.2.MadeOf p := by
  rw [MadeOf, pairsMadeOf_iff]

theorem madeOf_scalar (h : v.IsScalar) : v.MadeOf p ↔ p v := by
  cases v with
  | null | bool | int | float | string | bytes => rw [MadeOf] <;> nofun
  | list | tuple | object => exact h.elim

theorem MadeOf.imp {q : Value → Prop} (h : v.MadeOf p) (hpq : ∀ w, p w → q w) : v.MadeOf q := by
  induction v using Value.induction with
  | scalar v hscalar => exact (madeOf_scalar hscalar).mpr (hpq v ((madeOf_scalar hscalar).mp h))
  | list items ih => exact madeOf_list.mpr fun w hw => ih w hw (madeOf_list.mp h w hw)
  | tuple items ih => exact madeOf_tuple.mpr fun w hw => ih w hw (madeOf_tuple.mp h w hw)
  | object pairs ih =>
    exact madeOf_object.mpr fun pair hpair => ih pair hpair (madeOf_object.mp h pair hpair)

@[simp] theorem madeOf_int {n : Int64} : (int n).MadeOf p ↔ p (int n) := madeOf_scalar trivial

@[simp] theorem madeOf_float {x : Double} : (float x).MadeOf p ↔ p (float x) := madeOf_scalar trivial

end

end Conform.Value

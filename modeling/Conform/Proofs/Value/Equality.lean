import Conform.Proofs.Number.Rounding
import Conform.Proofs.Value.Scalars
import Conform.Value.Equality
import Mathlib.Data.List.Forall2
/-!
Equalities of values. What an equality of scalars has, the equality of values that it is extended to has as
well: it is transitive, or identity, on values of which the scalars allow it.
-/

namespace Conform.Value

/-- An equality of scalars that says nothing of containers. -/
def RelatesScalars (scalar : Value → Value → Bool) : Prop :=
  ∀ v w, scalar v w = true → v.IsScalar ∧ w.IsScalar

/-! ## Members -/

section
variable {scalar : Value → Value → Bool} {u v w : Value}

/-- The keys are the same, and the values equal. -/
def PairEqual (scalar : Value → Value → Bool) (p q : String × Value) : Prop :=
  p.1 = q.1 ∧ equalBy scalar p.2 q.2 = true

theorem itemsEqualBy_iff {xs ys : List Value} :
    itemsEqualBy scalar xs ys = true ↔ List.Forall₂ (fun x y => equalBy scalar x y = true) xs ys := by
  induction xs generalizing ys with
  | nil => cases ys <;> simp [itemsEqualBy]
  | cons x xs ih => cases ys <;> simp [itemsEqualBy, ih]

theorem pairsEqualBy_iff {ps qs : List (String × Value)} :
    pairsEqualBy scalar ps qs = true ↔ List.Forall₂ (PairEqual scalar) ps qs := by
  induction ps generalizing qs with
  | nil => cases qs <;> simp [pairsEqualBy]
  | cons p ps ih => cases qs <;> simp [pairsEqualBy, PairEqual, ih]

theorem equalBy_list {xs ys : List Value} : equalBy scalar (list xs) (list ys) = true ↔
    List.Forall₂ (fun x y => equalBy scalar x y = true) xs ys := by
  rw [equalBy, itemsEqualBy_iff]

theorem equalBy_tuple {xs ys : List Value} : equalBy scalar (tuple xs) (tuple ys) = true ↔
    List.Forall₂ (fun x y => equalBy scalar x y = true) xs ys := by
  rw [equalBy, itemsEqualBy_iff]

theorem equalBy_object {ps qs : List (String × Value)} :
    equalBy scalar (object ps) (object qs) = true ↔ List.Forall₂ (PairEqual scalar) ps qs := by
  rw [equalBy, pairsEqualBy_iff]

theorem equalBy_scalar (hv : v.IsScalar) : equalBy scalar v w = scalar v w := by
  cases v with
  | null | bool | int | float | string | bytes => rw [equalBy] <;> nofun
  | list | tuple | object => exact hv.elim

/-! ### What a container is equal to -/

section
variable (hscalar : RelatesScalars scalar)
include hscalar

theorem exists_list_of_equalBy {xs : List Value} (h : equalBy scalar (list xs) w = true) :
    ∃ ys, w = list ys ∧ List.Forall₂ (fun x y => equalBy scalar x y = true) xs ys := by
  cases w with
  | list ys => exact ⟨ys, rfl, equalBy_list.mp h⟩
  | null | bool | int | float | string | bytes | tuple | object =>
    rw [equalBy] at h
    · exact (hscalar _ _ h).1.elim
    all_goals nofun

theorem exists_tuple_of_equalBy {xs : List Value} (h : equalBy scalar (tuple xs) w = true) :
    ∃ ys, w = tuple ys ∧ List.Forall₂ (fun x y => equalBy scalar x y = true) xs ys := by
  cases w with
  | tuple ys => exact ⟨ys, rfl, equalBy_tuple.mp h⟩
  | null | bool | int | float | string | bytes | list | object =>
    rw [equalBy] at h
    · exact (hscalar _ _ h).1.elim
    all_goals nofun

theorem exists_object_of_equalBy {ps : List (String × Value)}
    (h : equalBy scalar (object ps) w = true) :
    ∃ qs, w = object qs ∧ List.Forall₂ (PairEqual scalar) ps qs := by
  cases w with
  | object qs => exact ⟨qs, rfl, equalBy_object.mp h⟩
  | null | bool | int | float | string | bytes | list | tuple =>
    rw [equalBy] at h
    · exact (hscalar _ _ h).1.elim
    all_goals nofun

end

/-! ## Transitivity -/

theorem forall₂_trans_of_mem {α : Type} {R S T : α → α → Prop} {xs ys zs : List α}
    (hR : List.Forall₂ R xs ys) (hS : List.Forall₂ S ys zs)
    (h : ∀ x ∈ xs, ∀ y ∈ ys, ∀ z ∈ zs, R x y → S y z → T x z) : List.Forall₂ T xs zs := by
  induction hR generalizing zs with
  | nil => cases hS with | nil => exact .nil
  | cons hxy _ ih =>
    cases hS with
    | cons hyz hyzs =>
      refine .cons (h _ (by simp) _ (by simp) _ (by simp) hxy hyz) (ih hyzs ?_)
      exact fun x hx y hy z hz => h x (by simp [hx]) y (by simp [hy]) z (by simp [hz])

section
variable {p q r : Value → Prop}

/-- Transitive is what relates scalars transitively, also where the three are related each in its own way. -/
theorem equalBy_trans {scalar' scalar'' : Value → Value → Bool} (hscalar : RelatesScalars scalar)
    (hscalar' : RelatesScalars scalar')
    (htrans : ∀ u v w, p u → q v → r w → scalar u v = true → scalar' v w = true →
      scalar'' u w = true)
    (hu : u.MadeOf p) (hv : v.MadeOf q) (hw : w.MadeOf r) (huv : equalBy scalar u v = true)
    (hvw : equalBy scalar' v w = true) : equalBy scalar'' u w = true := by
  induction u using Value.induction generalizing v w with
  | scalar u hus =>
    rw [equalBy_scalar hus] at huv ⊢
    have hvs := (hscalar u v huv).2
    rw [equalBy_scalar hvs] at hvw
    have hws := (hscalar' v w hvw).2
    rw [madeOf_scalar hus] at hu
    rw [madeOf_scalar hvs] at hv
    rw [madeOf_scalar hws] at hw
    exact htrans u v w hu hv hw huv hvw
  | list xs ih =>
    obtain ⟨ys, rfl, hxys⟩ := exists_list_of_equalBy hscalar huv
    obtain ⟨zs, rfl, hyzs⟩ := exists_list_of_equalBy hscalar' hvw
    rw [madeOf_list] at hu hv hw
    refine equalBy_list.mpr (forall₂_trans_of_mem hxys hyzs ?_)
    exact fun x hx y hy z hz => ih x hx (hu x hx) (hv y hy) (hw z hz)
  | tuple xs ih =>
    obtain ⟨ys, rfl, hxys⟩ := exists_tuple_of_equalBy hscalar huv
    obtain ⟨zs, rfl, hyzs⟩ := exists_tuple_of_equalBy hscalar' hvw
    rw [madeOf_tuple] at hu hv hw
    refine equalBy_tuple.mpr (forall₂_trans_of_mem hxys hyzs ?_)
    exact fun x hx y hy z hz => ih x hx (hu x hx) (hv y hy) (hw z hz)
  | object ps ih =>
    obtain ⟨qs, rfl, hpqs⟩ := exists_object_of_equalBy hscalar huv
    obtain ⟨rs, rfl, hqrs⟩ := exists_object_of_equalBy hscalar' hvw
    rw [madeOf_object] at hu hv hw
    refine equalBy_object.mpr (forall₂_trans_of_mem hpqs hqrs ?_)
    exact fun x hx y hy z hz hxy hyz =>
      ⟨hxy.1.trans hyz.1, ih x hx (hu x hx) (hv y hy) (hw z hz) hxy.2 hyz.2⟩

/-! ## Identity -/

theorem forall₂_iff_eq_of_mem {α : Type} {R : α → α → Prop} {xs ys : List α}
    (h : ∀ x ∈ xs, ∀ y ∈ ys, R x y ↔ x = y) : List.Forall₂ R xs ys ↔ xs = ys := by
  induction xs generalizing ys with
  | nil => cases ys <;> simp
  | cons x xs ih =>
    cases ys with
    | nil => simp
    | cons y ys =>
      rw [List.forall₂_cons, h x (by simp) y (by simp),
        ih fun x hx y hy => h x (by simp [hx]) y (by simp [hy]), List.cons.injEq]

/-- Identity is what relates no scalar but to itself. -/
theorem equalBy_iff_eq (hscalar : RelatesScalars scalar)
    (heq : ∀ v w, v.IsScalar → p v → p w → (scalar v w = true ↔ v = w)) (hv : v.MadeOf p)
    (hw : w.MadeOf p) : equalBy scalar v w = true ↔ v = w := by
  induction v using Value.induction generalizing w with
  | scalar v hvs =>
    rw [equalBy_scalar hvs]
    constructor
    · intro h
      rw [madeOf_scalar hvs] at hv
      rw [madeOf_scalar (hscalar v w h).2] at hw
      exact (heq v w hvs hv hw).mp h
    · rintro rfl
      rw [madeOf_scalar hvs] at hv
      exact (heq v v hvs hv hv).mpr rfl
  | list xs ih =>
    have hitems : ∀ {ys}, (list ys).MadeOf p →
        (List.Forall₂ (fun x y => equalBy scalar x y = true) xs ys ↔ xs = ys) := fun hys =>
      forall₂_iff_eq_of_mem fun x hx y hy =>
        ih x hx (madeOf_list.mp hv x hx) (madeOf_list.mp hys y hy)
    constructor
    · intro h
      obtain ⟨ys, rfl, hxys⟩ := exists_list_of_equalBy hscalar h
      exact congrArg list ((hitems hw).mp hxys)
    · rintro rfl
      exact equalBy_list.mpr ((hitems hv).mpr rfl)
  | tuple xs ih =>
    have hitems : ∀ {ys}, (tuple ys).MadeOf p →
        (List.Forall₂ (fun x y => equalBy scalar x y = true) xs ys ↔ xs = ys) := fun hys =>
      forall₂_iff_eq_of_mem fun x hx y hy =>
        ih x hx (madeOf_tuple.mp hv x hx) (madeOf_tuple.mp hys y hy)
    constructor
    · intro h
      obtain ⟨ys, rfl, hxys⟩ := exists_tuple_of_equalBy hscalar h
      exact congrArg tuple ((hitems hw).mp hxys)
    · rintro rfl
      exact equalBy_tuple.mpr ((hitems hv).mpr rfl)
  | object ps ih =>
    have hpairs : ∀ {qs}, (object qs).MadeOf p →
        (List.Forall₂ (PairEqual scalar) ps qs ↔ ps = qs) := fun hqs =>
      forall₂_iff_eq_of_mem fun x hx y hy => by
        rw [PairEqual, ih x hx (madeOf_object.mp hv x hx) (madeOf_object.mp hqs y hy),
          Prod.ext_iff]
    constructor
    · intro h
      obtain ⟨qs, rfl, hpqs⟩ := exists_object_of_equalBy hscalar h
      exact congrArg object ((hpairs hw).mp hpqs)
    · rintro rfl
      exact equalBy_object.mpr ((hpairs hv).mpr rfl)

end

end

/-! ## The two equalities -/

theorem relatesScalars_equal : RelatesScalars scalarEqual := by
  intro v w h
  cases v <;> cases w <;> first | exact ⟨trivial, trivial⟩ | cases h

theorem relatesScalars_looselyEqual : RelatesScalars scalarLooselyEqual := by
  intro v w h
  cases v <;> cases w <;> first | exact ⟨trivial, trivial⟩ | cases h

/-- Among scalars that are no floats, loosely equal are only those that are equal. -/
theorem scalarLooselyEqual_eq {v w : Value} (hv : v.kind ≠ .float) (hw : w.kind ≠ .float) :
    scalarLooselyEqual v w = scalarEqual v w := by
  cases v <;> cases w <;> first | rfl | exact absurd rfl hv | exact absurd rfl hw

theorem scalarEqual_iff_eq {v w : Value} (hscalar : v.IsScalar) (hv : v.kind ≠ .float) :
    scalarEqual v w = true ↔ v = w := by
  cases v with
  | null | bool | int | string | bytes => cases w <;> simp [scalarEqual]
  | float => exact absurd rfl hv
  | list | tuple | object => exact hscalar.elim

/-- What is no number is loosely equal to itself alone. -/
theorem eq_of_scalarLooselyEqual {v w : Value} (h : scalarLooselyEqual v w = true)
    (hint : v.kind ≠ .int) (hfloat : v.kind ≠ .float) : v = w := by
  have hscalar := (relatesScalars_looselyEqual v w h).1
  rw [scalarLooselyEqual] at h
  · exact (scalarEqual_iff_eq hscalar hfloat).mp h
  · rintro n _ rfl
    exact absurd rfl hint
  · rintro _ _ rfl
    exact absurd rfl hfloat

section
variable {v w : Value}

/-- Without floats equal is only a value to itself. -/
theorem FloatFree.equal_iff_eq (hv : v.FloatFree) (hw : w.FloatFree) :
    equal v w = true ↔ v = w :=
  equalBy_iff_eq relatesScalars_equal (fun _ _ hs hv _ => scalarEqual_iff_eq hs hv) hv hw

theorem FloatFree.looselyEqual_iff_eq (hv : v.FloatFree) (hw : w.FloatFree) :
    looselyEqual v w = true ↔ v = w := by
  refine equalBy_iff_eq relatesScalars_looselyEqual (fun v w hs hv hw => ?_) hv hw
  rw [scalarLooselyEqual_eq hv hw]
  exact scalarEqual_iff_eq hs hv

end

/-! ## Numbers -/

theorem looselyEqual_int_int {m n : Int64} : looselyEqual (int m) (int n) = true ↔ m = n := by
  rw [looselyEqual, equalBy_scalar (v := int m) trivial]
  exact beq_iff_eq

theorem looselyEqual_int_float (m : Int64) (x : Double) :
    looselyEqual (int m) (float x) = (Double.ofInt m.toInt).equal x :=
  equalBy_scalar (v := int m) trivial

theorem looselyEqual_float_int (x : Double) (n : Int64) :
    looselyEqual (float x) (int n) = (Double.ofInt n.toInt).equal x :=
  equalBy_scalar (v := float x) trivial

/-- Where a float among the first scalars is what an integer among them is rounded to, there is no other
integer among the second ones that is rounded to it too. -/
def TellsApart (p q : Value → Prop) : Prop :=
  ∀ (m n : Int64) (x : Double), p (int m) → p (float x) → q (int n) →
    (Double.ofInt m.toInt).equal x = true → (Double.ofInt n.toInt).equal x = true → m = n

section
variable {p q : Value → Prop}

theorem TellsApart.trans (h : TellsApart p q) (u v w : Value) (hu : p u) (hv : p v) (hw : q w)
    (huv : scalarLooselyEqual u v = true) (hvw : scalarLooselyEqual v w = true) :
    scalarLooselyEqual u w = true := by
  cases u with
  | int m =>
    cases v with
    | int k =>
      obtain rfl : m = k := by simpa [scalarLooselyEqual, scalarEqual] using huv
      exact hvw
    | float x =>
      cases w with
      | int n =>
        obtain rfl := h m n x hu hv hw huv hvw
        simp [scalarLooselyEqual, scalarEqual]
      | float y => exact Double.equal_trans huv hvw
      | null | bool | string | bytes | list | tuple | object => cases hvw
    | null | bool | string | bytes | list | tuple | object => cases huv
  | float x =>
    cases v with
    | int k =>
      cases w with
      | int n =>
        obtain rfl : k = n := by simpa [scalarLooselyEqual, scalarEqual] using hvw
        exact huv
      | float y => exact Double.equal_trans ((Double.equal_comm _ _).trans huv) hvw
      | null | bool | string | bytes | list | tuple | object => cases hvw
    | float y =>
      cases w with
      | int n =>
        exact Double.equal_trans hvw ((Double.equal_comm _ _).trans huv)
      | float z => exact Double.equal_trans huv hvw
      | null | bool | string | bytes | list | tuple | object => cases hvw
    | null | bool | string | bytes | list | tuple | object => cases huv
  | null | bool | string | bytes =>
    obtain rfl := eq_of_scalarLooselyEqual huv nofun nofun
    exact hvw
  | list | tuple | object => exact (relatesScalars_looselyEqual _ _ huv).1.elim

theorem TellsApart.looselyEqual_trans (h : TellsApart p q) {u v w : Value} (hu : u.MadeOf p)
    (hv : v.MadeOf p) (hw : w.MadeOf q) (huv : looselyEqual u v = true)
    (hvw : looselyEqual v w = true) : looselyEqual u w = true :=
  equalBy_trans relatesScalars_looselyEqual relatesScalars_looselyEqual h.trans hu hv hw huv hvw

end

end Conform.Value

import Conform.Proofs.Number.Rounding
import Conform.Proofs.Value.Scalars
import Conform.Value.Order
/-!
The order of all values. The other way round it says the reverse; whether it is transitive hangs on the
numbers, since integers compare with each other as they are but with floats as what they are rounded to.
-/

namespace Conform

/-! ## Outcomes in a row -/

/-- Where the first two outcomes do not say "greater", they settle the third. -/
def Settle (ab bc ac : Ordering) : Prop := ab.isLE → bc.isLE → ac = ab.then bc

namespace Settle

theorem compare {α : Type} [Ord α] [Std.TransOrd α] (a b c : α) :
    Settle (compare a b) (compare b c) (compare a c) := by
  intro hab hbc
  cases h : Ord.compare a b with
  | gt => simp [h] at hab
  | eq => simpa [h] using Std.TransCmp.congr_left h
  | lt =>
    cases h' : Ord.compare b c with
    | gt => simp [h'] at hbc
    | eq => exact Std.TransCmp.lt_of_lt_of_eq h h'
    | lt => exact Std.TransCmp.lt_trans h h'

/-- Outcomes that only count where those before them are equal. -/
theorem andThen {ab bc ac ab' bc' ac' : Ordering} (h : Settle ab bc ac)
    (h' : ab = .eq → bc = .eq → Settle ab' bc' ac') :
    Settle (ab.then ab') (bc.then bc') (ac.then ac') := by
  intro hab hbc
  obtain ⟨hab, hab'⟩ := Ordering.isLE_then_iff_and.mp hab
  obtain ⟨hbc, hbc'⟩ := Ordering.isLE_then_iff_and.mp hbc
  have hac := h hab hbc
  cases ab with
  | gt => simp at hab
  | lt => simp [hac]
  | eq =>
    cases bc with
    | gt => simp at hbc
    | lt =>
      cases ab' with
      | gt => simp at hab'
      | lt | eq => simp [hac]
    | eq => simpa [hac] using h' rfl rfl (by simpa using hab') (by simpa using hbc')

theorem isLE {ab bc ac : Ordering} (h : Settle ab bc ac) (hab : ab.isLE) (hbc : bc.isLE) :
    ac.isLE := by
  rw [h hab hbc]
  cases ab <;> simp_all

end Settle

/-- An outcome may be put first that differs from a later one only by being equal. -/
theorem eq_then_of_ne {o o' : Ordering} (h : o ≠ .eq → o = o') : o' = o.then o' := by
  cases o with
  | eq => rfl
  | lt => exact (h nofun).symm
  | gt => exact (h nofun).symm

/-! ## Lists -/

section
variable {α : Type} {cmp : α → α → Ordering}

theorem compareLex_swap {xs : List α} (h : ∀ x ∈ xs, ∀ y, cmp y x = (cmp x y).swap) (ys : List α) :
    List.compareLex cmp ys xs = (List.compareLex cmp xs ys).swap := by
  induction xs generalizing ys with
  | nil => cases ys <;> rfl
  | cons x xs ih =>
    obtain ⟨hx, hxs⟩ := List.forall_mem_cons.mp h
    cases ys with
    | nil => rfl
    | cons y ys =>
      rw [List.compareLex_cons_cons, List.compareLex_cons_cons, Ordering.swap_then, hx, ih hxs]

theorem compareLex_settle {xs ys zs : List α}
    (h : ∀ x ∈ xs, ∀ y ∈ ys, ∀ z ∈ zs, Settle (cmp x y) (cmp y z) (cmp x z)) :
    Settle (List.compareLex cmp xs ys) (List.compareLex cmp ys zs) (List.compareLex cmp xs zs) := by
  induction xs generalizing ys zs with
  | nil =>
    intro _ hyz
    cases ys with
    | nil =>
      rw [List.compareLex_nil_nil]
      rfl
    | cons y ys =>
      cases zs with
      | nil =>
        rw [List.compareLex_cons_nil] at hyz
        cases hyz
      | cons z zs => rfl
  | cons x xs ih =>
    cases ys with
    | nil =>
      intro hxy
      rw [List.compareLex_cons_nil] at hxy
      cases hxy
    | cons y ys =>
      cases zs with
      | nil =>
        intro _ hyz
        rw [List.compareLex_cons_nil] at hyz
        cases hyz
      | cons z zs =>
        simp only [List.compareLex_cons_cons]
        refine Settle.andThen (h x (by simp) y (by simp) z (by simp)) fun _ _ => ih ?_
        exact fun x hx y hy z hz => h x (by simp [hx]) y (by simp [hy]) z (by simp [hz])

theorem compareLex_eq_iff {xs ys : List α} (h : ∀ x ∈ xs, ∀ y ∈ ys, cmp x y = .eq ↔ x = y) :
    List.compareLex cmp xs ys = .eq ↔ xs = ys := by
  induction xs generalizing ys with
  | nil => cases ys <;> simp [List.compareLex_nil_nil, List.compareLex_nil_cons]
  | cons x xs ih =>
    cases ys with
    | nil => simp [List.compareLex_cons_nil]
    | cons y ys =>
      rw [List.compareLex_cons_cons, Ordering.then_eq_eq, h x (by simp) y (by simp),
        ih fun x hx y hy => h x (by simp [hx]) y (by simp [hy]), List.cons.injEq]

end

namespace Value

/-! ## Kinds -/

/-- The double that a number is, or is rounded to. -/
inductive RoundsTo : Value → Double → Prop
  | int (n : Int64) : RoundsTo (int n) (.ofInt n.toInt)
  | float (x : Double) : RoundsTo (float x) x

/-- Both are numbers, or they are of one kind. -/
inductive Alike : Value → Value → Prop
  | null : Alike null null
  | bool (a b : Bool) : Alike (bool a) (bool b)
  | number {v w : Value} {x y : Double} : v.RoundsTo x → w.RoundsTo y → Alike v w
  | string (s t : String) : Alike (string s) (string t)
  | bytes (s t : List UInt8) : Alike (bytes s) (bytes t)
  | list (xs ys : List Value) : Alike (list xs) (list ys)
  | tuple (xs ys : List Value) : Alike (tuple xs) (tuple ys)
  | object (ps qs : List (String × Value)) : Alike (object ps) (object qs)

theorem alike_of_rank {a b : Value} (h : a.rank = b.rank) : Alike a b := by
  cases a <;> cases b <;> cases h
  case null.null => exact .null
  case bool.bool => exact .bool _ _
  case string.string => exact .string _ _
  case bytes.bytes => exact .bytes _ _
  case list.list => exact .list _ _
  case tuple.tuple => exact .tuple _ _
  case object.object => exact .object _ _
  case int.int | int.float | float.int | float.float =>
    exact .number (by constructor) (by constructor)

theorem RoundsTo.isScalar {v : Value} {x : Double} (h : v.RoundsTo x) : v.IsScalar := by
  cases h <;> exact trivial

theorem Alike.exists_roundsTo {v w : Value} {x : Double} (h : Alike v w) (hv : v.RoundsTo x) :
    ∃ y, w.RoundsTo y := by
  cases h with
  | number _ hw => exact ⟨_, hw⟩
  | null | bool | string | bytes | list | tuple | object => nomatch hv

theorem totalCompare_of_rank_ne {a b : Value} (h : a.rank ≠ b.rank) :
    totalCompare a b = compare a.rank b.rank := by
  cases a <;> cases b <;> first | rfl | exact absurd rfl h

/-- The rank comes first. -/
theorem totalCompare_eq_then (a b : Value) :
    totalCompare a b = (compare a.rank b.rank).then (totalCompare a b) := by
  refine eq_then_of_ne fun hne => (totalCompare_of_rank_ne fun h => hne ?_).symm
  exact Nat.compare_eq_eq.mpr h

/-! ## Members -/

/-- Pairs compare by key, then by value. -/
def comparePair (p q : String × Value) : Ordering :=
  (compare p.1 q.1).then (totalCompare p.2 q.2)

theorem totalCompareItems_eq (xs ys : List Value) :
    totalCompareItems xs ys = List.compareLex totalCompare xs ys := by
  induction xs generalizing ys with
  | nil => cases ys <;> rfl
  | cons x xs ih =>
    cases ys with
    | nil => rfl
    | cons y ys => rw [totalCompareItems, ih, List.compareLex_cons_cons]

theorem totalComparePairs_eq (ps qs : List (String × Value)) :
    totalComparePairs ps qs = List.compareLex comparePair ps qs := by
  induction ps generalizing qs with
  | nil => cases qs <;> rfl
  | cons p ps ih =>
    cases qs with
    | nil => rfl
    | cons q qs =>
      obtain ⟨k, x⟩ := p
      obtain ⟨l, y⟩ := q
      rw [totalComparePairs, ih, List.compareLex_cons_cons, comparePair]

theorem totalCompare_list (xs ys : List Value) :
    totalCompare (list xs) (list ys) = List.compareLex totalCompare xs ys := by
  rw [totalCompare, totalCompareItems_eq]

theorem totalCompare_tuple (xs ys : List Value) :
    totalCompare (tuple xs) (tuple ys) = List.compareLex totalCompare xs ys := by
  rw [totalCompare, totalCompareItems_eq]

theorem totalCompare_object (ps qs : List (String × Value)) :
    totalCompare (object ps) (object qs) = List.compareLex comparePair ps qs := by
  rw [totalCompare, totalComparePairs_eq]

/-! ## Numbers -/

/-- How two integers stand to each other; what stands next to a float has been compared by then. -/
def tieBreak : Value → Value → Ordering
  | int m, int n => compare m n
  | _, _ => .eq

section
variable {v w : Value} {x y : Double}

/-- What integers are rounded to does not stand the other way round. -/
theorem compare_eq_then_compare (m n : Int64) : compare m n =
    (compare (Double.ofInt m.toInt).rank (Double.ofInt n.toInt).rank).then (compare m n) := by
  refine eq_then_of_ne fun hne => ?_
  rcases lt_trichotomy (Double.ofInt m.toInt).rank (Double.ofInt n.toInt).rank with hlt | heq | hgt
  · have hmn : m.toInt < n.toInt := lt_of_not_ge fun h => (Double.rank_ofInt_mono h).not_gt hlt
    rw [Std.compare_eq_lt.mpr hlt, Std.compare_eq_lt.mpr (Int64.lt_iff_toInt_lt.mpr hmn)]
  · exact absurd (Std.compare_eq_iff_eq.mpr heq) hne
  · have hnm : n.toInt < m.toInt := lt_of_not_ge fun h => (Double.rank_ofInt_mono h).not_gt hgt
    rw [Std.compare_eq_gt.mpr hgt, Std.compare_eq_gt.mpr (Int64.lt_iff_toInt_lt.mpr hnm)]

/-- Numbers compare as what they are rounded to, and integers then as what they are. -/
theorem totalCompare_numbers (hv : v.RoundsTo x) (hw : w.RoundsTo y) :
    totalCompare v w = (compare x.rank y.rank).then (tieBreak v w) := by
  cases hv with
  | float x => cases hw <;> exact Ordering.then_eq.symm
  | int m =>
    cases hw with
    | float y => exact Ordering.then_eq.symm
    | int n => exact compare_eq_then_compare m n

theorem tieBreak_swap (v w : Value) : tieBreak w v = (tieBreak v w).swap := by
  cases v with
  | int m =>
    cases w with
    | int n => exact Std.OrientedOrd.eq_swap
    | null | bool | float | string | bytes | list | tuple | object => rfl
  | null | bool | float | string | bytes | list | tuple | object => cases w <;> rfl

end

/-! ## The other way round -/

section
variable {a b : Value}

theorem swap_of_alike (h : Alike a b → totalCompare b a = (totalCompare a b).swap) :
    totalCompare b a = (totalCompare a b).swap := by
  by_cases hrank : a.rank = b.rank
  · exact h (alike_of_rank hrank)
  · rw [totalCompare_of_rank_ne hrank, totalCompare_of_rank_ne (Ne.symm hrank)]
    exact Std.OrientedCmp.eq_swap

theorem comparePair_swap {p : String × Value}
    (h : ∀ b, totalCompare b p.2 = (totalCompare p.2 b).swap) (q : String × Value) :
    comparePair q p = (comparePair p q).swap := by
  rw [comparePair, comparePair, Ordering.swap_then, h]
  congr 1
  exact Std.OrientedCmp.eq_swap

theorem totalCompare_swap (a b : Value) : totalCompare b a = (totalCompare a b).swap := by
  induction a using Value.induction generalizing b with
  | scalar a ha =>
    refine swap_of_alike fun h => ?_
    cases h with
    | null => rfl
    | bool b c | string s t | bytes s t =>
      simp only [totalCompare]
      exact Std.OrientedCmp.eq_swap
    | number hv hw =>
      rw [totalCompare_numbers hv hw, totalCompare_numbers hw hv, Ordering.swap_then,
        ← tieBreak_swap]
      congr 1
      exact Std.OrientedCmp.eq_swap
    | list | tuple | object => exact ha.elim
  | list xs ih =>
    refine swap_of_alike fun h => ?_
    cases h with
    | number hv => nomatch hv
    | list _ ys =>
      rw [totalCompare_list, totalCompare_list]
      exact compareLex_swap ih ys
  | tuple xs ih =>
    refine swap_of_alike fun h => ?_
    cases h with
    | number hv => nomatch hv
    | tuple _ ys =>
      rw [totalCompare_tuple, totalCompare_tuple]
      exact compareLex_swap ih ys
  | object ps ih =>
    refine swap_of_alike fun h => ?_
    cases h with
    | number hv => nomatch hv
    | object _ qs =>
      rw [totalCompare_object, totalCompare_object]
      exact compareLex_swap (fun p hp => comparePair_swap (ih p hp)) qs

end

/-! ## Transitivity -/

/-- No float among the scalars is what two different integers among them are rounded to. -/
def Unblurred (p : Value → Prop) : Prop :=
  ∀ m n : Int64, p (int m) → p (int n) → p (float (.ofInt m.toInt)) →
    Double.ofInt m.toInt = .ofInt n.toInt → m = n

section
variable {p : Value → Prop} {a b c : Value}

theorem settle_of_alike
    (h : Alike a b → Alike b c → Settle (totalCompare a b) (totalCompare b c) (totalCompare a c)) :
    Settle (totalCompare a b) (totalCompare b c) (totalCompare a c) := by
  rw [totalCompare_eq_then a b, totalCompare_eq_then b c, totalCompare_eq_then a c]
  refine (Settle.compare a.rank b.rank c.rank).andThen fun hab hbc => h ?_ ?_
  · exact alike_of_rank (Nat.compare_eq_eq.mp hab)
  · exact alike_of_rank (Nat.compare_eq_eq.mp hbc)

theorem Unblurred.tieBreak_eq (hp : Unblurred p) {x : Double} (hx : p (float x))
    (ha : a.RoundsTo x) (hb : b.RoundsTo x) (hpa : p a) (hpb : p b) : tieBreak a b = .eq := by
  cases ha with
  | float => cases hb <;> rfl
  | int m =>
    generalize hround : Double.ofInt m.toInt = x at hx hb
    cases hb with
    | float => rfl
    | int n =>
      obtain rfl := hp m n hpa hpb (hround ▸ hx) hround
      exact Std.compare_self

theorem Unblurred.settle_numbers (hp : Unblurred p) {x y z : Double} (ha : a.RoundsTo x)
    (hb : b.RoundsTo y) (hc : c.RoundsTo z) (hpa : p a) (hpb : p b) (hpc : p c) :
    Settle (totalCompare a b) (totalCompare b c) (totalCompare a c) := by
  rw [totalCompare_numbers ha hb, totalCompare_numbers hb hc, totalCompare_numbers ha hc]
  refine (Settle.compare x.rank y.rank z.rank).andThen fun hab hbc => ?_
  obtain rfl := Double.rank_injective (Std.compare_eq_iff_eq.mp hab)
  obtain rfl := Double.rank_injective (Std.compare_eq_iff_eq.mp hbc)
  by_cases hx : p (float x)
  · intro _ _
    rw [hp.tieBreak_eq hx ha hb hpa hpb, hp.tieBreak_eq hx hb hc hpb hpc,
      hp.tieBreak_eq hx ha hc hpa hpc]
    rfl
  -- Without a float at this place there are three integers, which compare as they are.
  · cases ha with
    | float => exact absurd hpa hx
    | int m =>
      generalize Double.ofInt m.toInt = x at hx hb hc
      cases hb with
      | float => exact absurd hpb hx
      | int k =>
        generalize Double.ofInt k.toInt = x at hx hc
        cases hc with
        | float => exact absurd hpc hx
        | int n => exact Settle.compare m k n

theorem settle_comparePair {q r s : String × Value}
    (h : Settle (totalCompare q.2 r.2) (totalCompare r.2 s.2) (totalCompare q.2 s.2)) :
    Settle (comparePair q r) (comparePair r s) (comparePair q s) :=
  (Settle.compare q.1 r.1 s.1).andThen fun _ _ => h

/-- Where no float is the rounding of two integers, how two values stand to each other is settled by
how they stand to a third. -/
theorem Unblurred.settle (hp : Unblurred p) (ha : a.MadeOf p) (hb : b.MadeOf p) (hc : c.MadeOf p) :
    Settle (totalCompare a b) (totalCompare b c) (totalCompare a c) := by
  induction a using Value.induction generalizing b c with
  | scalar a hscalar =>
    refine settle_of_alike fun hab hbc => ?_
    cases hab with
    | null =>
      cases hbc with
      | number hv => nomatch hv
      | null => exact fun _ _ => rfl
    | bool u v =>
      cases hbc with
      | number hv => nomatch hv
      | bool _ w => exact Settle.compare u v w
    | string u v =>
      cases hbc with
      | number hv => nomatch hv
      | string _ w => exact Settle.compare u v w
    | bytes u v =>
      cases hbc with
      | number hv => nomatch hv
      | bytes _ w => exact Settle.compare u v w
    | number hu hv =>
      obtain ⟨_, hw⟩ := hbc.exists_roundsTo hv
      exact hp.settle_numbers hu hv hw ((madeOf_scalar hu.isScalar).mp ha)
        ((madeOf_scalar hv.isScalar).mp hb) ((madeOf_scalar hw.isScalar).mp hc)
    | list | tuple | object => exact hscalar.elim
  | list xs ih =>
    refine settle_of_alike fun hab hbc => ?_
    cases hab with
    | number hv => nomatch hv
    | list _ ys =>
      cases hbc with
      | number hv => nomatch hv
      | list _ zs =>
        rw [madeOf_list] at ha hb hc
        simp only [totalCompare_list]
        exact compareLex_settle fun x hx y hy z hz => ih x hx (ha x hx) (hb y hy) (hc z hz)
  | tuple xs ih =>
    refine settle_of_alike fun hab hbc => ?_
    cases hab with
    | number hv => nomatch hv
    | tuple _ ys =>
      cases hbc with
      | number hv => nomatch hv
      | tuple _ zs =>
        rw [madeOf_tuple] at ha hb hc
        simp only [totalCompare_tuple]
        exact compareLex_settle fun x hx y hy z hz => ih x hx (ha x hx) (hb y hy) (hc z hz)
  | object ps ih =>
    refine settle_of_alike fun hab hbc => ?_
    cases hab with
    | number hv => nomatch hv
    | object _ qs =>
      cases hbc with
      | number hv => nomatch hv
      | object _ rs =>
        rw [madeOf_object] at ha hb hc
        simp only [totalCompare_object]
        exact compareLex_settle fun q hq r hr s hs =>
          settle_comparePair (ih q hq (ha q hq) (hb r hr) (hc s hs))

/-- The other way round the order always says the reverse. On the values made of given scalars it is a
total one exactly if no float among these is what two different integers among them are rounded to. -/
theorem totalCompare_isOrder_iff (p : Value → Prop) :
    (∀ a b, totalCompare b a = (totalCompare a b).swap) ∧
      ((∀ a b c, a.MadeOf p → b.MadeOf p → c.MadeOf p →
          (totalCompare a b).isLE → (totalCompare b c).isLE → (totalCompare a c).isLE) ↔
        Unblurred p) := by
  refine ⟨totalCompare_swap, ⟨?_, fun hp _ _ _ ha hb hc => (hp.settle ha hb hc).isLE⟩⟩
  intro htrans m n hm hn hx hround
  -- Both integers compare as equal with the float, so each is at most the other.
  have hfloat : ∀ k : Int64, Double.ofInt m.toInt = .ofInt k.toInt →
      totalCompare (int k) (float (.ofInt m.toInt)) = .eq ∧
        totalCompare (float (.ofInt m.toInt)) (int k) = .eq := by
    intro k hk
    rw [hk]
    exact ⟨Std.compare_self, Std.compare_self⟩
  obtain ⟨hmx, hxm⟩ := hfloat m rfl
  obtain ⟨hnx, hxn⟩ := hfloat n hround
  have hle := htrans (int m) (float (.ofInt m.toInt)) (int n) (madeOf_int.mpr hm)
    (madeOf_float.mpr hx) (madeOf_int.mpr hn) (by rw [hmx]; rfl) (by rw [hxn]; rfl)
  have hge := htrans (int n) (float (.ofInt m.toInt)) (int m) (madeOf_int.mpr hn)
    (madeOf_float.mpr hx) (madeOf_int.mpr hm) (by rw [hnx]; rfl) (by rw [hxm]; rfl)
  exact Std.compare_eq_iff_eq.mp (Std.OrientedCmp.isLE_antisymm hle hge)

/-- 2 ^ 53 and the integer after it are rounded to one double, which is equal to both. -/
theorem totalCompare_intransitive :
    totalCompare (int 9007199254740993) (float ⟨false, 1076, 0⟩) = .eq ∧
      totalCompare (float ⟨false, 1076, 0⟩) (int 9007199254740992) = .eq ∧
      totalCompare (int 9007199254740993) (int 9007199254740992) = .gt := by
  decide +kernel

/-- Integers up to 2 ^ 53 on either side of zero, and whatever else is no container. -/
def IsExact : Value → Prop
  | int n => n.toInt.natAbs ≤ 2 ^ 53
  | _ => True

theorem unblurred_isExact : Unblurred IsExact := fun _ _ hm hn _ h =>
  Int64.toInt_inj.mp (Double.place_ofInt_injective hm hn (congrArg Double.place h))

/-- As long as the integers are doubles exactly, the order is a total one. -/
theorem totalCompare_isOrder_exact : Unblurred IsExact ∧
    ∀ a b c : Value, a.MadeOf IsExact → b.MadeOf IsExact → c.MadeOf IsExact →
      (totalCompare a b).isLE → (totalCompare b c).isLE → (totalCompare a c).isLE :=
  ⟨unblurred_isExact, (totalCompare_isOrder_iff IsExact).2.mpr unblurred_isExact⟩

/-! ## Values without floats -/

theorem unblurred_floatFree : Unblurred fun v => v.kind ≠ .float :=
  fun _ _ _ _ hx _ => absurd rfl hx

theorem totalCompare_eq_iff_of_alike (h : Alike a b → (totalCompare a b = .eq ↔ a = b)) :
    totalCompare a b = .eq ↔ a = b := by
  by_cases hrank : a.rank = b.rank
  · exact h (alike_of_rank hrank)
  · rw [totalCompare_of_rank_ne hrank, Nat.compare_eq_eq]
    exact ⟨fun heq => absurd heq hrank, fun heq => absurd (congrArg rank heq) hrank⟩

theorem comparePair_eq_iff {q r : String × Value}
    (h : totalCompare q.2 r.2 = .eq ↔ q.2 = r.2) : comparePair q r = .eq ↔ q = r := by
  rw [comparePair, Ordering.then_eq_eq, Std.compare_eq_iff_eq, h, Prod.ext_iff]

/-- Without floats only a value itself is equal to it. -/
theorem FloatFree.totalCompare_eq_iff (ha : a.FloatFree) (hb : b.FloatFree) :
    totalCompare a b = .eq ↔ a = b := by
  unfold FloatFree at ha hb
  induction a using Value.induction generalizing b with
  | scalar a hscalar =>
    refine totalCompare_eq_iff_of_alike fun h => ?_
    cases h with
    | null => exact iff_of_true rfl rfl
    | bool u v | string u v | bytes u v =>
      simp only [totalCompare, Std.compare_eq_iff_eq, bool.injEq, string.injEq, bytes.injEq]
    | number hu hv =>
      have hu' := (madeOf_scalar hu.isScalar).mp ha
      have hv' := (madeOf_scalar hv.isScalar).mp hb
      cases hu with
      | float => exact absurd rfl hu'
      | int m =>
        cases hv with
        | float => exact absurd rfl hv'
        | int n => simp only [totalCompare, Std.compare_eq_iff_eq, int.injEq]
    | list | tuple | object => exact hscalar.elim
  | list xs ih =>
    refine totalCompare_eq_iff_of_alike fun h => ?_
    cases h with
    | number hv => nomatch hv
    | list _ ys =>
      rw [madeOf_list] at ha hb
      rw [totalCompare_list, list.injEq]
      exact compareLex_eq_iff fun x hx y hy => ih x hx (ha x hx) (hb y hy)
  | tuple xs ih =>
    refine totalCompare_eq_iff_of_alike fun h => ?_
    cases h with
    | number hv => nomatch hv
    | tuple _ ys =>
      rw [madeOf_tuple] at ha hb
      rw [totalCompare_tuple, tuple.injEq]
      exact compareLex_eq_iff fun x hx y hy => ih x hx (ha x hx) (hb y hy)
  | object ps ih =>
    refine totalCompare_eq_iff_of_alike fun h => ?_
    cases h with
    | number hv => nomatch hv
    | object _ qs =>
      rw [madeOf_object] at ha hb
      rw [totalCompare_object, object.injEq]
      exact compareLex_eq_iff fun q hq r hr => comparePair_eq_iff (ih q hq (ha q hq) (hb r hr))

end

end Value

end Conform

import Conform.Proofs.Number.Rounding
import Conform.Session.Check
import Conform.Spec.Build
/-!
The specs that answer from the value alone. The ordering specs agree with each other and with equality:
wherever two values compare at all, one of less, equal and greater holds of them.
-/

namespace Conform

/-! ## Verdicts -/

namespace Build

/-- The build comes to a spec in any session, and in any session the spec accepts the value as it is, or
rejects it. -/
def Verdict (x : Build Spec) (v : Value) (accepted : Bool) : Prop :=
  ∀ s, ∃ spec t, x.run s = (.ok spec, t) ∧
    ∀ u, Check.conform spec v u = some (.ofBool accepted v, u)

theorem Verdict.unique {x : Build Spec} {v : Value} {accepted accepted' : Bool}
    (h : Verdict x v accepted) (h' : Verdict x v accepted') : accepted = accepted' := by
  obtain ⟨spec, t, hrun, hconform⟩ := h .empty
  obtain ⟨spec', t', hrun', hconform'⟩ := h' .empty
  obtain rfl := Except.ok.inj (Prod.mk.inj (hrun.symm.trans hrun')).1
  have heq := (hconform .empty).symm.trans (hconform' .empty)
  cases accepted <;> cases accepted' <;> first | rfl | cases heq

theorem verdict_predicate (description : String) (check : Value → Bool) (v : Value) :
    Verdict (predicate (.pure description check)) v (check v) := fun _ =>
  ⟨_, _, rfl, fun _ => rfl⟩

theorem verdict_equalTo (expected v : Value) :
    Verdict (equalTo expected) v (v.looselyEqual expected) := fun _ =>
  ⟨_, _, rfl, fun _ => rfl⟩

end Build

/-! ## What compares -/

namespace Value

/-- Integers, and the floats that are numbers. -/
def IsNumber : Value → Prop
  | int _ => True
  | float x => x.isNaN = false
  | _ => False

/-- Two numbers, or two values of one of the kinds that are ordered. -/
inductive Comparable : Value → Value → Prop
  | numbers {a b : Value} : a.IsNumber → b.IsNumber → Comparable a b
  | strings (s t : String) : Comparable (string s) (string t)
  | bytes (s t : List UInt8) : Comparable (bytes s) (bytes t)
  | bools (a b : Bool) : Comparable (bool a) (bool b)

/-- The two values compare so, the other way round as the reverse, and are equal if neither is less. -/
structure Agree (a b : Value) (o : Ordering) : Prop where
  compares : a.compare? b = some o
  reverse : b.compare? a = some o.swap
  equal : a.looselyEqual b = (o == .eq)

section
variable {a b : Value}

theorem Agree.of_compare {α : Type} [Ord α] [BEq α] [LawfulBEq α] [Std.LawfulEqOrd α]
    [Std.OrientedOrd α] {s t : α} (hcompares : a.compare? b = some (compare s t))
    (hreverse : b.compare? a = some (compare t s)) (hequal : a.looselyEqual b = (s == t)) :
    Agree a b (compare s t) where
  compares := hcompares
  reverse := by rw [hreverse, Std.OrientedOrd.eq_swap (a := t)]
  equal := by rw [hequal, Bool.eq_iff_iff, beq_iff_eq, beq_iff_eq, Std.compare_eq_iff_eq]

theorem Agree.of_doubles {x y : Double} (hx : x.isNaN = false) (hy : y.isNaN = false)
    (hcompares : a.compare? b = x.compare? y) (hreverse : b.compare? a = y.compare? x)
    (hequal : a.looselyEqual b = x.equal y) : Agree a b (compare x.place y.place) := by
  refine .of_compare ?_ ?_ ?_
  · rw [hcompares, Double.compare?_of_numbers hx hy]
  · rw [hreverse, Double.compare?_of_numbers hy hx]
  · rw [hequal, Bool.eq_iff_iff, Double.equal_iff, beq_iff_eq]
    exact ⟨fun h => h.2.2, fun h => ⟨hx, hy, h⟩⟩

theorem Comparable.agree (h : Comparable a b) : ∃ o, Agree a b o := by
  cases h with
  | strings s t => exact ⟨_, .of_compare (s := s) (t := t) rfl rfl rfl⟩
  | bytes s t => exact ⟨_, .of_compare (s := s) (t := t) rfl rfl rfl⟩
  | bools c d => exact ⟨_, .of_compare (s := c) (t := d) rfl rfl rfl⟩
  | numbers ha hb =>
    cases a with
    | int m =>
      cases b with
      | int n => exact ⟨_, .of_compare (s := m) (t := n) rfl rfl rfl⟩
      | float y => exact ⟨_, .of_doubles (Double.isNaN_ofInt _) hb rfl rfl rfl⟩
      | null | bool | string | bytes | list | tuple | object => exact hb.elim
    | float x =>
      cases b with
      | int n =>
        exact ⟨_, .of_doubles ha (Double.isNaN_ofInt _) rfl rfl (Double.equal_comm _ _)⟩
      | float y => exact ⟨_, .of_doubles ha hb rfl rfl rfl⟩
      | null | bool | string | bytes | list | tuple | object => exact hb.elim
    | null | bool | string | bytes | list | tuple | object => exact ha.elim

/-- Nothing else compares. -/
theorem Comparable.of_compare? {o : Ordering} (h : a.compare? b = some o) : Comparable a b := by
  cases a with
  | int m =>
    cases b with
    | int n => exact .numbers trivial trivial
    | float y => exact .numbers trivial (Double.isNaN_of_compare? h).2
    | null | bool | string | bytes | list | tuple | object => cases h
  | float x =>
    cases b with
    | int n => exact .numbers (Double.isNaN_of_compare? h).1 trivial
    | float y =>
      obtain ⟨hx, hy⟩ := Double.isNaN_of_compare? h
      exact .numbers hx hy
    | null | bool | string | bytes | list | tuple | object => cases h
  | string s =>
    cases b with
    | string t => exact .strings s t
    | null | bool | int | float | bytes | list | tuple | object => cases h
  | bytes s =>
    cases b with
    | bytes t => exact .bytes s t
    | null | bool | int | float | string | list | tuple | object => cases h
  | bool c =>
    cases b with
    | bool d => exact .bools c d
    | null | int | float | string | bytes | list | tuple | object => cases h
  | null | list | tuple | object => cases b <;> cases h

theorem compare?_eq_none (h : ¬Comparable a b) : a.compare? b = none :=
  Option.eq_none_iff_forall_ne_some.mpr fun _ ho => h (.of_compare? ho)

end

end Value

/-! ## The ordering specs -/

namespace Build

open Value (Comparable)

variable {a b : Value} {o : Ordering}

/-- How the value and the bound compare is all that an ordering spec asks for. -/
theorem verdict_of_compare? (h : a.compare? b = some o) (orders : List Ordering)
    (description : String) {accepted : Bool} (haccepted : orders.contains o = accepted) :
    Verdict (predicate (.pure description (compares orders b))) a accepted := by
  have hcompares : compares orders b a = accepted := by
    rw [compares, h]
    exact haccepted
  exact hcompares ▸ verdict_predicate description _ a

theorem verdict_of_not_comparable (h : ¬Comparable a b) (orders : List Ordering)
    (description : String) :
    Verdict (predicate (.pure description (compares orders b))) a false := by
  have hcompares : compares orders b a = false := by
    rw [compares, Value.compare?_eq_none h]
    rfl
  exact hcompares ▸ verdict_predicate description _ a

/-- Of values that compare, exactly one of less, equal and greater is accepted, the inclusive specs
accept what one of their two parts does, and less is greater the other way round. What does not compare is
rejected by all four, and a range accepts what both of its bounds do. -/
theorem orderings_agree :
    (∀ a b, Comparable a b → ∃ less same more,
      Verdict (lt b) a less ∧ Verdict (equalTo b) a same ∧ Verdict (gt b) a more ∧
        [less, same, more].count true = 1 ∧ Verdict (lte b) a (less || same) ∧
        Verdict (gte b) a (more || same) ∧ Verdict (gt a) b less) ∧
    (∀ a b, ¬Comparable a b →
      Verdict (lt b) a false ∧ Verdict (lte b) a false ∧ Verdict (gt b) a false ∧
        Verdict (gte b) a false) ∧
    ∀ start finish v, ∃ above below,
      Verdict (gte start) v above ∧ Verdict (lt finish) v below ∧
        Verdict (inRange start finish) v (above && below) := by
  refine ⟨fun a b h => ?_, fun a b h => ?_, fun start finish v => ?_⟩
  · obtain ⟨o, hcompares, hreverse, hequal⟩ := h.agree
    refine ⟨o == .lt, o == .eq, o == .gt, ?less, hequal ▸ verdict_equalTo b a, ?more, ?one, ?lte,
      ?gte, ?reverse⟩
    case less => exact verdict_of_compare? hcompares [.lt] _ (by cases o <;> rfl)
    case more => exact verdict_of_compare? hcompares [.gt] _ (by cases o <;> rfl)
    case one => cases o <;> rfl
    case lte => exact verdict_of_compare? hcompares [.lt, .eq] _ (by cases o <;> rfl)
    case gte => exact verdict_of_compare? hcompares [.gt, .eq] _ (by cases o <;> rfl)
    case reverse => exact verdict_of_compare? hreverse [.gt] _ (by cases o <;> rfl)
  · exact ⟨verdict_of_not_comparable h _ _, verdict_of_not_comparable h _ _,
      verdict_of_not_comparable h _ _, verdict_of_not_comparable h _ _⟩
  · exact ⟨_, _, verdict_predicate _ _ _, verdict_predicate _ _ _, verdict_predicate _ _ _⟩

/-- The integer 1 compares with the float 1.0; what is not a number does not even with itself. -/
theorem orderings_agree_one_nan :
    (Comparable (.int 1) (.float ⟨false, 1023, 0⟩) ∧ ∃ less same more,
      Verdict (lt (.float ⟨false, 1023, 0⟩)) (.int 1) less ∧
        Verdict (equalTo (.float ⟨false, 1023, 0⟩)) (.int 1) same ∧
        Verdict (gt (.float ⟨false, 1023, 0⟩)) (.int 1) more ∧
        [less, same, more].count true = 1) ∧
    ¬Comparable (.float (.nan false)) (.float (.nan false)) ∧
      Verdict (lte (.float (.nan false))) (.float (.nan false)) false := by
  have hnumber : Double.isNaN ⟨false, 1023, 0⟩ = false := by decide +kernel
  have hone : Comparable (.int 1) (.float ⟨false, 1023, 0⟩) := .numbers trivial hnumber
  have hnan : ¬Comparable (.float (.nan false)) (.float (.nan false)) := by
    have hisNaN : (Double.nan false).isNaN = true := by decide +kernel
    intro h
    cases h with
    | numbers h => exact absurd (hisNaN.symm.trans h) nofun
  obtain ⟨less, same, more, hless, hsame, hmore, hcount, -⟩ := orderings_agree.1 _ _ hone
  exact ⟨⟨hone, less, same, more, hless, hsame, hmore, hcount⟩, hnan,
    (orderings_agree.2.1 _ _ hnan).2.1⟩

end Build

end Conform

import Conform.Proofs.Number.Integer
import Conform.Proofs.Text.Quoted
import Conform.Proofs.Value.Scalars
import Conform.Value.Text
/-!
Values told by their text. The first character of a text tells the kind of the value, and a text that is
stopped by a comma or a closing bracket, or by nothing, is that of one value only, as long as there are no
floats and no bytes in it: these are written in ways that others of them are written too.
-/

namespace Conform.Value

open Integer (isNumeral)
open Text (Begins Stopped Told enclosed listed quoted stops)

/-- There are no floats and no bytes in the value. -/
def Readable (v : Value) : Prop := v.MadeOf fun w => w.kind ≠ .float ∧ w.kind ≠ .bytes

theorem Readable.floatFree {v : Value} (h : v.Readable) : v.FloatFree := h.imp fun _ hw => hw.1

/-! ## Integers -/

theorem isNumeral_of_stopped {s : List Char} (h : Stopped s) : ∀ c ∈ s.head?, isNumeral c = false := by
  have hall : stops.all (fun c => !isNumeral c) = true := by decide
  intro c hc
  simpa using List.all_eq_true.mp hall c (h c hc)

theorem repr_append_injective {m n : Int} {s t : List Char} (hs : Stopped s) (ht : Stopped t)
    (h : m.repr.toList ++ s = n.repr.toList ++ t) : m = n ∧ s = t := by
  obtain ⟨_, _, hm, hmdigits⟩ := Integer.repr_eq_cons m
  obtain ⟨_, _, hn, hndigits⟩ := Integer.repr_eq_cons n
  obtain ⟨htext, hrest⟩ := Text.append_injective_of_all (hm ▸ hmdigits) (hn ▸ hndigits)
    (isNumeral_of_stopped hs) (isNumeral_of_stopped ht) h
  exact ⟨Int.repr_injective (String.toList_inj.mp htext), hrest⟩

/-! ## Texts of containers -/

theorem shownItems_eq_map (items : List Value) : shownItems items = items.map shown := by
  induction items with
  | nil => rfl
  | cons v vs ih => rw [shownItems, ih, List.map_cons]

/-- How a pair of an object is written. -/
def pairShown (pair : String × Value) : String := quoted pair.1 ++ ": " ++ pair.2.shown

theorem shownPairs_eq_map (pairs : List (String × Value)) : shownPairs pairs = pairs.map pairShown := by
  induction pairs with
  | nil => rfl
  | cons pair pairs ih => rw [shownPairs, ih, List.map_cons, pairShown]

theorem toList_shown_list (items : List Value) :
    (list items).shown.toList = '[' :: enclosed ']' (items.map shown) := by
  rw [shown, String.append_assoc, String.toList_append, String.toList_append, shownItems_eq_map]
  exact congrArg ('[' :: ·) (Text.toList_intercalate_append ']' _)

theorem toList_shown_tuple (items : List Value) :
    (tuple items).shown.toList = '(' :: enclosed ')' (items.map shown) := by
  rw [shown, String.append_assoc, String.toList_append, String.toList_append, shownItems_eq_map]
  exact congrArg ('(' :: ·) (Text.toList_intercalate_append ')' _)

theorem toList_shown_object (pairs : List (String × Value)) :
    (object pairs).shown.toList = '\x7b' :: enclosed '\x7d' (pairs.map pairShown) := by
  rw [shown, String.append_assoc, String.toList_append, String.toList_append, shownPairs_eq_map]
  exact congrArg ('\x7b' :: ·) (Text.toList_intercalate_append '\x7d' _)

theorem toList_pairShown (pair : String × Value) :
    (pairShown pair).toList = (quoted pair.1).toList ++ ':' :: ' ' :: pair.2.shown.toList := by
  rw [pairShown, String.append_assoc, String.toList_append, String.toList_append]
  rfl

theorem begins_pairShown (pair : String × Value) : Begins (pairShown pair) :=
  ⟨'"', _, by rw [toList_pairShown, Text.toList_quoted, List.cons_append], by decide⟩

/-! ## First characters -/

/-- The kind that a text beginning with a character tells. -/
def kindLed? (c : Char) : Option ValueKind :=
  if isNumeral c then some .int
  else match c with
    | 'n' => some .null
    | 't' | 'f' => some .bool
    | '"' => some .string
    | '[' => some .list
    | '(' => some .tuple
    | '\x7b' => some .object
    | _ => none

/-- The text tells the kind. -/
theorem Readable.shown_eq_cons {v : Value} (h : v.Readable) :
    ∃ c cs, v.shown.toList = c :: cs ∧ kindLed? c = some v.kind := by
  cases v with
  | null => exact ⟨'n', _, rfl, rfl⟩
  | bool b => cases b <;> exact ⟨_, _, rfl, rfl⟩
  | int n =>
    obtain ⟨c, cs, hn, hdigits⟩ := Integer.repr_eq_cons n.toInt
    exact ⟨c, cs, hn, if_pos (hdigits c List.mem_cons_self)⟩
  | float x => exact absurd rfl ((madeOf_scalar (v := float x) trivial).mp h).1
  | string s => exact ⟨'"', _, Text.toList_quoted s, rfl⟩
  | bytes data => exact absurd rfl ((madeOf_scalar (v := bytes data) trivial).mp h).2
  | list items => exact ⟨'[', _, toList_shown_list items, rfl⟩
  | tuple items => exact ⟨'(', _, toList_shown_tuple items, rfl⟩
  | object pairs => exact ⟨'\x7b', _, toList_shown_object pairs, rfl⟩

theorem Readable.begins {v : Value} (h : v.Readable) : Begins v.shown := by
  have hall : stops.all (fun c => (kindLed? c).isNone) = true := by decide
  obtain ⟨c, cs, hshown, hkind⟩ := h.shown_eq_cons
  refine ⟨c, cs, hshown, fun hc => ?_⟩
  have hnone := List.all_eq_true.mp hall c hc
  rw [hkind] at hnone
  cases hnone

theorem Readable.kind_eq {v w : Value} {s t : List Char} (hv : v.Readable) (hw : w.Readable)
    (h : v.shown.toList ++ s = w.shown.toList ++ t) : v.kind = w.kind := by
  obtain ⟨_, _, hvshown, hvkind⟩ := hv.shown_eq_cons
  obtain ⟨_, _, hwshown, hwkind⟩ := hw.shown_eq_cons
  rw [hvshown, hwshown] at h
  rw [(List.cons.inj h).1, hwkind] at hvkind
  exact (Option.some.inj hvkind).symm

/-! ## One value for each text -/

theorem scalar_shown_append_injective {v w : Value} {s t : List Char} (hscalar : v.IsScalar)
    (hv : v.Readable) (hkind : v.kind = w.kind) (hs : Stopped s) (ht : Stopped t)
    (h : v.shown.toList ++ s = w.shown.toList ++ t) : v = w ∧ s = t := by
  cases v with
  | null =>
    cases w with
    | null => exact ⟨rfl, List.append_cancel_left h⟩
    | _ => cases hkind
  | bool a =>
    cases w with
    | bool b =>
      cases a <;> cases b
      case false.false | true.true => exact ⟨rfl, List.append_cancel_left h⟩
      all_goals exact absurd (List.cons.inj h).1 (by decide)
    | _ => cases hkind
  | int m =>
    cases w with
    | int n =>
      obtain ⟨heq, hrest⟩ := repr_append_injective hs ht h
      exact ⟨congrArg int (Int64.toInt_inj.mp heq), hrest⟩
    | _ => cases hkind
  | string a =>
    cases w with
    | string b =>
      obtain ⟨rfl, hrest⟩ := Text.quoted_append_injective h
      exact ⟨rfl, hrest⟩
    | _ => cases hkind
  | float => exact absurd rfl ((madeOf_scalar hscalar).mp hv).1
  | bytes => exact absurd rfl ((madeOf_scalar hscalar).mp hv).2
  | list | tuple | object => exact hscalar.elim

theorem begins_of_readable {xs ys : List Value} (hxs : ∀ x ∈ xs, x.Readable)
    (hys : ∀ y ∈ ys, y.Readable) : ∀ x ∈ xs ++ ys, Begins x.shown := by
  intro x hx
  rcases List.mem_append.mp hx with hx | hx
  · exact (hxs x hx).begins
  · exact (hys x hx).begins

/-- Where it is stopped, the text of a value is that of no other. -/
theorem Readable.shown_append_injective {v w : Value} {s t : List Char} (hv : v.Readable)
    (hw : w.Readable) (hs : Stopped s) (ht : Stopped t)
    (h : v.shown.toList ++ s = w.shown.toList ++ t) : v = w ∧ s = t := by
  have hkind := hv.kind_eq hw h
  induction v using Value.induction generalizing w s t with
  | scalar v hscalar => exact scalar_shown_append_injective hscalar hv hkind hs ht h
  | list xs ih =>
    cases w with
    | list ys =>
      rw [Readable, madeOf_list] at hv hw
      have htold : ∀ x ∈ xs, Told shown ys x := fun x hx y hy _ _ hs ht h =>
        ih x hx (hv x hx) (hw y hy) hs ht h (Readable.kind_eq (hv x hx) (hw y hy) h)
      rw [toList_shown_list, toList_shown_list] at h
      obtain ⟨rfl, hrest⟩ := Text.enclosed_append_injective (by decide) (by decide)
        (begins_of_readable hv hw) htold (List.cons.inj h).2
      exact ⟨rfl, hrest⟩
    | _ => cases hkind
  | tuple xs ih =>
    cases w with
    | tuple ys =>
      rw [Readable, madeOf_tuple] at hv hw
      have htold : ∀ x ∈ xs, Told shown ys x := fun x hx y hy _ _ hs ht h =>
        ih x hx (hv x hx) (hw y hy) hs ht h (Readable.kind_eq (hv x hx) (hw y hy) h)
      rw [toList_shown_tuple, toList_shown_tuple] at h
      obtain ⟨rfl, hrest⟩ := Text.enclosed_append_injective (by decide) (by decide)
        (begins_of_readable hv hw) htold (List.cons.inj h).2
      exact ⟨rfl, hrest⟩
    | _ => cases hkind
  | object ps ih =>
    cases w with
    | object qs =>
      rw [Readable, madeOf_object] at hv hw
      have htold : ∀ p ∈ ps, Told pairShown qs p := by
        intro p hp q hq s t hs ht h
        simp only [toList_pairShown, List.append_assoc, List.cons_append] at h
        obtain ⟨hkey, hrest⟩ := Text.quoted_append_injective h
        simp only [List.cons.injEq, true_and] at hrest
        obtain ⟨hvalue, hrest⟩ := ih p hp (hv p hp) (hw q hq) hs ht hrest
          (Readable.kind_eq (hv p hp) (hw q hq) hrest)
        exact ⟨Prod.ext hkey hvalue, hrest⟩
      rw [toList_shown_object, toList_shown_object] at h
      obtain ⟨rfl, hrest⟩ := Text.enclosed_append_injective (by decide) (by decide)
        (fun p _ => begins_pairShown p) htold (List.cons.inj h).2
      exact ⟨rfl, hrest⟩
    | _ => cases hkind

theorem Readable.shown_injective {v w : Value} (hv : v.Readable) (hw : w.Readable)
    (h : v.shown = w.shown) : v = w := by
  have hnothing : Stopped [] := nofun
  exact (hv.shown_append_injective hw hnothing hnothing (by rw [h])).1

end Conform.Value

import Conform.Value.Basic
/-!
Three equalities of values. `=` is identity of data and is decidable; `equal` compares floats as
numbers; `looselyEqual` compares integers with floats too.
-/

namespace Conform.Value

mutual

/-- Containers of one kind are equal member by member, and keys must agree in place. -/
def equalBy (scalar : Value → Value → Bool) : Value → Value → Bool
  | list xs, list ys => itemsEqualBy scalar xs ys
  | tuple xs, tuple ys => itemsEqualBy scalar xs ys
  | object ps, object qs => pairsEqualBy scalar ps qs
  | v, w => scalar v w

def itemsEqualBy (scalar : Value → Value → Bool) : List Value → List Value → Bool
  | [], [] => true
  | x :: xs, y :: ys => equalBy scalar x y && itemsEqualBy scalar xs ys
  | _, _ => false

def pairsEqualBy (scalar : Value → Value → Bool) :
    List (String × Value) → List (String × Value) → Bool
  | [], [] => true
  | (k, x) :: ps, (l, y) :: qs => k == l && equalBy scalar x y && pairsEqualBy scalar ps qs
  | _, _ => false

end

def scalarEqual : Value → Value → Bool
  | null, null => true
  | bool a, bool b => a == b
  | int m, int n => m == n
  | float x, float y => x.equal y
  | string s, string t => s == t
  | bytes s, bytes t => s == t
  | _, _ => false

def scalarLooselyEqual : Value → Value → Bool
  | int n, float x => (Double.ofInt n.toInt).equal x
  | float x, int n => (Double.ofInt n.toInt).equal x
  | v, w => scalarEqual v w

def equal : Value → Value → Bool := equalBy scalarEqual

def looselyEqual : Value → Value → Bool := equalBy scalarLooselyEqual

/-! ## Identity -/

mutual

def decideEq : (v w : Value) → Decidable (v = w)
  | null, null => isTrue rfl
  | bool a, bool b => decidable_of_iff (a = b) (by simp)
  | int m, int n => decidable_of_iff (m = n) (by simp)
  | float x, float y => decidable_of_iff (x = y) (by simp)
  | string s, string t => decidable_of_iff (s = t) (by simp)
  | bytes s, bytes t => decidable_of_iff (s = t) (by simp)
  | list xs, list ys => @decidable_of_iff _ (xs = ys) (by simp) (decideEqItems xs ys)
  | tuple xs, tuple ys => @decidable_of_iff _ (xs = ys) (by simp) (decideEqItems xs ys)
  | object ps, object qs => @decidable_of_iff _ (ps = qs) (by simp) (decideEqPairs ps qs)
  | null, bool _ | null, int _ | null, float _ | null, string _ | null, bytes _ | null, list _
  | null, tuple _ | null, object _ | bool _, null | bool _, int _ | bool _, float _
  | bool _, string _ | bool _, bytes _ | bool _, list _ | bool _, tuple _ | bool _, object _
  | int _, null | int _, bool _ | int _, float _ | int _, string _ | int _, bytes _ | int _, list _
  | int _, tuple _ | int _, object _ | float _, null | float _, bool _ | float _, int _
  | float _, string _ | float _, bytes _ | float _, list _ | float _, tuple _ | float _, object _
  | string _, null | string _, bool _ | string _, int _ | string _, float _ | string _, bytes _
  | string _, list _ | string _, tuple _ | string _, object _ | bytes _, null | bytes _, bool _
  | bytes _, int _ | bytes _, float _ | bytes _, string _ | bytes _, list _ | bytes _, tuple _
  | bytes _, object _ | list _, null | list _, bool _ | list _, int _ | list _, float _
  | list _, string _ | list _, bytes _ | list _, tuple _ | list _, object _ | tuple _, null
  | tuple _, bool _ | tuple _, int _ | tuple _, float _ | tuple _, string _ | tuple _, bytes _
  | tuple _, list _ | tuple _, object _ | object _, null | object _, bool _ | object _, int _
  | object _, float _ | object _, string _ | object _, bytes _ | object _, list _
  | object _, tuple _ => isFalse (by simp)

def decideEqItems : (xs ys : List Value) → Decidable (xs = ys)
  | [], [] => isTrue rfl
  | [], _ :: _ => isFalse (by simp)
  | _ :: _, [] => isFalse (by simp)
  | x :: xs, y :: ys =>
    @decidable_of_iff _ (x = y ∧ xs = ys) (by simp)
      (@instDecidableAnd _ _ (decideEq x y) (decideEqItems xs ys))

def decideEqPairs : (ps qs : List (String × Value)) → Decidable (ps = qs)
  | [], [] => isTrue rfl
  | [], _ :: _ => isFalse (by simp)
  | _ :: _, [] => isFalse (by simp)
  | (k, x) :: ps, (l, y) :: qs =>
    @decidable_of_iff _ (k = l ∧ x = y ∧ ps = qs) (by simp [and_assoc])
      (@instDecidableAnd _ _ (inferInstanceAs (Decidable (k = l)))
        (@instDecidableAnd _ _ (decideEq x y) (decideEqPairs ps qs)))

end

instance : DecidableEq Value := decideEq

end Conform.Value

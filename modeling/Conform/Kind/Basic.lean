import Conform.Value.Kind
/-!
Kinds: what a field of a record is declared to hold.
-/

namespace Conform

inductive Kind where
  | leaf (of : ValueKind)
  /-- Only the null value. -/
  | nothing
  /-- A registered shape. -/
  | record (name : String) (args : List Kind)
  /-- A shape or a builtin, looked up when it is first needed. -/
  | forward (name : String) (args : List Kind)
  | list (item : Kind)
  /-- The alternatives, tried in order. -/
  | union (alternatives : List Kind)
  | placeholder (name : String)
  deriving Inhabited

/-- What placeholders stand for; the first pair with a name binds it. -/
abbrev Bindings := List (String × Kind)

namespace Kind

def optional (k : Kind) : Kind := union [k, nothing]

/-! ## Identity -/

mutual

def decideEq : (j k : Kind) → Decidable (j = k)
  | leaf a, leaf b => decidable_of_iff (a = b) (by simp)
  | nothing, nothing => isTrue rfl
  | record a xs, record b ys =>
    @decidable_of_iff _ (a = b ∧ xs = ys) (by simp)
      (@instDecidableAnd _ _ (inferInstanceAs (Decidable (a = b))) (decideEqAll xs ys))
  | forward a xs, forward b ys =>
    @decidable_of_iff _ (a = b ∧ xs = ys) (by simp)
      (@instDecidableAnd _ _ (inferInstanceAs (Decidable (a = b))) (decideEqAll xs ys))
  | list j, list k => @decidable_of_iff _ (j = k) (by simp) (decideEq j k)
  | union xs, union ys => @decidable_of_iff _ (xs = ys) (by simp) (decideEqAll xs ys)
  | placeholder a, placeholder b => decidable_of_iff (a = b) (by simp)
  | leaf _, nothing | leaf _, record .. | leaf _, forward .. | leaf _, list _ | leaf _, union _
  | leaf _, placeholder _ | nothing, leaf _ | nothing, record .. | nothing, forward ..
  | nothing, list _ | nothing, union _ | nothing, placeholder _ | record .., leaf _
  | record .., nothing | record .., forward .. | record .., list _ | record .., union _
  | record .., placeholder _ | forward .., leaf _ | forward .., nothing | forward .., record ..
  | forward .., list _ | forward .., union _ | forward .., placeholder _ | list _, leaf _
  | list _, nothing | list _, record .. | list _, forward .. | list _, union _
  | list _, placeholder _ | union _, leaf _ | union _, nothing | union _, record ..
  | union _, forward .. | union _, list _ | union _, placeholder _ | placeholder _, leaf _
  | placeholder _, nothing | placeholder _, record .. | placeholder _, forward ..
  | placeholder _, list _ | placeholder _, union _ => isFalse (by simp)

def decideEqAll : (xs ys : List Kind) → Decidable (xs = ys)
  | [], [] => isTrue rfl
  | [], _ :: _ => isFalse (by simp)
  | _ :: _, [] => isFalse (by simp)
  | x :: xs, y :: ys =>
    @decidable_of_iff _ (x = y ∧ xs = ys) (by simp)
      (@instDecidableAnd _ _ (decideEq x y) (decideEqAll xs ys))

end

instance : DecidableEq Kind := decideEq

/-! ## Substitution -/

mutual

/-- Replaces every bound placeholder, once; what is put in its place is not looked into. -/
def substitute (bindings : Bindings) : Kind → Kind
  | placeholder p => (bindings.lookup p).getD (placeholder p)
  | list item => list (substitute bindings item)
  | union ks => union (substituteAll bindings ks)
  | record name args => record name (substituteAll bindings args)
  | forward name args => forward name (substituteAll bindings args)
  | leaf k => leaf k
  | nothing => nothing

def substituteAll (bindings : Bindings) : List Kind → List Kind
  | [] => []
  | k :: ks => substitute bindings k :: substituteAll bindings ks

end

/-! ## Parts -/

mutual

/-- The kind and all kinds within it, outer ones first. -/
def parts : Kind → List Kind
  | leaf k => [leaf k]
  | nothing => [nothing]
  | record name args => record name args :: partsOfAll args
  | forward name args => forward name args :: partsOfAll args
  | list item => list item :: parts item
  | union ks => union ks :: partsOfAll ks
  | placeholder p => [placeholder p]

def partsOfAll : List Kind → List Kind
  | [] => []
  | k :: ks => parts k ++ partsOfAll ks

end

/-! ## Text -/

/-- Arguments stand between brackets; no arguments need none. -/
def bracketed (args : List String) : String :=
  if args.isEmpty then "" else "[" ++ String.intercalate ", " args ++ "]"

mutual

def shown : Kind → String
  | leaf k => k.name
  | nothing => "None"
  | record name args => name ++ bracketed (shownAll args)
  | forward name args => "'" ++ name ++ "'" ++ bracketed (shownAll args)
  | list item => "List[" ++ shown item ++ "]"
  | union ks => "Union" ++ bracketed (shownAll ks)
  | placeholder p => "~" ++ p

def shownAll : List Kind → List String
  | [] => []
  | k :: ks => shown k :: shownAll ks

end

end Kind

end Conform

import Conform.Coercion
import Conform.Pattern.Occurrence
import Conform.Pattern.Reader
import Conform.Speccable
/-!
The specs that callers build. Each is a new instance; parts are specs or stand for specs, and of
several parts that stand for none the first is the error.
-/

namespace Conform.Build

open Session (newInstance)

def anything : Build Spec := return .anything (← newInstance)

def never : Build Spec := return .never (← newInstance)

def equalTo (expected : Value) : Build Spec := return .equalTo (← newInstance) expected

def isInstance (kind : ValueKind) : Build Spec := return .isInstance (← newInstance) kind

def isIn (members : List Value) : Build Spec :=
  return .isIn (← newInstance) (Spec.canonicalMembers members)

def predicate (p : Predicate) : Build Spec := return .predicate (← newInstance) p

def unbound (placeholder : String) : Build Spec := return .unbound (← newInstance) placeholder

def consistency (groups : List PlaceholderGroup) : Build Spec :=
  return .consistency (← newInstance) groups

/-- A lazy reference to what a name will be bound to. -/
def deferred (label name : String) : Build Spec := do
  let cell ← Session.newCell
  return .deferred (← newInstance) ⟨cell, label, .bound name⟩

/-! ## Specs with parts -/

/-- Applies a transform before the spec. Without reasons of the caller's own a failure has the stock
one. -/
def coerce (coercer : Coercer) (of : Speccable)
    (failureReason : Option (Value → String → String)) : Build Spec := do
  let spec ← of.specize
  return .coerce (← newInstance) coercer spec failureReason

def decorated (of : Speccable) (description : Option String) : Build Spec := do
  let spec ← of.specize
  return .decorated (← newInstance) spec description

def collOf (of : Speccable) : Build Spec := do
  let item ← of.specize
  return .collOf (← newInstance) item

def oneOf (of : List Speccable) : Build Spec := do
  let alternatives ← of.mapM Speccable.specize
  return .oneOf (← newInstance) alternatives

def allOf (of : List Speccable) : Build Spec := do
  let stages ← of.mapM Speccable.specize
  return .allOf (← newInstance) stages

def dict (keys : List (String × Speccable)) (extra : ExtraFields) : Build Spec := do
  let keys ← keys.mapM fun (key, of) => return (key, ← of.specize)
  return .dict (← newInstance) keys extra

mutual

/-- The spec of an example: an object asks for its keys, and anything else for an equal value. -/
def ofExample : Value → Build Spec
  | .object pairs => do
    let keys ← ofExamplePairs pairs
    return .dict (← newInstance) keys .ignore
  | .null => equalTo .null
  | .bool b => equalTo (.bool b)
  | .int n => equalTo (.int n)
  | .float x => equalTo (.float x)
  | .string s => equalTo (.string s)
  | .bytes data => equalTo (.bytes data)
  | .list items => equalTo (.list items)
  | .tuple items => equalTo (.tuple items)

def ofExamplePairs : List (String × Value) → Build (List (String × Spec))
  | [] => return []
  | (key, v) :: pairs => do
    let spec ← ofExample v
    return (key, spec) :: (← ofExamplePairs pairs)

end

def dictExample (pairs : List (String × Value)) : Build Spec := ofExample (.object pairs)

/-! ## Stock checks -/

def isEven : Value → Bool
  | .int n => n.toInt % 2 = 0
  | _ => false

def isOdd : Value → Bool
  | .int n => n.toInt % 2 ≠ 0
  | _ => false

def even : Build Spec := predicate (.pure "an even number" isEven)

def odd : Build Spec := predicate (.pure "an odd number" isOdd)

def isNone : Build Spec := predicate (.pure "null" Value.isNull)

/-- Whether a value compares with a bound in one of some ways. -/
def compares (orders : List Ordering) (bound v : Value) : Bool :=
  (v.compare? bound).any orders.contains

def gt (bound : Value) : Build Spec :=
  predicate (.pure ("greater than " ++ bound.shown) (compares [.gt] bound))

def lt (bound : Value) : Build Spec :=
  predicate (.pure ("less than " ++ bound.shown) (compares [.lt] bound))

def gte (bound : Value) : Build Spec :=
  predicate (.pure ("greater than or equal to " ++ bound.shown) (compares [.gt, .eq] bound))

def lte (bound : Value) : Build Spec :=
  predicate (.pure ("less than or equal to " ++ bound.shown) (compares [.lt, .eq] bound))

/-- From a value on, and up to but without another. -/
def inRange (start finish : Value) : Build Spec :=
  predicate (.pure ("between " ++ start.shown ++ " and " ++ finish.shown) fun v =>
    compares [.gt, .eq] start v && compares [.lt] finish v)

def containsMatch (p : Pattern) : Value → Bool
  | .string s => p.occursIn s
  | _ => false

/-- The strings that a pattern occurs in. -/
def matching (text : String) : Build Spec :=
  match Pattern.read text with
  | some p => predicate (.pure ("a string matching " ++ text) (containsMatch p))
  | none => throw (.invalidPattern text)

/-! ## Stock coercions -/

/-- A transform into a kind of value. -/
def coerceTo (coercer : Coercer) (kind : ValueKind) : Build Spec := do
  let spec ← isInstance kind
  return .coerce (← newInstance) coercer spec none

def integer : Build Spec := coerceTo Coercion.integerCoercer .int

def uuid : Build Spec := coerceTo Coercion.uuidCoercer .string

def webAddress : Build Spec := coerceTo Coercion.componentsCoercer .object

end Conform.Build

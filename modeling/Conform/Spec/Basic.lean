import Conform.Config
import Conform.Kind.Basic
import Conform.Spec.Callback
import Conform.Value.Equality
/-!
Specs. A spec is a tree, but for the lazy references at some of its leaves, and every node is an
instance: two nodes built alike are not the same.
-/

namespace Conform

/-- Which instance a node is. -/
inductive Instance where
  | made (serial : Nat)
  /-- The spec that a placeholder group implies for its fields, known by the kind it asks for. -/
  | implied (kind : ValueKind)
  deriving DecidableEq

/-- What a lazy reference refers to. -/
inductive Target where
  /-- A shape of a registry with its arguments. -/
  | shape (registry : Nat) (name : String) (args : List Kind)
  /-- A shape or a builtin of a registry. -/
  | forward (registry : Nat) (name : String) (args : List Kind)
  /-- What a name is bound to. -/
  | bound (name : String)
  deriving DecidableEq

/-- A lazy reference: the cell that keeps its spec once it is found, and where to look for it. -/
structure Reference where
  cell : Nat
  label : String
  target : Target
  deriving DecidableEq

/-- The fields that are declared to hold one placeholder. -/
structure PlaceholderGroup where
  placeholder : String
  fields : List String
  deriving DecidableEq

inductive Spec where
  | anything (id : Instance)
  | never (id : Instance)
  | predicate (id : Instance) (p : Predicate)
  | equalTo (id : Instance) (expected : Value)
  | isInstance (id : Instance) (kind : ValueKind)
  | isIn (id : Instance) (members : List Value)
  | decorated (id : Instance) (spec : Spec) (description : Option String)
  | coerce (id : Instance) (coercer : Coercer) (spec : Spec)
      (failureReason : Option (Value → String → String))
  | oneOf (id : Instance) (alternatives : List Spec)
  | allOf (id : Instance) (stages : List Spec)
  | collOf (id : Instance) (item : Spec)
  | dict (id : Instance) (keys : List (String × Spec)) (extra : ExtraFields)
  | deferred (id : Instance) (reference : Reference)
  | unbound (id : Instance) (placeholder : String)
  | consistency (id : Instance) (groups : List PlaceholderGroup)

namespace Spec

def id : Spec → Instance
  | anything id | never id | predicate id _ | equalTo id _ | isInstance id _ | isIn id _
  | decorated id _ _ | coerce id _ _ _ | oneOf id _ | allOf id _ | collOf id _ | dict id _ _
  | deferred id _ | unbound id _ | consistency id _ => id

def sameInstance (s t : Spec) : Bool := s.id = t.id

/-- What two separately built specs may share that makes them equal. -/
inductive Identity where
  | equalTo (expected : Value)
  | isInstance (kind : ValueKind)
  | isIn (members : List Value)

def Identity.equal : Identity → Identity → Bool
  | .equalTo v, .equalTo w => v.equal w
  | .isInstance k, .isInstance l => k = l
  | .isIn vs, .isIn ws => Value.itemsEqualBy Value.scalarEqual vs ws
  | _, _ => false

def identity? : Spec → Option Identity
  | equalTo _ expected => some (.equalTo expected)
  | isInstance _ kind => some (.isInstance kind)
  | isIn _ members => some (.isIn members)
  | _ => none

/-- Specs are equal that are one instance or have equal identities. -/
def equal (s t : Spec) : Bool :=
  s.sameInstance t ||
    match s.identity?, t.identity? with
    | some i, some j => i.equal j
    | _, _ => false

/-! ## Parts -/

/-- The keys that a dictionary spec declares. -/
def keys : Spec → List String
  | dict _ keys _ => keys.map (·.1)
  | _ => []

/-- The placeholder that a spec stands in for. -/
def placeholder? : Spec → Option String
  | unbound _ placeholder => some placeholder
  | _ => none

def groups : Spec → List PlaceholderGroup
  | consistency _ groups => groups
  | _ => []

end Spec

/-- The outcome of holding a value against a spec. -/
inductive Conformed where
  | valid (v : Value)
  | invalid
  deriving DecidableEq

end Conform

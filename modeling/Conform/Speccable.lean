import Conform.Session.Check
/-!
What may stand in for a spec, and the spec that each such thing stands for.
-/

namespace Conform

inductive Speccable where
  | spec (s : Spec)
  | kind (k : ValueKind)
  /-- The values that are allowed. -/
  | set (members : List Value)
  /-- A check, described by its name if it has one. -/
  | predicate (name : Option String) (check : Value → Except Failure Bool)
  | value (v : Value)

namespace Speccable

/-- The description of a check without a name. -/
def namelessDescription : String := Text.withArticle "closure"

/-- No spec is meant by a value, but for an object. -/
def refuse (v : Value) : Build Spec := throw (.unspeccable (Text.withArticle v.typeName) v.shown)

mutual

/-- An object stands for a dictionary spec; its values stand for specs in turn. -/
def ofValue : Value → Build Spec
  | .object pairs => do
    let keys ← ofPairs pairs
    return .dict (← Session.newInstance) keys .ignore
  | .null => refuse .null
  | .bool b => refuse (.bool b)
  | .int n => refuse (.int n)
  | .float x => refuse (.float x)
  | .string s => refuse (.string s)
  | .bytes data => refuse (.bytes data)
  | .list items => refuse (.list items)
  | .tuple items => refuse (.tuple items)

def ofPairs : List (String × Value) → Build (List (String × Spec))
  | [] => return []
  | (key, v) :: pairs => do
    let spec ← ofValue v
    return (key, spec) :: (← ofPairs pairs)

end

/-- The spec that is meant. A spec is itself, the very instance. -/
def specize : Speccable → Build Spec
  | spec s => return s
  | kind k => return .isInstance (← Session.newInstance) k
  | set members => return .isIn (← Session.newInstance) (Spec.canonicalMembers members)
  | predicate name check =>
    return .predicate (← Session.newInstance) ⟨name.getD namelessDescription, check, none⟩
  | value v => ofValue v

/-! ## Text -/

def shownName : Option String → String
  | some name => "Some(" ++ Text.quoted name ++ ")"
  | none => "None"

def shown : Speccable → Check String
  | spec s => do return "Speccable::Spec(" ++ (← Check.describe s) ++ ")"
  | kind k => return "Speccable::Kind(" ++ k.name ++ ")"
  | set members =>
    return "Speccable::Set([" ++ Value.commaSeparated (members.map Value.constructed) ++ "])"
  | predicate name _ => return "Speccable::Predicate(" ++ shownName name ++ ")"
  | value v => return "Speccable::Value(" ++ v.shown ++ ")"

end Speccable

end Conform

import Conform.Spec.Basic
import Conform.Text.Noun
import Conform.Value.Order
import Conform.Value.Text
/-!
What the leaves of spec trees accept, their descriptions, and the reasons they give.
-/

namespace Conform

namespace Conformed

def isValid : Conformed → Bool
  | valid _ => true
  | invalid => false

def isInvalid (c : Conformed) : Bool := !c.isValid

def value? : Conformed → Option Value
  | valid v => some v
  | invalid => none

def shown : Conformed → String
  | valid v => v.shown
  | invalid => "<INVALID>"

def equal : Conformed → Conformed → Bool
  | valid v, valid w => v.equal w
  | invalid, invalid => true
  | _, _ => false

/-- The value itself, if it passes. -/
def ofBool (passes : Bool) (v : Value) : Conformed := if passes then valid v else invalid

end Conformed

namespace Spec

def neverReason : String := "this spec will always fail"

/-- Whether a set has a member loosely equal to the value. -/
def isMember (members : List Value) (v : Value) : Bool := members.any (·.looselyEqual v)

def isInDescription (members : List Value) : String := "in " ++ (Value.list members).shown

/-- A set in order, without the members that an earlier one is loosely equal to. -/
def canonicalMembers (members : List Value) : List Value :=
  Value.sort (members.foldl (fun kept m => if isMember kept m then kept else kept ++ [m]) [])

def equalToReason (expected v : Value) : String :=
  "expected " ++ expected.shown ++ " (" ++ expected.typeName ++ ") but got " ++ v.shown
    ++ " (" ++ v.typeName ++ ")"

def isInstanceDescription (kind : ValueKind) : String := Text.withArticle kind.name

def isInstanceReason (kind : ValueKind) (v : Value) : String :=
  "expected " ++ isInstanceDescription kind ++ " but got " ++ Text.withArticle v.typeName

/-- Strings stand in a coercion's reason without their own quotes. -/
def bare : Value → String
  | .string s => s
  | v => v.shown

def coercionReason (coercer : Coercer) (v : Value) (error : String) : String :=
  "could not coerce '" ++ bare v ++ "' (" ++ v.typeName ++ ") using coercer: " ++ coercer.name
    ++ " because:\n" ++ error

def notDictionaryReason (v : Value) : String := "not a dictionary (" ++ v.typeName ++ ")"

def missingKeyReason (key : String) : String := "missing required key '" ++ key ++ "'"

def unexpectedKeyReason (key : String) : String := "unexpected key '" ++ key ++ "'"

def unboundDescription (placeholder : String) : String := "any ~" ++ placeholder ++ " (unbound)"

def isDeclared (keys : List (String × Spec)) (key : String) : Bool := keys.any (·.1 = key)

/-- The pairs that a dictionary spec does not declare. -/
def undeclared (keys : List (String × Spec)) (pairs : List (String × Value)) :
    List (String × Value) :=
  pairs.filter fun pair => !isDeclared keys pair.1

/-! ## Placeholder groups -/

/-- The members of a group that a value has, in the order of the group. -/
def presentMembers (group : PlaceholderGroup) (v : Value) : List (String × Value) :=
  group.fields.filterMap fun field => (v.get? field).map (field, ·)

/-- The members of a group whose kind is not that of the first one present. -/
def dissenters (group : PlaceholderGroup) (v : Value) : List (String × Value) :=
  match presentMembers group v with
  | [] => []
  | (field, first) :: rest =>
    ((field, first) :: rest).filter fun member => member.2.kind ≠ first.kind

/-- Puts a value in the place of the first pair with a key. -/
def replacePair (key : String) (v : Value) : List (String × Value) → List (String × Value)
  | [] => []
  | (k, w) :: pairs => if k = key then (k, v) :: pairs else (k, w) :: replacePair key v pairs

/-- Writes the members of a group into the output, if they agree on a kind. -/
def conformGroup (v : Value) (group : PlaceholderGroup) (output : List (String × Value)) :
    Option (List (String × Value)) :=
  if (dissenters group v).isEmpty then
    some ((presentMembers group v).foldl
      (fun out member => replacePair member.1 member.2 out) output)
  else none

def conformGroups (v : Value) :
    List PlaceholderGroup → List (String × Value) → Option (List (String × Value))
  | [], output => some output
  | group :: groups, output => (conformGroup v group output).bind (conformGroups v groups)

def conformConsistency (groups : List PlaceholderGroup) : Value → Conformed
  | .object pairs =>
    match conformGroups (.object pairs) groups pairs with
    | some output => .valid (.object output)
    | none => .invalid
  | _ => .invalid

def groupDescription (group : PlaceholderGroup) : String :=
  "~" ++ group.placeholder ++ ": [" ++ String.intercalate ", " group.fields ++ "]"

def consistencyDescription (groups : List PlaceholderGroup) : String :=
  "consistent placeholders \x7b" ++ String.intercalate ", " (groups.map groupDescription) ++ "\x7d"

end Spec

end Conform

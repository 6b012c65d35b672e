import Conform.Problem
import Conform.Session.Derive
/-!
Holding values against specs. A check walks the spec as a tree; where it meets a lazy reference it
goes on with a delegate, which is a walk of its own with one level of references less to go.
-/

namespace Conform

/-- A check reads and grows the session. It has no result if references nest too deep. -/
abbrev Check := StateT Session Option

/-- What walks ask of the spec behind a lazy reference. -/
structure Delegate where
  resolve : Reference → Check (Except SpecError Spec)
  conform : Spec → Value → Check Conformed
  explain : Spec → Path → Value → Check (List Problem)
  describe : Spec → Check String

namespace Spec

/-! ## Conforming -/

/-- Conforms every item, as long as all are valid. -/
def conformItems (conform : Value → Check Conformed) : List Value → Check (Option (List Value))
  | [] => pure (some [])
  | v :: vs => do
    match ← conform v with
    | .invalid => return none
    | .valid w => return (← conformItems conform vs).map (w :: ·)

/-- What a dictionary spec makes of the pairs that it does not declare. -/
def conformExtra (extra : ExtraFields) (undeclared : List (String × Value)) :
    Option (List (String × Value)) :=
  match extra with
  | .ignore => some []
  | .allow => some undeclared
  | .forbid => if undeclared.isEmpty then some [] else none

section
variable (d : Delegate)

mutual

def conformWith : Spec → Value → Check Conformed
  | anything _, v => return .valid v
  | never _, _ => return .invalid
  | predicate _ p, v => return .ofBool (p.passes v) v
  | equalTo _ expected, v => return .ofBool (v.looselyEqual expected) v
  | isInstance _ kind, v => return .ofBool (v.kind = kind) v
  | isIn _ members, v => return .ofBool (isMember members v) v
  | decorated _ spec _, v => conformWith spec v
  | coerce _ coercer spec _, v =>
    match coercer.apply v with
    | .ok w => conformWith spec w
    | .error _ => return .invalid
  | oneOf _ alternatives, v => conformFirst alternatives v
  | allOf _ stages, v => conformThrough stages v
  | collOf _ item, v =>
    match v with
    | .list items => do
      match ← conformItems (conformWith item) items with
      | some items => return .valid (.list items)
      | none => return .invalid
    | .tuple items => do
      match ← conformItems (conformWith item) items with
      | some items => return .valid (.tuple items)
      | none => return .invalid
    | _ => return .invalid
  | dict _ keys extra, v =>
    match v with
    | .object pairs => do
      match ← conformKeys keys (.object pairs) with
      | none => return .invalid
      | some declared =>
        match conformExtra extra (undeclared keys pairs) with
        | some others => return .valid (.object (declared ++ others))
        | none => return .invalid
    | _ => return .invalid
  | deferred _ reference, v => do
    match ← d.resolve reference with
    | .ok spec => d.conform spec v
    | .error _ => return .invalid
  | unbound _ _, v => return .valid v
  | consistency _ groups, v => return conformConsistency groups v

/-- The first alternative that holds. -/
def conformFirst : List Spec → Value → Check Conformed
  | [], _ => return .invalid
  | s :: ss, v => do
    match ← conformWith s v with
    | .valid w => return .valid w
    | .invalid => conformFirst ss v

/-- Hands the value from stage to stage. -/
def conformThrough : List Spec → Value → Check Conformed
  | [], v => return .valid v
  | s :: ss, v => do
    match ← conformWith s v with
    | .valid w => conformThrough ss w
    | .invalid => return .invalid

/-- The declared keys with their conformed values, if all are there and valid. -/
def conformKeys : List (String × Spec) → Value → Check (Option (List (String × Value)))
  | [], _ => return some []
  | (key, s) :: rest, v =>
    match v.get? key with
    | none => return none
    | some present => do
      match ← conformWith s present with
      | .invalid => return none
      | .valid w => return (← conformKeys rest v).map ((key, w) :: ·)

end

end

/-! ## Explaining -/

/-- Explains every item at its index, counted from `n`. -/
def explainItems (explain : Path → Value → Check (List Problem)) (path : Path) :
    Nat → List Value → Check (List Problem)
  | _, [] => return []
  | n, v :: vs => do
    let problems ← explain (path.child (.index n)) v
    return problems ++ (← explainItems explain path (n + 1) vs)

/-- One problem, of the value as a whole, unless it passes. -/
def rejection (passes : Bool) (spec : Spec) (path : Path) (v : Value) (reason : String) :
    List Problem :=
  if passes then [] else [⟨path, v, spec, reason⟩]

/-- The problems of a group: one for each member that dissents from the first. -/
def explainGroup (path : Path) (v : Value) (group : PlaceholderGroup) : List Problem :=
  match presentMembers group v with
  | [] => []
  | (_, first) :: _ =>
    (dissenters group v).map fun (field, member) =>
      ⟨path.child (.key field), member, isInstance (.implied first.kind) first.kind,
        isInstanceReason first.kind member⟩

section
variable (d : Delegate)

mutual

def explainWith : Spec → Path → Value → Check (List Problem)
  | anything _, _, _ => return []
  | never id, path, v => return [⟨path, v, never id, neverReason⟩]
  | predicate id p, path, v => return rejection (p.passes v) (predicate id p) path v (p.reason v)
  | equalTo id expected, path, v =>
    return rejection (v.looselyEqual expected) (equalTo id expected) path v
      (equalToReason expected v)
  | isInstance id kind, path, v =>
    return rejection (v.kind = kind) (isInstance id kind) path v (isInstanceReason kind v)
  | isIn id members, path, v =>
    return rejection (isMember members v) (isIn id members) path v
      ("not " ++ isInDescription members)
  | decorated _ spec _, path, v => explainWith spec path v
  | coerce id coercer spec failureReason, path, v =>
    match coercer.apply v with
    | .ok w => explainWith spec path w
    | .error error =>
      let reason := match failureReason with
        | some reason => reason v error
        | none => coercionReason coercer v error
      return [⟨path, v, coerce id coercer spec failureReason, reason⟩]
  | oneOf _ alternatives, path, v => do
    if (← conformFirst d alternatives v).isValid then return []
    else explainEach alternatives path v
  | allOf _ stages, path, v => explainThrough stages path v
  | collOf id item, path, v =>
    match v.items? with
    | some items => explainItems (explainWith item) path 0 items
    | none => return [⟨path, v, collOf id item, "not iterable"⟩]
  | dict id keys extra, path, v =>
    match v with
    | .object pairs => do
      let problems ← explainKeys (dict id keys extra) keys path (.object pairs)
      let unexpected := if extra = .forbid then undeclared keys pairs else []
      return problems ++ unexpected.map fun (key, w) =>
        ⟨path.child (.key key), w, dict id keys extra, unexpectedKeyReason key⟩
    | v => return [⟨path, v, dict id keys extra, notDictionaryReason v⟩]
  | deferred id reference, path, v => do
    match ← d.resolve reference with
    | .ok spec => d.explain spec path v
    | .error e =>
      return [⟨path, v, deferred id reference, "unresolved reference: " ++ e.message⟩]
  | unbound _ _, _, _ => return []
  | consistency id groups, path, v =>
    match v with
    | .object pairs => return groups.flatMap (explainGroup path (.object pairs))
    | v => return [⟨path, v, consistency id groups, notDictionaryReason v⟩]

/-- The problems of all alternatives. -/
def explainEach : List Spec → Path → Value → Check (List Problem)
  | [], _, _ => return []
  | s :: ss, path, v => do
    let problems ← explainWith s path v
    return problems ++ (← explainEach ss path v)

/-- The problems of the first stage that fails. -/
def explainThrough : List Spec → Path → Value → Check (List Problem)
  | [], _, _ => return []
  | s :: ss, path, v => do
    match ← conformWith d s v with
    | .valid w => explainThrough ss path w
    | .invalid => explainWith s path v

/-- The problems of the declared keys of `owner`. -/
def explainKeys (owner : Spec) : List (String × Spec) → Path → Value → Check (List Problem)
  | [], _, _ => return []
  | (key, s) :: rest, path, v => do
    let problems ←
      match v.get? key with
      | some present => explainWith s (path.child (.key key)) present
      | none => pure [⟨path.child (.key key), .null, owner, missingKeyReason key⟩]
    return problems ++ (← explainKeys owner rest path v)

end

end

section
variable {d : Delegate} {i : Instance} {s : Spec} {description : Option String}

/-- A description changes nothing about checks. -/
@[simp] theorem conformWith_decorated (v : Value) :
    conformWith d (decorated i s description) v = conformWith d s v := by
  conv => lhs; unfold conformWith

@[simp] theorem explainWith_decorated (path : Path) (v : Value) :
    explainWith d (decorated i s description) path v = explainWith d s path v := by
  conv => lhs; unfold explainWith

end

/-! ## Describing -/

section
variable (d : Delegate)

mutual

def describeWith : Spec → Check String
  | anything _ => return "anything"
  | never _ => return neverReason
  | predicate _ p => return p.description
  | equalTo _ expected => return expected.shown
  | isInstance _ kind => return isInstanceDescription kind
  | isIn _ members => return isInDescription members
  | decorated _ spec description =>
    match description with
    | some text => return text
    | none => describeWith spec
  | coerce _ _ spec _ => describeWith spec
  | oneOf _ alternatives => do
    return "one of [" ++ String.intercalate ", " (← describeEach alternatives) ++ "]"
  | allOf _ stages => do
    return "all of [" ++ String.intercalate ", " (← describeEach stages) ++ "]"
  | collOf _ item => do return "a collection where items are " ++ (← describeWith item)
  | dict _ keys _ => do
    return "Dict: \x7b" ++ String.intercalate ", " (← describeKeys keys) ++ "\x7d"
  | deferred _ reference => do
    match ← d.resolve reference with
    | .ok spec => d.describe spec
    | .error _ => return "unresolved reference to " ++ reference.label
  | unbound _ placeholder => return unboundDescription placeholder
  | consistency _ groups => return consistencyDescription groups

def describeEach : List Spec → Check (List String)
  | [] => return []
  | s :: ss => do
    let text ← describeWith s
    return text :: (← describeEach ss)

def describeKeys : List (String × Spec) → Check (List String)
  | [] => return []
  | (key, s) :: rest => do
    let text ← describeWith s
    return (Text.quoted key ++ ": " ++ text) :: (← describeKeys rest)

end

end

end Spec

namespace Session

/-- Looks behind a reference inside a check. -/
def resolveInCheck (reference : Reference) : Check (Except SpecError Spec) :=
  fun s => some ((resolve reference).run s)

end Session

namespace Delegate

/-- Walks that may go through so many references inside one another. -/
def within : Nat → Delegate
  | 0 => ⟨Session.resolveInCheck, fun _ _ _ => none, fun _ _ _ _ => none, fun _ _ => none⟩
  | n + 1 =>
    ⟨Session.resolveInCheck, fun s v => s.conformWith (within n) v,
      fun s path v => s.explainWith (within n) path v, fun s => s.describeWith (within n)⟩

end Delegate

/-! ## Checks as callers make them -/

namespace Check

/-- How often coercions may take a check through references without its going on to a member of a
value. -/
def coercionAllowance : Nat := 0x100000

/-- How deep references may nest while a value is checked. Between two visits to one cell a check
that comes to an end goes on to a member of the value, or to a value that coercions make of it. -/
def reach (v : Value) (s : Session) : Nat :=
  (v.depth + 1) * (s.nextCell + 1) + coercionAllowance

def conform (spec : Spec) (v : Value) : Check Conformed :=
  fun s => spec.conformWith (.within (reach v s)) v s

def explain (spec : Spec) (path : Path) (v : Value) : Check (List Problem) :=
  fun s => spec.explainWith (.within (reach v s)) path v s

def describe (spec : Spec) : Check String :=
  fun s => spec.describeWith (.within (reach .null s)) s

def isValid (spec : Spec) (v : Value) : Check Bool := do return (← conform spec v).isValid

def isInvalid (spec : Spec) (v : Value) : Check Bool := do return (← conform spec v).isInvalid

/-- What is wrong with a value, if anything is. -/
def explainData (spec : Spec) (path : Path) (v : Value) : Check (Option Explanation) := do
  let problems ← explain spec path v
  return if problems.isEmpty then none else some ⟨problems⟩

/-- The conformed value, or all that is wrong with the value. -/
def assertSpec (spec : Spec) (v : Value) : Check (Except Violation Value) := do
  match ← conform spec v with
  | .valid w => return .ok w
  | .invalid => return .error ⟨v, ⟨← explain spec .root v⟩⟩

end Check

end Conform

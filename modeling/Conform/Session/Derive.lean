import Conform.Session.Basic
/-!
Deriving specs from shapes and kinds. A shape that is being derived already is referred to lazily,
so shapes that mention themselves, or each other, can be derived.
-/

namespace Conform.Session

/-- A spec that stands for a target not looked at yet. -/
def refer (label : String) (target : Target) : Build Spec := do
  let cell ← newCell
  return .deferred (← newInstance) ⟨cell, label, target⟩

/-! ## Kinds -/

section
variable (registry : Nat) (deriveRecord : String → List Kind → Build Spec)

mutual

/-- The spec of a kind, where `deriveRecord` answers for the shapes it mentions. -/
def deriveKind : Kind → Build Spec
  | .leaf k => do return .isInstance (← newInstance) k
  | .nothing => do return .isInstance (← newInstance) .null
  | .record name args => deriveRecord name args
  | .forward name args =>
    refer (Kind.forward name args).shown (.forward registry name args)
  | .list item => do
    let item ← deriveKind item
    return .collOf (← newInstance) item
  | .union kinds => do
    let alternatives ← deriveKinds kinds
    return .oneOf (← newInstance) alternatives
  | .placeholder p => do return .unbound (← newInstance) p

def deriveKinds : List Kind → Build (List Spec)
  | [] => pure []
  | k :: ks => do
    let spec ← deriveKind k
    return spec :: (← deriveKinds ks)

end

def deriveFields : List Field → Build (List (String × Spec))
  | [] => pure []
  | f :: fs => do
    let spec ← deriveKind registry deriveRecord f.kind
    return (f.name, spec) :: (← deriveFields fs)

end

/-! ## Shapes -/

/-- Adds a field to the group of its placeholder, or to a new group behind the others. -/
def joinGroup (field placeholder : String) : List PlaceholderGroup → List PlaceholderGroup
  | [] => [⟨placeholder, [field]⟩]
  | g :: gs =>
    if g.placeholder = placeholder then ⟨placeholder, g.fields ++ [field]⟩ :: gs
    else g :: joinGroup field placeholder gs

/-- The fields that are declared as bare placeholders, gathered by placeholder. -/
def placeholderGroups (fields : List Field) : List PlaceholderGroup :=
  fields.foldl (fun groups f =>
    match f.kind with
    | .placeholder p => joinGroup f.name p groups
    | _ => groups) []

/-- The spec of a record with given fields. -/
def recordSpec (config : DeriveConfig) (label : String) (groups : List PlaceholderGroup)
    (keys : List (String × Spec)) : Build Spec := do
  let dict := Spec.dict (← newInstance) keys config.extra
  let spec ←
    if config.checkPlaceholders && !groups.isEmpty then do
      let consistency := Spec.consistency (← newInstance) groups
      pure (Spec.allOf (← newInstance) [dict, consistency])
    else pure dict
  return .decorated (← newInstance) spec (some label)

/-- The spec of a shape, below the shapes on the stack. No shape stands there twice, so with a step
for each registered shape the steps outlast the stack. -/
def deriveShape (registry : Nat) (r : Registry) :
    Nat → List String → String → List Kind → Build Spec
  | steps, stack, name, args => do
    let key : MemoKey := ⟨registry, name, args⟩
    let s ← get
    match if r.config.memoize then s.memo.lookup key else none with
    | some kept => return kept
    | none =>
      if stack.contains name then
        refer (Kind.record name args).shown (.shape registry name args)
      else
        let shape ← r.lookup name
        Registry.checkArity shape args.length
        match steps with
        | 0 => refer (Kind.record name args).shown (.shape registry name args)
        | steps + 1 =>
          let fields ← r.effectiveFields shape (Registry.bind shape.params args)
          let keys ← deriveFields registry (deriveShape registry r steps (name :: stack)) fields
          let spec ←
            recordSpec r.config (Kind.record name args).shown (placeholderGroups fields) keys
          if r.config.memoize then memoize key spec else return spec

/-- A registry, as long as it lives. -/
def liveRegistry (id : Nat) : Build Registry := do
  let s ← get
  match s.registryAt? id with
  | some r => if s.isAlive id then return r else throw .registryDropped
  | none => throw .registryDropped

def derive (id : Nat) (name : String) (args : List Kind) : Build Spec := do
  let r ← liveRegistry id
  deriveShape id r r.shapes.length [] name args

def specFor (id : Nat) (kind : Kind) : Build Spec := do
  let r ← liveRegistry id
  deriveKind id (deriveShape id r r.shapes.length []) kind

/-! ## Lazy references -/

/-- Looks for the target of a lazy reference. -/
def find : Target → Build Spec
  | .shape id name args => derive id name args
  | .forward id name args => do
    let r ← liveRegistry id
    if r.contains name then derive id name args
    else
      match r.builtin? name args with
      | some kind => return .isInstance (← newInstance) kind
      | none => throw (r.unresolved name)
  | .bound name => do
    match (← get).spec? name with
    | some spec => return spec
    | none => throw (.unknownShape name)

/-- The spec of a lazy reference. Once found it is kept in the cell; a failure is not. -/
def resolve (reference : Reference) : Build Spec := do
  match (← get).filled.lookup reference.cell with
  | some spec => return spec
  | none =>
    let spec ← find reference.target
    modify fun s => { s with filled := s.filled ++ [(reference.cell, spec)] }
    return spec

end Conform.Session

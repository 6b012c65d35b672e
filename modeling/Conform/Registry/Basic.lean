import Conform.Config
import Conform.Shape
/-!
Registries of shapes: what names mean, and which fields a shape has with those of its ancestors.
-/

namespace Conform

/-- Shapes in the order they were registered. What was derived from them is kept elsewhere. -/
structure Registry where
  name : String
  config : DeriveConfig
  shapes : List Shape

namespace Registry

def shape? (r : Registry) (name : String) : Option Shape := r.shapes.find? (·.name = name)

def contains (r : Registry) (name : String) : Bool := (r.shape? name).isSome

def register (r : Registry) (shape : Shape) : Except SpecError Registry :=
  if r.contains shape.name then .error (.duplicateShape shape.name)
  else .ok { r with shapes := r.shapes ++ [shape] }

def lookup (r : Registry) (name : String) : Except SpecError Shape :=
  match r.shape? name with
  | some shape => .ok shape
  | none => .error (.unknownShape name)

/-- Arguments are given all or not at all. -/
def checkArity (shape : Shape) (actual : Nat) : Except SpecError Unit :=
  if actual = 0 ∨ actual = shape.params.length then .ok ()
  else .error (.argumentCount shape.name shape.params.length actual)

/-! ## Fields -/

/-- Binds parameters to arguments in order. Without arguments all stay unbound. -/
def bind (params : List String) (args : List Kind) : Bindings := params.zip args

/-- Adds inherited fields behind those there are; a name that is there already is not taken
again. -/
def inherit (fields inherited : List Field) : List Field :=
  inherited.foldl (fun fs f => if fs.any (·.name = f.name) then fs else fs ++ [f]) fields

/-- Adds a shape's own fields, in terms of the bindings. -/
def declareOwn (bindings : Bindings) (fields own : List Field) : List Field :=
  own.foldl (fun fs f => declareField ⟨f.name, f.kind.substitute bindings⟩ fs) fields

/-- The fields that the parents hand down, in turn. `fieldsOf` answers for one parent. -/
def inheritAll (r : Registry) (fieldsOf : Shape → Bindings → Except SpecError (List Field))
    (bindings : Bindings) : List Field → List Parent → Except SpecError (List Field)
  | fields, [] => .ok fields
  | fields, parent :: rest => do
    let shape ← r.lookup parent.shape
    checkArity shape parent.args.length
    let args := parent.args.map (Kind.substitute bindings)
    let inherited ← fieldsOf shape (bind shape.params args)
    inheritAll r fieldsOf bindings (inherit fields inherited) rest

/-- The fields of a shape below a lineage. A lineage holds no name twice, so with a step for each
registered shape there is one for every name that it can still take up. -/
def collectFields (r : Registry) :
    Nat → List String → Shape → Bindings → Except SpecError (List Field)
  | 0, _, shape, _ => .error (.cyclicInheritance shape.name)
  | steps + 1, lineage, shape, bindings =>
    if lineage.contains shape.name then .error (.cyclicInheritance shape.name)
    else do
      let inherited ←
        r.inheritAll (r.collectFields steps (shape.name :: lineage)) bindings [] shape.parents
      return declareOwn bindings inherited shape.fields

/-- The fields of a shape and its ancestors, ancestors first, with the most derived kind of each. -/
def effectiveFields (r : Registry) (shape : Shape) (bindings : Bindings) :
    Except SpecError (List Field) :=
  r.collectFields r.shapes.length [] shape bindings

/-! ## References -/

/-- The kind that a name without arguments means by itself. -/
def builtin? (r : Registry) (name : String) (args : List Kind) : Option ValueKind :=
  if r.config.builtinNames && args.isEmpty then ValueKind.ofName? name else none

def unresolved (r : Registry) (name : String) : SpecError := .unresolvedName name r.name

/-- What is wrong with the reference that a kind is, if it is one. -/
def referenceError? (r : Registry) : Kind → Option SpecError
  | .record name _ => if r.contains name then none else some (.unknownShape name)
  | .forward name args =>
    if r.contains name || (r.builtin? name args).isSome then none else some (r.unresolved name)
  | _ => none

/-- The first thing wrong with a shape's references, parents before kinds. -/
def shapeError? (r : Registry) (shape : Shape) : Option SpecError :=
  match shape.parents.find? fun parent => !r.contains parent.shape with
  | some parent => some (.unknownShape parent.shape)
  | none => (Kind.partsOfAll shape.kinds).findSome? r.referenceError?

/-- Whether every name that a shape mentions means something. Shapes are looked at by name. -/
def checkReferences (r : Registry) : Except SpecError Unit :=
  let byName := r.shapes.mergeSort fun a b => decide (a.name ≤ b.name)
  match byName.findSome? r.shapeError? with
  | some e => .error e
  | none => .ok ()

end Registry

end Conform

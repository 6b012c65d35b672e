import Conform.Kind.Term
/-!
Shapes of records, and the declarations that they are built from.
-/

namespace Conform

structure Field where
  name : String
  kind : Kind
  deriving DecidableEq

/-- A shape that another extends, with arguments in terms of the other's placeholders. -/
structure Parent where
  shape : String
  args : List Kind
  deriving DecidableEq

structure Shape where
  name : String
  params : List String
  fields : List Field
  parents : List Parent
  deriving DecidableEq

/-- Declares a field: it stays where its name first stood and takes the newest kind. -/
def declareField (field : Field) : List Field → List Field
  | [] => [field]
  | f :: fs => if f.name = field.name then field :: fs else f :: declareField field fs

/-- Every kind that a shape mentions, fields before parents. -/
def Shape.kinds (shape : Shape) : List Kind :=
  shape.fields.map (·.kind) ++ shape.parents.flatMap (·.args)

/-! ## Declarations -/

/-- A kind, or the term of one, still to be read. -/
inductive Declared where
  | kind (k : Kind)
  | term (text : String)

def Declared.kind? (placeholders : List String) : Declared → Except SpecError Kind
  | .kind k => .ok k
  | .term text => Kind.parse text placeholders

/-- Type variables are placeholders that terms may use and that are no parameters. -/
structure ShapeDeclaration where
  name : String
  params : List String
  typeVars : List String
  fields : List (String × Declared)
  parents : List (String × List Declared)

namespace ShapeDeclaration

/-- Adds fields to those declared before. -/
def collectDeclared (placeholders : List String) :
    List Field → List (String × Declared) → Except SpecError (List Field)
  | fields, [] => .ok fields
  | fields, (name, declared) :: rest => do
    let kind ← declared.kind? placeholders
    collectDeclared placeholders (declareField ⟨name, kind⟩ fields) rest

/-- The shape. All parameters and type variables are known to every term, wherever it stands. -/
def build (d : ShapeDeclaration) : Except SpecError Shape := do
  let placeholders := d.params ++ d.typeVars
  let fields ← collectDeclared placeholders [] d.fields
  let parents ← d.parents.mapM fun (shape, args) => do
    return (⟨shape, ← args.mapM (Declared.kind? placeholders)⟩ : Parent)
  return ⟨d.name, d.params, fields, parents⟩

end ShapeDeclaration

end Conform

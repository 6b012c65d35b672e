import Conform.Proofs.Registry.Distinct
import Mathlib.Data.List.Forall2
/-!
Shapes that are declared step by step. Steps may come in any order: a placeholder may be declared
behind the fields that use it. The fields of the shape stand in the order in which they are first
declared, each with the kind that it is declared with last.
-/

namespace Conform

/-- One step of a declaration. -/
inductive DeclarationStep where
  | param (name : String)
  | typeVar (name : String)
  | field (name : String) (declared : Declared)
  | parent (shape : String) (args : List Declared)

namespace DeclarationStep

/-- The field that the step declares, if it declares one. -/
def field? : DeclarationStep → Option (String × Declared)
  | field name declared => some (name, declared)
  | param _ | typeVar _ | parent _ _ => none

end DeclarationStep

namespace ShapeDeclaration

def step (d : ShapeDeclaration) : DeclarationStep → ShapeDeclaration
  | .param name => { d with params := d.params ++ [name] }
  | .typeVar name => { d with typeVars := d.typeVars ++ [name] }
  | .field name declared => { d with fields := d.fields ++ [(name, declared)] }
  | .parent shape args => { d with parents := d.parents ++ [(shape, args)] }

def ofSteps (name : String) (steps : List DeclarationStep) : ShapeDeclaration :=
  steps.foldl step ⟨name, [], [], [], []⟩

/-- The field is what a declaration of one says, where all placeholders of the shape are known. -/
def SaysOf (d : ShapeDeclaration) (declared : String × Declared) (f : Field) : Prop :=
  f.name = declared.1 ∧ declared.2.kind? (d.params ++ d.typeVars) = .ok f.kind

theorem fields_foldl_step (steps : List DeclarationStep) (d : ShapeDeclaration) :
    (steps.foldl step d).fields = d.fields ++ steps.filterMap (·.field?) := by
  induction steps generalizing d with
  | nil => exact (List.append_nil _).symm
  | cons x steps ih =>
    rw [List.foldl_cons, ih]
    cases x with
    | field name declared =>
      rw [List.filterMap_cons_some (rfl : (DeclarationStep.field name declared).field? = some _)]
      exact List.append_assoc _ _ _
    | param | typeVar | parent => rfl

theorem fields_ofSteps (name : String) (steps : List DeclarationStep) :
    (ofSteps name steps).fields = steps.filterMap (·.field?) := by
  unfold ofSteps
  rw [fields_foldl_step]
  rfl

/-- Each declaration is read, in turn, and what it says is declared. -/
theorem exists_said_of_collectDeclared {d : ShapeDeclaration}
    {declared : List (String × Declared)} {fields all : List Field}
    (h : collectDeclared (d.params ++ d.typeVars) fields declared = .ok all) :
    ∃ said, List.Forall₂ d.SaysOf declared said ∧
      all = said.foldl (fun fs f => declareField f fs) fields := by
  induction declared generalizing fields with
  | nil =>
    cases h
    exact ⟨[], .nil, rfl⟩
  | cons x declared ih =>
    obtain ⟨name, x⟩ := x
    unfold collectDeclared at h
    obtain ⟨kind, hkind, hrest⟩ := Registry.bind_eq_ok.mp h
    obtain ⟨said, hsaid, rfl⟩ := ih hrest
    exact ⟨⟨name, kind⟩ :: said, .cons ⟨rfl, hkind⟩ hsaid, rfl⟩

/-- All placeholders are known to each of the declarations that a shape's fields are settled by. -/
theorem exists_said_of_build {d : ShapeDeclaration} {shape : Shape} (h : d.build = .ok shape) :
    ∃ said, List.Forall₂ d.SaysOf d.fields said ∧ shape.fields = Field.settled said := by
  unfold build at h
  obtain ⟨fields, hfields, h⟩ := Registry.bind_eq_ok.mp h
  obtain ⟨parents, _, h⟩ := Registry.bind_eq_ok.mp h
  cases h
  obtain ⟨said, hsaid, rfl⟩ := exists_said_of_collectDeclared hfields
  refine ⟨said, hsaid, ?_⟩
  have hsettled := Field.settled_append [] said
  rw [List.nil_append] at hsettled
  exact hsettled.symm

theorem distinct_of_build {d : ShapeDeclaration} {shape : Shape} (h : d.build = .ok shape) :
    Field.Distinct shape.fields := by
  obtain ⟨said, _, hfields⟩ := exists_said_of_build h
  rw [hfields]
  exact Field.distinct_settled said

end ShapeDeclaration

end Conform

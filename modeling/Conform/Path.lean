/-!
Where a problem sits in a value: the keys and indices to follow from the outside in.
-/

namespace Conform

inductive PathStep where
  | key (name : String)
  | index (n : Nat)
  deriving DecidableEq

structure Path where
  steps : List PathStep
  deriving DecidableEq

namespace Path

def root : Path := ⟨[]⟩

def child (p : Path) (step : PathStep) : Path := ⟨p.steps ++ [step]⟩

/-- The path that leads along `p` and then along `q`. -/
def append (p q : Path) : Path := ⟨p.steps ++ q.steps⟩

def startsWith (p q : Path) : Bool := q.steps.isPrefixOf p.steps

/-- A key after the first step stands behind a point. -/
def shownStep : PathStep → String
  | .key name => "." ++ name
  | .index n => "[" ++ toString n ++ "]"

def shown (p : Path) : String :=
  match p.steps with
  | [] => "<root>"
  | .key name :: rest => name ++ String.join (rest.map shownStep)
  | steps => String.join (steps.map shownStep)

end Path

end Conform

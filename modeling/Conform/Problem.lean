import Conform.Path
import Conform.Spec.Leaf
/-!
Problems, the explanations made of them, and what a failed assertion carries.
-/

namespace Conform

/-- One failure: where, the value there, the spec that rejected it, and why. -/
structure Problem where
  path : Path
  value : Value
  spec : Spec
  reason : String

namespace Problem

def shown (p : Problem) : String :=
  p.path.shown ++ ": " ++ p.reason ++ " (value: " ++ p.value.shown ++ ")"

def equal (p q : Problem) : Bool :=
  p.path = q.path && p.value.equal q.value && p.spec.equal q.spec && p.reason = q.reason

end Problem

/-- Every problem of one value, in the order they were met. -/
structure Explanation where
  problems : List Problem

namespace Explanation

def shown (e : Explanation) : String := String.intercalate "\n" (e.problems.map Problem.shown)

def equal (d e : Explanation) : Bool :=
  d.problems.length = e.problems.length &&
    (d.problems.zip e.problems).all fun (p, q) => p.equal q

/-- Whether two values are explained alike, or neither needs an explanation. -/
def equal? : Option Explanation → Option Explanation → Bool
  | some d, some e => d.equal e
  | none, none => true
  | _, _ => false

end Explanation

/-- A value that was asserted to conform and does not. -/
structure Violation where
  value : Value
  explanation : Explanation

def Violation.message (v : Violation) : String :=
  "\nValue:\n" ++ v.value.shown ++ "\n\nProblems:\n" ++ v.explanation.shown

end Conform

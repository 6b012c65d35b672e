import Conform.Value.Basic
/-!
The functions that callers put into specs. A callback may give up instead of answering, and a
transform may also refuse.
-/

namespace Conform

/-- What a callback that gave up left behind. -/
inductive Failure where
  | text (message : String)
  | other
  deriving DecidableEq

def Failure.message : Failure → String
  | .text message => message
  | .other => "callback panicked"

/-- How a transform ends without a value. -/
inductive TransformError where
  /-- It refused, for reasons given from the outermost to the innermost. -/
  | refused (reasons : List String)
  | failed (failure : Failure)
  deriving DecidableEq

def TransformError.message : TransformError → String
  | .refused reasons => String.intercalate ": " reasons
  | .failed failure => failure.message

/-- A named transform. -/
structure Coercer where
  name : String
  transform : Value → Except TransformError Value

namespace Coercer

def apply (c : Coercer) (v : Value) : Except String Value := (c.transform v).mapError (·.message)

def shown (c : Coercer) : String := "Coercer(" ++ c.name ++ ")"

end Coercer

/-- A described check, with a reason of its own for rejections or the reason made from the
description. -/
structure Predicate where
  description : String
  check : Value → Except Failure Bool
  explain : Option (Value → Except Failure String)

namespace Predicate

/-- A check that gives up does not pass. -/
def passes (p : Predicate) (v : Value) : Bool :=
  match p.check v with
  | .ok answer => answer
  | .error _ => false

def reason (p : Predicate) (v : Value) : String :=
  match p.explain with
  | none => "not " ++ p.description
  | some explain =>
    match explain v with
    | .ok reason => reason
    | .error failure => "not " ++ p.description ++ " (" ++ failure.message ++ ")"

/-- A check that always answers. -/
def pure (description : String) (check : Value → Bool) : Predicate :=
  ⟨description, fun v => .ok (check v), none⟩

end Predicate

end Conform

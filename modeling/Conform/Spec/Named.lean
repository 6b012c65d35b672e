import Conform.Coercion
import Conform.Spec.Callback
import Conform.Value.Text
/-!
Callbacks that go by a name, for specs that are written down as data. Some of them refuse or give up
in every way there is.
-/

namespace Conform.Named

/-! ## Checks -/

def truthy : Value → Bool
  | .null => false
  | .bool b => b
  | _ => true

/-- Strings of less than four bytes. Nothing else can be measured. -/
def short : Value → Except Failure Bool
  | .string s => .ok (decide (s.utf8ByteSize < 4))
  | v => .error (.text ("cannot measure " ++ v.shown))

def positive : Value → Bool
  | .int n => 0 < n.toInt
  | _ => false

def check? : String → Option (Value → Except Failure Bool)
  | "truthy" => some fun v => .ok (truthy v)
  | "short" => some short
  | "positive" => some fun v => .ok (positive v)
  | "boom" => some fun _ => .error (.text "no")
  | "boom_any" => some fun _ => .error .other
  | _ => none

/-! ## Reasons -/

def explain? : String → Option (Value → Except Failure String)
  | "not_positive" => some fun v => .ok (v.shown ++ " is not positive")
  | "boom" => some fun _ => .error (.text "cannot explain")
  | "boom_fmt" => some fun v => .error (.text ("cannot explain " ++ v.shown))
  | "boom_any" => some fun _ => .error .other
  | _ => none

/-- Reasons for values that a transform did not take, made from the value and the transform's
own. -/
def failureReason? : String → Option (Value → String → String)
  | "value" => some fun v _ => v.shown ++ " is not a number"
  | "both" => some fun v error => v.shown ++ " failed with <" ++ error ++ ">"
  | _ => none

/-! ## Transforms -/

/-- Text as an integer, without any blanks around it; all else stays. -/
def parse : Value → Except TransformError Value
  | .string s =>
    match Integer.read s.toList with
    | .ok n => .ok (.int n)
    | .error flaw => Coercion.refuse flaw.message
  | v => .ok v

def double : Value → Except TransformError Value
  | .int n =>
    match Integer.ofInt? (2 * n.toInt) with
    | some twice => .ok (.int twice)
    | none => Coercion.refuse "overflow"
  | _ => Coercion.refuse "not an int"

/-- The item of a list or a tuple that has one. -/
def unwrap (v : Value) : Except TransformError Value :=
  match v.items? with
  | some [item] => .ok item
  | some items => Coercion.refuse ("expected one item but got " ++ toString items.length)
  | none => Coercion.refuse ("not a collection: " ++ v.shown)

def transform? : String → Option (Value → Except TransformError Value)
  | "parse" => some parse
  | "double" => some double
  | "identity" => some .ok
  | "wrap" => some fun v => .ok (.list [v])
  | "unwrap" => some unwrap
  | "context" => some fun v => .error (.refused ["outer", "middle", "inner " ++ v.shown])
  | "explode" => some fun _ => .error (.failed (.text "kaboom"))
  | "explode_fmt" => some fun v => .error (.failed (.text ("kaboom on " ++ v.shown)))
  | "explode_any" => some fun _ => .error (.failed .other)
  | _ => none

def coercer? : String → Option Coercer
  | "coerce_int" => some Coercion.integerCoercer
  | "coerce_uuid" => some Coercion.uuidCoercer
  | "coerce_url" => some Coercion.componentsCoercer
  | "closure" => some ⟨"<closure>", Coercion.toInteger⟩
  | name => (transform? name).map (⟨name, ·⟩)

end Conform.Named

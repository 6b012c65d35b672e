import Conform.Number.Decimal
import Conform.Number.Integer
import Conform.Spec.Callback
import Conform.Text.CharClass
import Conform.Uuid
import Conform.Value.Text
import Conform.WebAddress.Reader
/-!
The stock transforms: to integers, to UUIDs and to the components of web addresses.
-/

namespace Conform.Coercion

def refuse (reason : String) : Except TransformError Value := .error (.refused [reason])

/-- `2 ^ 63` or its negative, as it is written. -/
def edge (negative : Bool) : Double := .ofDecimal negative ⟨9223372036854776, 3⟩

/-- Below the negative edge, or at the positive one or above it. -/
def isOutOfRange (x : Double) : Bool :=
  (x.compare? (edge true)).any ([.lt].contains) || (x.compare? (edge false)).any ([.gt, .eq].contains)

/-- Integers stay, text is read without the blanks around it, and a whole float is cast to an integer if
that does not saturate. -/
def toInteger : Value → Except TransformError Value
  | .int n => .ok (.int n)
  | .string s =>
    match Integer.read (Text.trim s.toList) with
    | .ok n => .ok (.int n)
    | .error flaw => refuse flaw.message
  | .float x =>
    if x.isWhole then
      if isOutOfRange x then
        refuse ("float " ++ FloatLayout.plain.write x ++ " is out of range for an integer")
      else .ok (.int x.toInt64)
    else refuse ("invalid literal for int: " ++ (Value.float x).shown)
  | v => refuse ("invalid literal for int: " ++ v.shown)

/-- Text in any of its forms, or sixteen bytes; the result is text in the hyphenated form. -/
def toUuid : Value → Except TransformError Value
  | .string s =>
    match Uuid.read s with
    | .ok uuid => .ok (.string uuid.shown)
    | .error flaw => refuse flaw.message
  | .bytes data =>
    match Uuid.ofBytes data with
    | .ok uuid => .ok (.string uuid.shown)
    | .error flaw => refuse flaw.message
  | v => refuse ("expected a UUID string but got " ++ v.typeName)

def textOrNull : Option String → Value
  | some s => .string s
  | none => .null

/-- The components of an address, null where there is none. -/
def components (a : WebAddress) : Value :=
  .object [
    ("scheme", .string a.scheme),
    ("host", textOrNull a.host),
    ("port", match a.port with
      | some port => .int (Int64.ofNat port)
      | none => .null),
    ("path", .string a.path),
    ("query", textOrNull a.query),
    ("fragment", textOrNull a.fragment)]

def toComponents : Value → Except TransformError Value
  | .string s =>
    match WebAddress.read s with
    | .ok address => .ok (components address)
    | .error flaw => refuse flaw.message
  | v => refuse ("expected a URL string but got " ++ v.typeName)

def integerCoercer : Coercer := ⟨"coerce_int", toInteger⟩

def uuidCoercer : Coercer := ⟨"coerce_uuid", toUuid⟩

def componentsCoercer : Coercer := ⟨"coerce_url", toComponents⟩

end Conform.Coercion

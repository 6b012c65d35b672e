import Conform.Number.Double
import Conform.Value.Kind
/-!
The values that specs accept or reject. An object is a list of pairs: order is kept, a key may occur
twice, and the first pair with a key is the one that answers for it.
-/

namespace Conform

inductive Value where
  | null
  | bool (b : Bool)
  | int (n : Int64)
  | float (x : Double)
  | string (s : String)
  | bytes (data : List UInt8)
  | list (items : List Value)
  | tuple (items : List Value)
  | object (pairs : List (String × Value))
  deriving Inhabited

namespace Value

def kind : Value → ValueKind
  | null => .null
  | bool _ => .bool
  | int _ => .int
  | float _ => .float
  | string _ => .string
  | bytes _ => .bytes
  | list _ => .list
  | tuple _ => .tuple
  | object _ => .object

def typeName (v : Value) : String := v.kind.name

def isNull : Value → Bool
  | null => true
  | _ => false

/-- The value under a key of an object. -/
def get? (key : String) : Value → Option Value
  | object pairs => pairs.lookup key
  | _ => none

def containsKey (v : Value) (key : String) : Bool := (v.get? key).isSome

/-- The members of a list or a tuple. -/
def items? : Value → Option (List Value)
  | list items | tuple items => some items
  | _ => none

mutual

/-- How many containers deep the value is. -/
def depth : Value → Nat
  | list items => depthOfItems items + 1
  | tuple items => depthOfItems items + 1
  | object pairs => depthOfPairs pairs + 1
  | _ => 0

def depthOfItems : List Value → Nat
  | [] => 0
  | v :: vs => max v.depth (depthOfItems vs)

def depthOfPairs : List (String × Value) → Nat
  | [] => 0
  | (_, v) :: ps => max v.depth (depthOfPairs ps)

end

end Value

end Conform

import Conform.Number.Decimal
import Conform.Number.Integer
import Conform.Value.Basic
/-!
JSON documents, and values to and from them. The members of an object stand in ascending order of
their names, each name once.
-/

namespace Conform

inductive Json where
  | null
  | bool (b : Bool)
  /-- An integer of 64 bits, signed or not. -/
  | integer (n : Int)
  | number (x : Double)
  | string (s : String)
  | array (items : List Json)
  | object (members : List (String × Json))
  deriving Inhabited

namespace Json

/-! ## Members -/

/-- Puts a member in its place; one of the same name gives way to it. -/
def insert (name : String) (j : Json) : List (String × Json) → List (String × Json)
  | [] => [(name, j)]
  | (m, k) :: rest =>
    if name < m then (name, j) :: (m, k) :: rest
    else if name = m then (name, j) :: rest
    else (m, k) :: insert name j rest

/-- The object with given members, in whatever order and however often they come. -/
def ofMembers (members : List (String × Json)) : Json :=
  object (members.foldl (fun done (name, j) => insert name j done) [])

/-! ## Numbers -/

/-- The integer without a sign of 64 bits that a text is. -/
def ofUnsignedText? (text : String) : Option Json :=
  let digits := if text.toList.head? = some '+' then text.toList.tail else text.toList
  let n := Decimal.natOfDigits digits
  if !digits.isEmpty ∧ digits.all Char.isDigit ∧ n < 0x10000000000000000 then some (integer n)
  else none

/-- A number by its text: an integer, if it is one of 64 bits and not negative zero, and a float
otherwise. -/
def ofNumberText? (text : String) : Option Json :=
  if text = "-0" then some (number (.zero true))
  else
    match Integer.read text.toList with
    | .ok n => some (integer n.toInt)
    | .error _ => ofUnsignedText? text <|> (Double.ofText? text).map number

/-! ## Values -/

mutual

/-- The document of a value. Floats that are no numbers become null, bytes become integers, and
tuples become arrays. -/
def ofValue : Value → Json
  | .null => null
  | .bool b => bool b
  | .int n => integer n.toInt
  | .float x => if x.isFinite then number x else null
  | .string s => string s
  | .bytes data => array (data.map fun b => integer b.toNat)
  | .list items => array (ofItems items)
  | .tuple items => array (ofItems items)
  | .object pairs => ofMembers (ofPairs pairs)

def ofItems : List Value → List Json
  | [] => []
  | v :: vs => ofValue v :: ofItems vs

def ofPairs : List (String × Value) → List (String × Json)
  | [] => []
  | (k, v) :: ps => (k, ofValue v) :: ofPairs ps

end

mutual

/-- The value of a document. An integer past the signed ones becomes the float nearest to it. -/
def toValue : Json → Value
  | null => .null
  | bool b => .bool b
  | integer n =>
    match Integer.ofInt? n with
    | some n => .int n
    | none => .float (Double.ofInt n)
  | number x => .float x
  | string s => .string s
  | array items => .list (toItems items)
  | object members => .object (toPairs members)

def toItems : List Json → List Value
  | [] => []
  | j :: js => toValue j :: toItems js

def toPairs : List (String × Json) → List (String × Value)
  | [] => []
  | (name, j) :: rest => (name, toValue j) :: toPairs rest

end

end Json

end Conform

import Conform.Number.Notation
import Conform.Text.Quoted
import Conform.Text.Utf8
import Conform.Value.Basic
/-!
The two texts of a value: `shown`, for readers of messages, and `constructed`, which names every
constructor.
-/

namespace Conform.Value

def commaSeparated (parts : List String) : String := String.intercalate ", " parts

mutual

def shown : Value → String
  | null => "null"
  | bool b => toString b
  | int n => toString n
  | float x => FloatLayout.value.write x
  | string s => Text.quoted s
  | bytes data => "b" ++ Text.quoted (Text.Utf8.read data)
  | list items => "[" ++ commaSeparated (shownItems items) ++ "]"
  | tuple items => "(" ++ commaSeparated (shownItems items) ++ ")"
  | object pairs => "\x7b" ++ commaSeparated (shownPairs pairs) ++ "\x7d"

def shownItems : List Value → List String
  | [] => []
  | v :: vs => v.shown :: shownItems vs

def shownPairs : List (String × Value) → List String
  | [] => []
  | (k, v) :: ps => (Text.quoted k ++ ": " ++ v.shown) :: shownPairs ps

end

mutual

def constructed : Value → String
  | null => "Null"
  | bool b => "Bool(" ++ toString b ++ ")"
  | int n => "Int(" ++ toString n ++ ")"
  | float x => "Float(" ++ FloatLayout.value.write x ++ ")"
  | string s => "String(" ++ Text.quoted s ++ ")"
  | bytes data => "Bytes([" ++ commaSeparated (data.map toString) ++ "])"
  | list items => "List([" ++ commaSeparated (constructedItems items) ++ "])"
  | tuple items => "Tuple([" ++ commaSeparated (constructedItems items) ++ "])"
  | object pairs => "Object([" ++ commaSeparated (constructedPairs pairs) ++ "])"

def constructedItems : List Value → List String
  | [] => []
  | v :: vs => v.constructed :: constructedItems vs

def constructedPairs : List (String × Value) → List String
  | [] => []
  | (k, v) :: ps => ("(" ++ Text.quoted k ++ ", " ++ v.constructed ++ ")") :: constructedPairs ps

end

end Conform.Value

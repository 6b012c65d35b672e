/-!
The kinds that values are sorted into.
-/

namespace Conform

inductive ValueKind where
  | null
  | bool
  | int
  | float
  | string
  | bytes
  | list
  | tuple
  | object
  deriving DecidableEq

namespace ValueKind

/-- The word for the kind in descriptions and reasons. -/
def name : ValueKind → String
  | .null => "null"
  | .bool => "boolean"
  | .int => "integer"
  | .float => "float"
  | .string => "string"
  | .bytes => "bytes"
  | .list => "array"
  | .tuple => "tuple"
  | .object => "object"

/-- The words that terms may use for a kind. -/
def builtinNames : ValueKind → List String
  | .null => ["None", "NoneType", "null"]
  | .bool => ["bool", "Boolean", "boolean"]
  | .int => ["int", "Integer", "integer"]
  | .float => ["float", "Float", "Double"]
  | .string => ["str", "String", "string"]
  | .bytes => ["bytes", "Bytes"]
  | .list => ["list", "array"]
  | .tuple => ["tuple"]
  | .object => ["dict", "object"]

def all : List ValueKind := [.null, .bool, .int, .float, .string, .bytes, .list, .tuple, .object]

/-- The kind that a term means by a word, if it is a builtin one. -/
def ofName? (word : String) : Option ValueKind := all.find? fun k => k.builtinNames.contains word

end ValueKind

end Conform

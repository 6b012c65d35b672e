/-!
Options for the specs that are derived from shapes.
-/

namespace Conform

/-- What becomes of the keys that a dictionary spec does not declare. -/
inductive ExtraFields where
  /-- They are dropped. -/
  | ignore
  /-- They are kept. -/
  | allow
  /-- They make the value invalid. -/
  | forbid
  deriving DecidableEq

structure DeriveConfig where
  /-- Keep derived specs, one for each shape and arguments. -/
  memoize : Bool
  /-- Ask fields of one unbound placeholder to agree on a kind. -/
  checkPlaceholders : Bool
  /-- Let forward references name builtin kinds. -/
  builtinNames : Bool
  extra : ExtraFields
  deriving DecidableEq

def DeriveConfig.default : DeriveConfig := ⟨true, true, true, .ignore⟩

end Conform

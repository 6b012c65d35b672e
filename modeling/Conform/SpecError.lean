import Conform.Text.Quoted
/-!
Errors of use: what was asked for cannot be made into a spec. That a value fails a spec is no error.
-/

namespace Conform

inductive SpecError where
  | unspeccable (kind value : String)
  | invalidPattern (pattern : String)
  | unsupportedKind (text : String)
  | unknownShape (name : String)
  | unresolvedName (name registry : String)
  | argumentCount (shape : String) (expected actual : Nat)
  | cyclicInheritance (shape : String)
  | duplicateShape (shape : String)
  | registryDropped
  deriving DecidableEq

/-- The sentence for readers. What is wrong with a pattern is left to the pattern's own reader. -/
def SpecError.message : SpecError → String
  | unspeccable kind value => "don't know how to turn " ++ kind ++ " into a spec: " ++ value
  | invalidPattern pattern => "invalid pattern " ++ Text.quoted pattern ++ ": "
  | unsupportedKind text => "unsupported kind: " ++ text
  | unknownShape name => "unknown record shape '" ++ name ++ "'"
  | unresolvedName name registry =>
    "name '" ++ name ++ "' is not defined in registry '" ++ registry ++ "'"
  | argumentCount shape expected actual =>
    "record shape '" ++ shape ++ "' takes " ++ toString expected
      ++ " placeholder argument(s) but " ++ toString actual ++ " were supplied"
  | cyclicInheritance shape => "cyclic inheritance involving record shape '" ++ shape ++ "'"
  | duplicateShape shape => "record shape '" ++ shape ++ "' is already registered"
  | registryDropped => "registry has been dropped"

end Conform

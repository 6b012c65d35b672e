import Conform.Text.CharClass.Table
/-!
The character classes that names and texts are stated with.
-/

namespace Conform.Text

def isAlphabetic (c : Char) : Bool := alphabetic.contains c

def isNumeric (c : Char) : Bool := numeric.contains c

def isAlphanumeric (c : Char) : Bool := isAlphabetic c || isNumeric c

def isBlank (c : Char) : Bool := blanks.contains c

def isLegible (c : Char) : Bool := legible.contains c

/-- Without the blanks at both ends. -/
def trim (cs : List Char) : List Char :=
  ((cs.dropWhile isBlank).reverse.dropWhile isBlank).reverse

end Conform.Text

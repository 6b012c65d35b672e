/-!
64-bit integers: their range and their text.
-/

namespace Conform.Integer

/-- Why a text is no 64-bit integer. -/
inductive Flaw where
  | empty
  | invalidDigit
  | tooLarge
  | tooSmall
  deriving DecidableEq

def Flaw.message : Flaw → String
  | .empty => "cannot parse integer from empty string"
  | .invalidDigit => "invalid digit found in string"
  | .tooLarge => "number too large to fit in target type"
  | .tooSmall => "number too small to fit in target type"

def InRange (n : Int) : Prop := -0x8000000000000000 ≤ n ∧ n < 0x8000000000000000

instance (n : Int) : Decidable (InRange n) := inferInstanceAs (Decidable (_ ∧ _))

def ofInt? (n : Int) : Option Int64 := if InRange n then some (.ofInt n) else none

/-- The 64-bit integer that is nearest. -/
def saturated (n : Int) : Int64 := .ofInt (max (-0x8000000000000000) (min n 0x7fffffffffffffff))

/-- Reads on from the number `n`, away from zero. The first digit that is none, or that leaves the
range, decides the flaw. -/
def readDigits (negative : Bool) : Int → List Char → Except Flaw Int64
  | n, [] => .ok (.ofInt n)
  | n, c :: cs =>
    if !c.isDigit then .error .invalidDigit
    else
      let digit : Int := c.toNat - '0'.toNat
      let next := if negative then n * 10 - digit else n * 10 + digit
      if InRange next then readDigits negative next cs
      else .error (if negative then .tooSmall else .tooLarge)

/-- An optional sign and at least one digit. -/
def read : List Char → Except Flaw Int64
  | [] => .error .empty
  | c :: cs =>
    if c = '-' ∨ c = '+' then
      if cs.isEmpty then .error .invalidDigit else readDigits (c = '-') 0 cs
    else readDigits false 0 (c :: cs)

end Conform.Integer

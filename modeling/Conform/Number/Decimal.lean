import Conform.Number.Double
/-!
Decimal fractions, their text, and the double nearest to one.
-/

namespace Conform

/-- The number `digits * 10 ^ scale`. -/
structure Decimal where
  digits : Nat
  scale : Int
  deriving DecidableEq

namespace Decimal

/-- The number written by ASCII digits, most significant first. -/
def natOfDigits (cs : List Char) : Nat :=
  cs.foldl (fun n c => n * 10 + (c.toNat - '0'.toNat)) 0

/-- Nothing, or `e` with a signed run of digits. -/
def readExponent : List Char → Option Int
  | [] => some 0
  | e :: cs =>
    let sign : Int := if cs.head? = some '-' then -1 else 1
    let digits := if cs.head? = some '-' ∨ cs.head? = some '+' then cs.tail else cs
    if (e = 'e' ∨ e = 'E') ∧ !digits.isEmpty ∧ digits.all Char.isDigit then
      some (sign * natOfDigits digits)
    else none

/-- Digits with at most one point among or around them, then an exponent. -/
def read (cs : List Char) : Option Decimal := do
  let whole := cs.takeWhile Char.isDigit
  let rest := cs.dropWhile Char.isDigit
  let pointed := rest.head? = some '.'
  let fraction := if pointed then rest.tail.takeWhile Char.isDigit else []
  let rest := if pointed then rest.tail.dropWhile Char.isDigit else rest
  if whole.isEmpty && fraction.isEmpty then none
  else return ⟨natOfDigits (whole ++ fraction), (← readExponent rest) - fraction.length⟩

end Decimal

namespace Double

/-- The double nearest to a decimal. Far outside the range of doubles the answer is known unseen,
which keeps the powers of ten small. -/
def ofDecimal (negative : Bool) (d : Decimal) : Double :=
  if d.digits = 0 then zero negative
  else if d.scale > 400 then infinity negative
  else if d.scale + d.digits.log2 / 3 + 1 < -400 then zero negative
  else nearest negative (d.digits * Nat.pow 10 d.scale.toNat) (Nat.pow 10 (-d.scale).toNat)

/-- A signed decimal, infinity or the name of what is not a number, in either case of letters. -/
def ofText? (text : String) : Option Double :=
  let cs := text.toList
  let negative := cs.head? = some '-'
  let body := if negative ∨ cs.head? = some '+' then cs.tail else cs
  let word := String.ofList (body.map Char.toLower)
  if word = "inf" ∨ word = "infinity" then some (infinity negative)
  else if word = "nan" then some (nan negative)
  else (Decimal.read body).map (ofDecimal negative)

end Double

end Conform

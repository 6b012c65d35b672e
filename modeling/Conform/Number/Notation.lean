import Conform.Number.Shortest
/-!
How doubles are written: digits from `Double.shortest`, laid out by a `FloatLayout`.
-/

namespace Conform

/-- The choices a layout leaves open. -/
structure FloatLayout where
  /-- Decimal exponents, of the first digit, that are written without an exponent. -/
  positional : Int → Bool
  /-- What follows a positional number that is whole. -/
  wholeSuffix : String

namespace FloatLayout

/-- Values show a point or an exponent, so that no float reads as an integer. Exponents begin at
`1e16` and below `1e-4`. -/
def value : FloatLayout := ⟨fun e => decide (-4 ≤ e ∧ e < 16), ".0"⟩

/-- Every digit in place, for a float named inside a sentence. -/
def plain : FloatLayout := ⟨fun _ => true, ""⟩

def zeros (n : Nat) : String := String.ofList (List.replicate n '0')

/-- Digits without an exponent. -/
def positionalText (layout : FloatLayout) (digits : List Char) (scale : Int) : String :=
  let point := (digits.length : Int) + scale
  if 0 ≤ scale then String.ofList digits ++ zeros scale.toNat ++ layout.wholeSuffix
  else if 0 < point then
    String.ofList (digits.take point.toNat) ++ "." ++ String.ofList (digits.drop point.toNat)
  else "0." ++ zeros (-point).toNat ++ String.ofList digits

/-- One digit, the others behind a point, and the exponent of the first. -/
def exponentText (digits : List Char) (exponent : Int) : String :=
  let tail := digits.drop 1
  String.ofList (digits.take 1) ++ (if tail.isEmpty then "" else "." ++ String.ofList tail)
    ++ "e" ++ toString exponent

def magnitude (layout : FloatLayout) (d : Decimal) : String :=
  let digits := Nat.toDigits 10 d.digits
  let exponent := (digits.length : Int) - 1 + d.scale
  if layout.positional exponent then layout.positionalText digits d.scale
  else exponentText digits exponent

def write (layout : FloatLayout) (x : Double) : String :=
  if x.isNaN then "NaN"
  else
    (if x.negative then "-" else "") ++
    if !x.isFinite then "inf"
    else if x.ordinal = 0 then "0" ++ layout.wholeSuffix
    else layout.magnitude x.shortest

end FloatLayout

end Conform

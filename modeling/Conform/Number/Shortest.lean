import Conform.Number.Decimal
/-!
The shortest decimal that reads back as a given double. The candidates on a decimal grid are the two
neighbours of the value; the coarsest grid on which one of them reads back has the fewest digits.
-/

namespace Conform.Double

/-- What rounds to a double of positive magnitude, in quarters of its last place: the open interval
from `low` to `high` around `value`, with its ends if `closed`. One quarter is `2 ^ exponent`. -/
structure Surroundings where
  low : Nat
  value : Nat
  high : Nat
  exponent : Int
  closed : Bool

/-- Below a power of two the doubles lie twice as close. -/
def surroundings (x : Double) : Surroundings :=
  let value := 4 * x.significand
  let step := if x.fraction.val = 0 ∧ 1 < x.exponent.val then 1 else 2
  ⟨value - step, value, value + 2, (x.unit : Int) - 1076, x.significand % 2 = 0⟩

/-- The interval at a decimal scale: `num * 10 ^ scale` against quarters is `num * ten` against
quarters times `two`. -/
structure Grid where
  ten : Nat
  two : Nat

def Surroundings.grid (s : Surroundings) (scale : Int) : Grid where
  ten := Nat.pow 10 scale.toNat <<< (-s.exponent).toNat
  two := Nat.pow 10 (-scale).toNat <<< s.exponent.toNat

/-- Whether `n` on the grid lies in the interval. -/
def Surroundings.holds (s : Surroundings) (g : Grid) (n : Nat) : Bool :=
  if s.closed then decide (s.low * g.two ≤ n * g.ten ∧ n * g.ten ≤ s.high * g.two)
  else decide (s.low * g.two < n * g.ten ∧ n * g.ten < s.high * g.two)

/-- The better of the value's two neighbours on the grid, if either lies in the interval: the nearer
one, and of two equally near the larger. -/
def Surroundings.pick (s : Surroundings) (g : Grid) : Option Nat :=
  let below := s.value * g.two / g.ten
  let above := below + 1
  match s.holds g below, s.holds g above with
  | true, true =>
    if s.value * g.two - below * g.ten < above * g.ten - s.value * g.two then some below
    else some above
  | true, false => some below
  | false, true => some above
  | false, false => none

/-- Tries the grids from a scale downward. -/
def Surroundings.search (s : Surroundings) : Nat → Int → Decimal
  | 0, scale => ⟨0, scale⟩
  | steps + 1, scale =>
    match s.pick (s.grid scale) with
    | some n => ⟨n, scale⟩
    | none => s.search steps (scale - 1)

/-- The shortest decimal of the magnitude of a finite double other than zero. The search starts
above the value and seventeen digits always read back, so its steps suffice. -/
def shortest (x : Double) : Decimal :=
  let start := ((x.unit : Int) - 1074 + x.significand.log2 + 1) * 3 / 10 + 2
  x.surroundings.search 30 start

end Conform.Double

import Conform.Number.Integer
/-!
Binary floating-point numbers of 64 bits, held by their three fields. Order and equality are read
off integers (`Double.place`, `Double.rank`), and every rounding is `Double.nearest`, in exact
arithmetic.
-/

namespace Conform

structure Double where
  negative : Bool
  exponent : Fin 2048
  fraction : Fin 0x10000000000000
  deriving DecidableEq

namespace Double

/-- Exponent and fraction read as one number: the place of the magnitude among all magnitudes. -/
def ordinal (x : Double) : Nat := x.exponent * 0x10000000000000 + x.fraction

/-- The ordinal of infinity; beyond it lie the payloads that are not numbers. -/
def infinityOrdinal : Nat := 2047 * 0x10000000000000

theorem ordinal_lt (x : Double) : x.ordinal < 0x8000000000000000 := by
  have := x.exponent.isLt
  have := x.fraction.isLt
  unfold ordinal
  omega

def ofOrdinal (negative : Bool) (n : Nat) (h : n < 0x8000000000000000) : Double where
  negative := negative
  exponent := ⟨n / 0x10000000000000, by omega⟩
  fraction := ⟨n % 0x10000000000000, by omega⟩

@[simp] theorem ordinal_ofOrdinal (s : Bool) (n : Nat) (h : n < 0x8000000000000000) :
    (ofOrdinal s n h).ordinal = n := by
  simp only [ofOrdinal, ordinal]
  omega

def isNaN (x : Double) : Bool := decide (infinityOrdinal < x.ordinal)

def isFinite (x : Double) : Bool := decide (x.ordinal < infinityOrdinal)

def zero (negative : Bool) : Double := ⟨negative, 0, 0⟩

def infinity (negative : Bool) : Double := ⟨negative, 2047, 0⟩

/-- The quiet value that is not a number. -/
def nan (negative : Bool) : Double := ⟨negative, 2047, 0x8000000000000⟩

/-! ## Comparison -/

/-- The place on the number line; both zeros have place 0. -/
def place (x : Double) : Int := if x.negative then -(x.ordinal : Int) else x.ordinal

/-- The place in the total order of bit patterns, which puts -0.0 before 0.0. -/
def rank (x : Double) : Int := if x.negative then -(x.ordinal : Int) - 1 else x.ordinal

/-- Numeric comparison; what is not a number compares with nothing. -/
def compare? (x y : Double) : Option Ordering :=
  if x.isNaN || y.isNaN then none else some (compare x.place y.place)

/-- Numeric equality: the zeros are equal, and what is not a number differs from itself. -/
def equal (x y : Double) : Bool := x.compare? y == some .eq

def totalCompare (x y : Double) : Ordering := compare x.rank y.rank

theorem rank_injective {x y : Double} (h : x.rank = y.rank) : x = y := by
  obtain ⟨sx, ex, fx⟩ := x
  obtain ⟨sy, ey, fy⟩ := y
  simp only [rank, ordinal] at h
  cases sx <;> cases sy <;> simp only [Bool.false_eq_true, ↓reduceIte] at h <;>
    simp only [Double.mk.injEq, Fin.ext_iff, reduceCtorEq, true_and, false_and] <;> omega

/-! ## Exact value -/

/-- The magnitude is `significand * 2 ^ unit`, with `unit` counted from -1074. -/
def significand (x : Double) : Nat :=
  if x.exponent.val = 0 then x.fraction else 0x10000000000000 + x.fraction

def unit (x : Double) : Nat := x.exponent.val - 1

/-- The magnitude of a finite double in units of `2 ^ -1074`. -/
def magnitude (x : Double) : Nat := x.significand <<< x.unit

/-- How many of these units make one. -/
def unitsInOne : Nat := 1 <<< 1074

def withSign (negative : Bool) (n : Nat) : Int := if negative then -(n : Int) else n

/-- A finite double with nothing behind the point. -/
def isWhole (x : Double) : Bool := x.isFinite && x.magnitude % unitsInOne == 0

/-- Rounds toward zero and into the range of 64-bit integers; what is not a number becomes 0. -/
def toInt64 (x : Double) : Int64 :=
  if x.isNaN then 0 else Integer.saturated (withSign x.negative (x.magnitude / unitsInOne))

/-! ## Rounding -/

/-- The integer nearest to `num / den`; a tie goes to the even one. -/
def roundHalfEven (num den : Nat) : Nat :=
  let floor := num / den
  let twice := 2 * (num % den)
  if twice < den ∨ (twice = den ∧ floor % 2 = 0) then floor else floor + 1

/-- The exponent `l` with `2 ^ l ≤ num / den < 2 ^ (l + 1)`, for positive `num` and `den`. -/
def binaryExponent (num den : Nat) : Int :=
  let guess : Int := (num.log2 : Int) - den.log2
  if den <<< guess.toNat ≤ num <<< (-guess).toNat then guess else guess - 1

/-- The double nearest to `num / den`, ties to even; too large a quotient gives infinity. -/
def nearest (negative : Bool) (num den : Nat) : Double :=
  if num = 0 then zero negative
  else
    let unit := max (binaryExponent num den - 52) (-1074)
    let digits := roundHalfEven (num <<< (-unit).toNat) (den <<< unit.toNat)
    let n := (unit + 1074).toNat * 0x10000000000000 + digits
    ofOrdinal negative (min n infinityOrdinal) (by unfold infinityOrdinal; omega)

def ofInt (n : Int) : Double := nearest (n < 0) n.natAbs 1

end Double

end Conform

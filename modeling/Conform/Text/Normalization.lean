import Conform.Text.Normalization.Table
/-!
Canonical composition: characters taken apart, their marks put in order, and put together again.
-/

namespace Conform.Text.Normalization

/-! ## Hangul, whose syllables are computed -/

def syllableBase : Nat := 0xAC00
def leadBase : Nat := 0x1100
def vowelBase : Nat := 0x1161
def trailBase : Nat := 0x11A7

def isSyllable (n : Nat) : Bool := syllableBase ≤ n && n < syllableBase + 19 * 588

def decomposeSyllable (n : Nat) : List Nat :=
  let i := n - syllableBase
  [leadBase + i / 588, vowelBase + i % 588 / 28]
    ++ if i % 28 = 0 then [] else [trailBase + i % 28]

/-- A leading consonant with a vowel, or a syllable without an end with a trailing consonant. -/
def composeSyllable? (a b : Nat) : Option Nat :=
  if leadBase ≤ a ∧ a < leadBase + 19 ∧ vowelBase ≤ b ∧ b < vowelBase + 21 then
    some (syllableBase + (a - leadBase) * 588 + (b - vowelBase) * 28)
  else if isSyllable a ∧ (a - syllableBase) % 28 = 0 ∧ trailBase < b ∧ b < trailBase + 28 then
    some (a + (b - trailBase))
  else none

/-! ## All characters -/

def decompose (c : Char) : List Nat :=
  if isSyllable c.toNat then decomposeSyllable c.toNat else (decompositions.get? c).getD [c.toNat]

def combiningClass (n : Nat) : Nat :=
  match combiningClasses.get? (Char.ofNat n) with
  | some (k :: _) => k
  | _ => 0

/-- Puts a mark behind those of no higher class, but never past a character that is none. -/
def insertMark (n : Nat) : List Nat → List Nat
  | [] => [n]
  | m :: ms =>
    if combiningClass n ≠ 0 ∧ combiningClass n < combiningClass m then m :: insertMark n ms
    else n :: m :: ms

/-- Marks in the order of their classes. -/
def order (ns : List Nat) : List Nat := (ns.foldl (fun done n => insertMark n done) []).reverse

def compose? (a b : Nat) : Option Nat := composeSyllable? a b <|> compositions.lookup (a, b)

/-- Joins what follows a starter to it, as far as no mark of the same or a higher class stands
between. `last` is the class of the last character kept since the starter. -/
def composeFrom (starter : Nat) (kept : List Nat) (last : Option Nat) : List Nat → List Nat
  | [] => starter :: kept.reverse
  | n :: ns =>
    let k := combiningClass n
    let free := match last with
      | none => true
      | some l => decide (l ≠ 0 ∧ l < k)
    match if free then compose? starter n else none with
    | some joined => composeFrom joined kept last ns
    | none =>
      if k = 0 then starter :: kept.reverse ++ composeFrom n [] none ns
      else composeFrom starter (n :: kept) (some k) ns

/-- Leaves what stands before the first starter. -/
def compose : List Nat → List Nat
  | [] => []
  | n :: ns => if combiningClass n = 0 then composeFrom n [] none ns else n :: compose ns

/-- The composed form of a text. -/
def normalize (cs : List Char) : List Char :=
  (compose (order (cs.flatMap decompose))).map Char.ofNat

end Conform.Text.Normalization

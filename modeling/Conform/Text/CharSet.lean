/-!
Sets of characters, as ascending disjoint ranges of code points.
-/

namespace Conform

structure CharSet where
  ranges : Array (Nat × Nat)
  deriving DecidableEq

namespace CharSet

def hexDigit (c : Char) : Nat :=
  if c.isDigit then c.toNat - '0'.toNat else c.toNat - 'A'.toNat + 10

def hexNumber (cs : List Char) : Nat := cs.foldl (fun n c => n * 16 + hexDigit c) 0

/-- One code point, or the ends of a range with a hyphen between. -/
def readRange (cs : List Char) : Nat × Nat :=
  let low := cs.takeWhile (· != '-')
  let high := (cs.dropWhile (· != '-')).drop 1
  (hexNumber low, hexNumber (if high.isEmpty then low else high))

/-- Reads ranges in capital hexadecimal, parted by spaces. -/
def ofText (text : String) : CharSet :=
  ⟨((text.toList.splitOn ' ').filter (!·.isEmpty) |>.map readRange).toArray⟩

def ofLines (lines : List String) : CharSet := ofText (String.intercalate " " lines)

/-- Looks for `n` among the ranges from `low` up to and not including `high`. -/
def search (ranges : Array (Nat × Nat)) (n low high : Nat) : Bool :=
  if low < high then
    let middle := (low + high) / 2
    match ranges[middle]? with
    | none => false
    | some (first, last) =>
      if n < first then search ranges n low middle
      else if last < n then search ranges n (middle + 1) high
      else true
  else false
termination_by high - low

def contains (s : CharSet) (c : Char) : Bool := search s.ranges c.toNat 0 s.ranges.size

/-- Joins each range to what was gathered before it, if they touch; the last one gathered comes
first. -/
def gather (ranges : List (Nat × Nat)) : List (Nat × Nat) :=
  ranges.foldl (fun done r =>
    match done with
    | (first, last) :: before =>
      if r.1 ≤ last + 1 then (first, max last r.2) :: before else r :: done
    | [] => [r]) []

def union (sets : List CharSet) : CharSet :=
  let ranges := (sets.flatMap (·.ranges.toList)).mergeSort fun a b => decide (a.1 ≤ b.1)
  ⟨(gather ranges).reverse.toArray⟩

def ofRange (first last : Char) : CharSet := ⟨#[(first.toNat, last.toNat)]⟩

/-- No character. -/
def none : CharSet := ⟨#[]⟩

/-- Every character. -/
def all : CharSet := ⟨#[(0, 0x10FFFF)]⟩

/-! ## Differences -/

/-- The code point of the next character, past the surrogates. -/
def next (n : Nat) : Nat := if n = 0xD7FF then 0xE000 else n + 1

def previous (n : Nat) : Nat := if n = 0xE000 then 0xD7FF else n - 1

/-- What stands behind `last` and outside of the ranges that follow. Where only surrogates part two
ranges, the gap is taken to be the two characters next to them. -/
def gapsAfter : (last : Nat) → List (Nat × Nat) → List (Nat × Nat)
  | last, [] => if last < 0x10FFFF then [(next last, 0x10FFFF)] else []
  | last, (first, last') :: ranges =>
    (min (next last) (previous first), max (next last) (previous first)) :: gapsAfter last' ranges

def complement (s : CharSet) : CharSet :=
  match s.ranges.toList with
  | [] => all
  | (first, last) :: ranges =>
    ⟨((if 0 < first then [(0, previous first)] else []) ++ gapsAfter last ranges).toArray⟩

/-- What two lists of ranges share. -/
def shared : List (Nat × Nat) → List (Nat × Nat) → List (Nat × Nat)
  | [], _ => []
  | _ :: _, [] => []
  | (a, b) :: xs, (c, d) :: ys =>
    let rest := if b < d then shared xs ((c, d) :: ys) else shared ((a, b) :: xs) ys
    if max a c ≤ min b d then (max a c, min b d) :: rest else rest
termination_by xs ys => xs.length + ys.length

def intersection (s t : CharSet) : CharSet := ⟨(shared s.ranges.toList t.ranges.toList).toArray⟩

/-- What the ranges of one list leave of those of another. -/
def without : List (Nat × Nat) → List (Nat × Nat) → List (Nat × Nat)
  | [], _ => []
  | x :: xs, [] => x :: xs
  | (a, b) :: xs, (c, d) :: ys =>
    if d < a then without ((a, b) :: xs) ys
    else if b < c then (a, b) :: without xs ((c, d) :: ys)
    else
      let before := if a < c then [(a, previous c)] else []
      if d < b then before ++ without ((next d, b) :: xs) ys
      else before ++ without xs ((c, d) :: ys)
termination_by xs ys => xs.length + ys.length

def difference (s t : CharSet) : CharSet := ⟨(without s.ranges.toList t.ranges.toList).toArray⟩

def symmetricDifference (s t : CharSet) : CharSet :=
  (union [s, t]).difference (s.intersection t)

/-! ## Sizes -/

def isAscii (s : CharSet) : Bool := s.ranges.all fun r => r.2 ≤ 0x7F

/-- The character that is the only one in a set. -/
def single? (s : CharSet) : Option Char :=
  match s.ranges.toList with
  | [(first, last)] => if first = last then some (Char.ofNat first) else Option.none
  | _ => Option.none

end CharSet

end Conform

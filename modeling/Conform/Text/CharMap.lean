import Conform.Text.CharSet
/-!
Maps from characters to short lists of code points, as ascending disjoint ranges.
-/

namespace Conform

structure CharMap where
  entries : Array ((Nat × Nat) × List Nat)

namespace CharMap

/-- Code points in capital hexadecimal, parted by points. -/
def readCodes (cs : List Char) : List Nat := (cs.splitOn '.').map CharSet.hexNumber

/-- What stands before and behind an equals sign. -/
def cutEntry (cs : List Char) : List Char × List Char :=
  (cs.takeWhile (· != '='), (cs.dropWhile (· != '=')).drop 1)

def readEntry (cs : List Char) : (Nat × Nat) × List Nat :=
  (CharSet.readRange (cutEntry cs).1, readCodes (cutEntry cs).2)

/-- Reads entries parted by spaces: a range, an equals sign and the code points. -/
def ofText (text : String) : CharMap :=
  ⟨((text.toList.splitOn ' ').filter (!·.isEmpty) |>.map readEntry).toArray⟩

def ofLines (lines : List String) : CharMap := ofText (String.intercalate " " lines)

/-- Reads pairs of code points with the one that each pair has. -/
def pairsOfLines (lines : List String) : List ((Nat × Nat) × Nat) :=
  ((lines.flatMap fun line => line.toList.splitOn ' ').filter (!·.isEmpty)).filterMap fun cs =>
    match readCodes (cutEntry cs).1, readCodes (cutEntry cs).2 with
    | [a, b], [c] => some ((a, b), c)
    | _, _ => none

/-- Looks for `n` among the entries from `low` up to and not including `high`. -/
def search (entries : Array ((Nat × Nat) × List Nat)) (n low high : Nat) : Option (List Nat) :=
  if low < high then
    let middle := (low + high) / 2
    match entries[middle]? with
    | none => none
    | some ((first, last), codes) =>
      if n < first then search entries n low middle
      else if last < n then search entries n (middle + 1) high
      else some codes
  else none
termination_by high - low

/-- The index behind the entries that have a property, where only the first ones have it. -/
def bound (entries : Array ((Nat × Nat) × List Nat)) (p : (Nat × Nat) × List Nat → Bool)
    (low high : Nat) : Nat :=
  if low < high then
    let middle := (low + high) / 2
    if entries[middle]?.any p then bound entries p (middle + 1) high
    else bound entries p low middle
  else low
termination_by high - low

/-- The entries that share code points with a range. -/
def entriesIn (m : CharMap) (first last : Nat) : List ((Nat × Nat) × List Nat) :=
  let start := bound m.entries (fun e => e.1.2 < first) 0 m.entries.size
  let stop := bound m.entries (fun e => e.1.1 ≤ last) 0 m.entries.size
  (m.entries.extract start stop).toList

def get? (m : CharMap) (c : Char) : Option (List Nat) := search m.entries c.toNat 0 m.entries.size

end CharMap

end Conform

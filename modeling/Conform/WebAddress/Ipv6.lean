import Conform.WebAddress.Percent
/-!
IPv6 addresses: eight pieces of sixteen bits.
-/

namespace Conform.WebAddress.Ipv6

/-- A piece of one to four hexadecimal digits. -/
def piece? (cs : List Char) : Option Nat :=
  if 1 ≤ cs.length ∧ cs.length ≤ 4 then
    cs.foldlM (fun n c => (hexDigit? c).map (n * 16 + ·)) 0
  else none

/-- A decimal byte without needless zeros. -/
def byte? (cs : List Char) : Option Nat :=
  if cs.isEmpty || !cs.all Char.isDigit || (cs.head? = some '0' && cs.length ≠ 1) then none
  else
    let n := cs.foldl (fun n c => n * 10 + (c.toNat - '0'.toNat)) 0
    if n ≤ 255 then some n else none

/-- The two pieces of an IPv4 address with all its four bytes. -/
def embedded? (cs : List Char) : Option (List Nat) := do
  match ← (cs.splitOn '.').mapM byte? with
  | [a, b, c, d] => return [a * 256 + b, c * 256 + d]
  | _ => none

/-- Pieces between colons, of which the last may be an IPv4 address. -/
def pieces? : List (List Char) → Option (List Nat)
  | [] => some []
  | [last] => if last.contains '.' then embedded? last else (piece? last).map ([·])
  | p :: ps => do return (← piece? p) :: (← pieces? ps)

/-- The pieces on one side of a double colon, which may be none. -/
def side? (cs : List Char) : Option (List Nat) :=
  if cs.isEmpty then some [] else pieces? (cs.splitOn ':')

/-- Cuts at the first double colon. -/
def cutDouble : List Char → Option (List Char × List Char)
  | ':' :: ':' :: cs => some ([], cs)
  | c :: cs => (cutDouble cs).map fun (before, after) => (c :: before, after)
  | [] => none

/-- Eight pieces, or fewer around a double colon that stands for zeros. -/
def read (cs : List Char) : Option (List Nat) := do
  match cutDouble cs with
  | none =>
    let ps ← pieces? (cs.splitOn ':')
    if ps.length = 8 then some ps else none
  | some (before, after) =>
    let front ← side? before
    let back ← side? after
    if before.contains '.' || 8 ≤ front.length + back.length then none
    else some (front ++ List.replicate (8 - front.length - back.length) 0 ++ back)

/-- The number of zeros at the start of a list. -/
def zeroRun (ps : List Nat) : Nat := (ps.takeWhile (· = 0)).length

/-- Where the longest run of two or more zeros starts, the first of several, and its length. -/
def longestRun (ps : List Nat) : Option (Nat × Nat) :=
  (List.range ps.length).foldl (fun best i =>
    let run := zeroRun (ps.drop i)
    if (best.map (·.2)).getD 1 < run then some (i, run) else best) none

def pieceText (n : Nat) : String := String.ofList (Nat.toDigits 16 n)

def joined (ps : List Nat) : String := String.intercalate ":" (ps.map pieceText)

/-- Lower-case digits, with a double colon for the longest run of zeros. -/
def shown (ps : List Nat) : String :=
  match longestRun ps with
  | some (start, run) => joined (ps.take start) ++ "::" ++ joined (ps.drop (start + run))
  | none => joined ps

end Conform.WebAddress.Ipv6

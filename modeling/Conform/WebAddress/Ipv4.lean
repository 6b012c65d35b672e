import Conform.WebAddress.Percent
/-!
IPv4 addresses, in the loose forms that hosts are written in: up to four numbers, decimal, octal or
hexadecimal, the last of which fills all the bytes that are left.
-/

namespace Conform.WebAddress.Ipv4

def digitsValue (base : Nat) (cs : List Char) : Nat :=
  cs.foldl (fun n c => n * base + (hexDigit? c).getD 0) 0

/-- A number with the sign of its base in front. The base alone stands for zero. -/
def number? (cs : List Char) : Option Nat :=
  let (base, digits) :=
    match cs with
    | '0' :: 'x' :: rest | '0' :: 'X' :: rest => (16, rest)
    | '0' :: c :: rest => (8, c :: rest)
    | cs => (10, cs)
  if cs.isEmpty then none
  else if digits.all fun c => ((hexDigit? c).map fun d => decide (d < base)).getD false then
    some (digitsValue base digits)
  else none

/-- The parts between points, where one point may stand at the end. -/
def parts (cs : List Char) : List (List Char) :=
  let ps := cs.splitOn '.'
  if ps.getLast? = some [] then ps.dropLast else ps

/-- Whether a host is an IPv4 address or nothing: its last part reads as a number. -/
def isMeant (cs : List Char) : Bool :=
  match (parts cs).getLast? with
  | some last => (!last.isEmpty && last.all Char.isDigit) || (number? last).isSome
  | none => false

/-- The address, if all numbers fit their bytes. -/
def read (cs : List Char) : Option Nat := do
  let ps := parts cs
  if 4 < ps.length then none
  let numbers ← ps.mapM number?
  let last ← numbers.getLast?
  let firsts := numbers.dropLast
  if firsts.any (255 < ·) || Nat.pow 256 (4 - firsts.length) ≤ last then none
  else return (firsts.zipIdx.foldl (fun sum (n, i) => sum + n * Nat.pow 256 (3 - i)) last)

def shown (address : Nat) : String :=
  String.intercalate "." ([3, 2, 1, 0].map fun i => toString (address / Nat.pow 256 i % 256))

end Conform.WebAddress.Ipv4

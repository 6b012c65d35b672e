import Conform.Value.Basic
/-!
Two orders of values: `compare?`, between scalars that are alike, and `totalCompare`, between any
two.
-/

namespace Conform.Value

/-- Numbers compare by size, integers being rounded where a float stands across; text, bytes and
truth values compare with their like, and nothing else compares. -/
def compare? : Value → Value → Option Ordering
  | int m, int n => some (compare m n)
  | float x, float y => x.compare? y
  | int m, float y => (Double.ofInt m.toInt).compare? y
  | float x, int n => x.compare? (Double.ofInt n.toInt)
  | string s, string t => some (compare s t)
  | bytes s, bytes t => some (compare s t)
  | bool a, bool b => some (compare a b)
  | _, _ => none

/-- Where the kinds stand among each other; integers and floats stand together. -/
def rank : Value → Nat
  | null => 0
  | bool _ => 1
  | int _ => 2
  | float _ => 2
  | string _ => 3
  | bytes _ => 4
  | list _ => 5
  | tuple _ => 6
  | object _ => 7

mutual

/-- Values of different rank compare by rank; lists, tuples and objects compare member by member,
and a shorter one comes before what extends it. -/
def totalCompare : Value → Value → Ordering
  | bool a, bool b => compare a b
  | int m, int n => compare m n
  | float x, float y => x.totalCompare y
  | int m, float y => (Double.ofInt m.toInt).totalCompare y
  | float x, int n => x.totalCompare (Double.ofInt n.toInt)
  | string s, string t => compare s t
  | bytes s, bytes t => compare s t
  | list xs, list ys => totalCompareItems xs ys
  | tuple xs, tuple ys => totalCompareItems xs ys
  | object ps, object qs => totalComparePairs ps qs
  | v, w => compare v.rank w.rank

def totalCompareItems : List Value → List Value → Ordering
  | [], [] => .eq
  | [], _ :: _ => .lt
  | _ :: _, [] => .gt
  | x :: xs, y :: ys => (totalCompare x y).then (totalCompareItems xs ys)

def totalComparePairs : List (String × Value) → List (String × Value) → Ordering
  | [], [] => .eq
  | [], _ :: _ => .lt
  | _ :: _, [] => .gt
  | (k, x) :: ps, (l, y) :: qs =>
    ((compare k l).then (totalCompare x y)).then (totalComparePairs ps qs)

end

/-- Puts a value into a descending list, before the first that is not greater. -/
def insertDescending (v : Value) : List Value → List Value
  | [] => [v]
  | w :: ws => if totalCompare v w = .lt then w :: insertDescending v ws else v :: w :: ws

/-- Ascending, and equals stay in the order they came. -/
def sort (vs : List Value) : List Value :=
  (vs.foldl (fun sorted v => insertDescending v sorted) []).reverse

end Conform.Value

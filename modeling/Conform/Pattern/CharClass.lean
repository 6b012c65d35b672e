import Conform.Pattern.CaseVariants
/-!
Classes of characters as patterns write them, and the characters that are in one.
-/

namespace Conform

inductive CharClass where
  | single (c : Char)
  | range (first last : Char)
  /-- A set that is known by a name. -/
  | named (chars : CharSet)
  | complement (body : CharClass)
  /-- With every character that differs from a member by case alone. -/
  | anyCase (body : CharClass)
  /-- What stands between brackets. -/
  | bracketed (body : CharClass)
  | union (parts : List CharClass)
  | intersection (left right : CharClass)
  | difference (left right : CharClass)
  | symmetricDifference (left right : CharClass)
  deriving Inhabited

namespace CharClass

mutual

/-- The characters of a class. -/
def chars : CharClass → CharSet
  | single c => .ofRange c c
  | range first last => .ofRange first last
  | named set => set
  | complement body => (chars body).complement
  | anyCase body => Pattern.anyCase (chars body)
  | bracketed body => chars body
  | union parts => .union (charsOfParts parts)
  | intersection left right => (chars left).intersection (chars right)
  | difference left right => (chars left).difference (chars right)
  | symmetricDifference left right => (chars left).symmetricDifference (chars right)

def charsOfParts : List CharClass → List CharSet
  | [] => []
  | part :: parts => chars part :: charsOfParts parts

end

mutual

/-- How deep brackets, unions and set operations nest. -/
def depth : CharClass → Nat
  | single _ => 0
  | range .. => 0
  | named _ => 0
  | complement body => depth body
  | anyCase body => depth body
  | bracketed body => depth body + 1
  | union parts => depthOfParts parts + 1
  | intersection left right => max (depth left) (depth right) + 1
  | difference left right => max (depth left) (depth right) + 1
  | symmetricDifference left right => max (depth left) (depth right) + 1

def depthOfParts : List CharClass → Nat
  | [] => 0
  | part :: parts => max (depth part) (depthOfParts parts)

end

end CharClass

end Conform

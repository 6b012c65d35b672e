import Conform.Pattern.Look
/-!
Patterns in their plainest form: literals are as long as can be, and what a sequence or a choice of
patterns may be said with fewer is said so.
-/

namespace Conform

inductive Pattern where
  | empty
  | literal (text : List Char)
  | oneOf (set : CharSet)
  | look (sides : Look)
  | sequence (parts : List Pattern)
  | choice (branches : List Pattern)
  /-- A greedy repetition prefers more copies of its body to fewer. -/
  | repeated (least : Nat) (most : Option Nat) (greedy : Bool) (body : Pattern)
  /-- A group that what it matched can be asked of. -/
  | capture (body : Pattern)
  deriving Inhabited

namespace Pattern

/-! ## Lengths -/

mutual

/-- Whether nothing but the empty text can match. -/
def onlyEmpty : Pattern → Bool
  | empty => true
  | literal text => text.isEmpty
  | oneOf _ => false
  | look _ => true
  | sequence parts => onlyEmptyParts parts
  | choice branches => onlyEmptyParts branches
  | repeated _ _ _ body => onlyEmpty body
  | capture body => onlyEmpty body

def onlyEmptyParts : List Pattern → Bool
  | [] => true
  | p :: ps => onlyEmpty p && onlyEmptyParts ps

end

/-- The smaller of two lengths, if both are known. -/
def lesser : Option Nat → Option Nat → Option Nat
  | some m, some n => some (min m n)
  | _, _ => none

mutual

/-- The least number of characters that can match. It is not known of a pattern in which some part
matches no text at all. -/
def leastLength : Pattern → Option Nat
  | empty => some 0
  | literal text => some text.length
  | oneOf set => if set = .none then none else some 1
  | look _ => some 0
  | sequence parts => leastLengthOfParts parts
  | choice branches => leastLengthOfBranches branches
  | repeated least _ _ body => (least * ·) <$> leastLength body
  | capture body => leastLength body

def leastLengthOfParts : List Pattern → Option Nat
  | [] => some 0
  | p :: ps => do return (← leastLength p) + (← leastLengthOfParts ps)

def leastLengthOfBranches : List Pattern → Option Nat
  | [] => none
  | [p] => leastLength p
  | p :: ps => lesser (leastLength p) (leastLengthOfBranches ps)

end

/-! ## Anchors -/

mutual

/-- Whether a match can start only where the text does. -/
def startsAtStart : Pattern → Bool
  | look l => l = .start
  | sequence parts => startsAtStartOfParts parts
  | choice branches => startsAtStartInAll branches
  | repeated least _ _ body => 0 < least && startsAtStart body
  | capture body => startsAtStart body
  | _ => false

def startsAtStartOfParts : List Pattern → Bool
  | [] => false
  | p :: ps => startsAtStart p || (onlyEmpty p && startsAtStartOfParts ps)

def startsAtStartInAll : List Pattern → Bool
  | [] => true
  | p :: ps => startsAtStart p && startsAtStartInAll ps

end

mutual

/-- Whether a match can end only where the text does. -/
def endsAtEnd : Pattern → Bool
  | look l => l = .finish
  | sequence parts => endsAtEndOfParts parts
  | choice branches => endsAtEndInAll branches
  | repeated least _ _ body => 0 < least && endsAtEnd body
  | capture body => endsAtEnd body
  | _ => false

def endsAtEndOfParts : List Pattern → Bool
  | [] => false
  | p :: ps => endsAtEndOfParts ps || (onlyEmptyParts ps && endsAtEnd p)

def endsAtEndInAll : List Pattern → Bool
  | [] => true
  | p :: ps => endsAtEnd p && endsAtEndInAll ps

end

/-! ## Likeness -/

mutual

/-- Whether two patterns are the same. No capture is the same as another. -/
def alike : Pattern → Pattern → Bool
  | empty, empty => true
  | literal s, literal t => s == t
  | oneOf s, oneOf t => s == t
  | look l, look m => l == m
  | sequence ps, sequence qs => allAlike ps qs
  | choice ps, choice qs => allAlike ps qs
  | repeated least most greedy p, repeated least' most' greedy' q =>
    least == least' && most == most' && greedy == greedy' && alike p q
  | _, _ => false

def allAlike : List Pattern → List Pattern → Bool
  | [], [] => true
  | p :: ps, q :: qs => alike p q && allAlike ps qs
  | _, _ => false

end

/-! ## Plain forms -/

/-- One of some characters. -/
def ofChars (set : CharSet) : Pattern :=
  match set.single? with
  | some c => literal [c]
  | none => oneOf set

/-- Parts one after another, those of a sequence taken by themselves. -/
def flatParts (parts : List Pattern) : List Pattern :=
  parts.flatMap fun
    | empty => []
    | sequence ps => ps
    | p => [p]

/-- Puts a part before others; a literal takes one behind it in. -/
def consPart : Pattern → List Pattern → List Pattern
  | literal s, literal t :: ps => literal (s ++ t) :: ps
  | p, ps => p :: ps

def inSequence (parts : List Pattern) : Pattern :=
  match (flatParts parts).foldr consPart [] with
  | [] => empty
  | [p] => p
  | ps => sequence ps

/-- Branches, those of a choice taken by themselves. -/
def flatBranches (branches : List Pattern) : List Pattern :=
  branches.flatMap fun
    | choice ps => ps
    | p => [p]

def charOf? : Pattern → Option CharSet
  | literal [c] => some (.ofRange c c)
  | _ => none

def charsOf? : Pattern → Option CharSet
  | oneOf set => some set
  | _ => none

/-- A choice between branches that are no choices. Single characters make one set, as sets do. -/
def ofBranches : List Pattern → Pattern
  | [] => oneOf .none
  | [p] => p
  | ps =>
    match ps.mapM charOf? <|> ps.mapM charsOf? with
    | some sets => ofChars (.union sets)
    | none => choice ps

def partsOf : Pattern → List Pattern
  | sequence ps => ps
  | _ => []

/-- The parts that all of some sequences begin with. -/
def commonStart : List Pattern → List Pattern
  | [] => []
  | p :: ps =>
    ps.foldl (fun start q => ((start.zip q.partsOf).takeWhile fun (a, b) => a.alike b).map (·.1))
      p.partsOf

/-- A choice in which what all branches begin with stands in front. -/
def anyOf (branches : List Pattern) : Pattern :=
  let branches := flatBranches branches
  let start := commonStart branches
  if branches.length < 2 ∨ start.isEmpty then ofBranches branches
  else
    let rests := branches.map fun p => inSequence (p.partsOf.drop start.length)
    inSequence (start ++ [ofBranches (flatBranches rests)])

/-- A body so many times. What matches only the empty text need not be repeated. -/
def times (least : Nat) (most : Option Nat) (greedy : Bool) (body : Pattern) : Pattern :=
  let (least, most) :=
    if body.onlyEmpty then (min least 1, some (min (most.getD 1) 1)) else (least, most)
  if most = some 0 then empty
  else if least = 1 ∧ most = some 1 then body
  else repeated least most greedy body

end Pattern

end Conform

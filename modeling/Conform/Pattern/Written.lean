import Conform.Pattern.Basic
import Conform.Pattern.CharClass
/-!
Patterns as they are written, how deep they nest, and what they mean.
-/

namespace Conform.Pattern

inductive Written where
  /-- Nothing, and the place of a directive. -/
  | empty
  | char (set : CharClass)
  | look (sides : Look)
  | sequence (parts : List Written)
  | choice (branches : List Written)
  | repeated (least : Nat) (most : Option Nat) (greedy : Bool) (body : Written)
  | group (captures : Bool) (body : Written)
  deriving Inhabited

namespace Written

mutual

/-- How deep the parts of a pattern nest. -/
def depth : Written → Nat
  | empty => 0
  | char set => set.depth
  | look _ => 0
  | sequence parts => depthOfParts parts + 1
  | choice branches => depthOfParts branches + 1
  | repeated _ _ _ body => depth body + 1
  | group _ body => depth body + 1

def depthOfParts : List Written → Nat
  | [] => 0
  | p :: ps => max (depth p) (depthOfParts ps)

end

def depthLimit : Nat := 250

mutual

def meaning : Written → Pattern
  | empty => .empty
  | char set => .ofChars set.chars
  | look sides => .look sides
  | sequence parts => .inSequence (meaningOfParts parts)
  | choice branches => .anyOf (meaningOfParts branches)
  | repeated least most greedy body => .times least most greedy (meaning body)
  | group captures body => if captures then .capture (meaning body) else meaning body

def meaningOfParts : List Written → List Pattern
  | [] => []
  | p :: ps => meaning p :: meaningOfParts ps

end

end Written

end Conform.Pattern

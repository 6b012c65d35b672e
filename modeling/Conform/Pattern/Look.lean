import Conform.Pattern.Property
/-!
Looks: what a position in a text must have on its two sides.
-/

namespace Conform

namespace Pattern

/-- The characters that words are made of. -/
def wordChars : CharSet :=
  .union (property "Alphabetic" :: property "Join_Control" ::
    ["Mn", "Mc", "Me", "Nd", "Pc"].map category)

def isWordChar (ascii : Bool) (c : Char) : Bool :=
  if ascii then c.isAlphanum || c = '_' else wordChars.contains c

end Pattern

inductive Look where
  | start
  | finish
  | lineStart (withCarriageReturns : Bool)
  | lineEnd (withCarriageReturns : Bool)
  | wordBoundary (ascii : Bool)
  | noWordBoundary (ascii : Bool)
  | wordStart (ascii : Bool)
  | wordEnd (ascii : Bool)
  | wordStartHalf (ascii : Bool)
  | wordEndHalf (ascii : Bool)
  deriving DecidableEq

namespace Look

/-- Whether a position with these neighbours will do. -/
def holds (before after : Option Char) : Look → Bool
  | start => before.isNone
  | finish => after.isNone
  | lineStart false => before.isNone || before = some '\n'
  | lineEnd false => after.isNone || after = some '\n'
  | lineStart true =>
    before.isNone || before = some '\n' || (before = some '\r' && after ≠ some '\n')
  | lineEnd true =>
    after.isNone || after = some '\r' || (after = some '\n' && before ≠ some '\r')
  | wordBoundary ascii => isWord ascii before != isWord ascii after
  | noWordBoundary ascii => isWord ascii before == isWord ascii after
  | wordStart ascii => !isWord ascii before && isWord ascii after
  | wordEnd ascii => isWord ascii before && !isWord ascii after
  | wordStartHalf ascii => !isWord ascii before
  | wordEndHalf ascii => !isWord ascii after
where
  isWord (ascii : Bool) (c : Option Char) : Bool := c.any (Pattern.isWordChar ascii)

/-- Whether it is about words of all scripts. -/
def isUnicodeWord : Look → Bool
  | wordBoundary ascii => !ascii
  | noWordBoundary ascii => !ascii
  | wordStart ascii => !ascii
  | wordEnd ascii => !ascii
  | wordStartHalf ascii => !ascii
  | wordEndHalf ascii => !ascii
  | _ => false

/-- Whether it holds between two bytes of one character: only what asks for no ASCII word does. -/
def holdsInside : Look → Bool
  | noWordBoundary ascii => ascii
  | wordStartHalf ascii => ascii
  | wordEndHalf ascii => ascii
  | _ => false

end Look

end Conform

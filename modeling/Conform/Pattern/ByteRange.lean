/-!
Ranges of characters as ranges of bytes in UTF-8. A range of code points comes apart into sequences
of byte ranges, such that whatever is chosen from each of them in turn spells a character.
-/

namespace Conform.Pattern

structure ByteRange where
  first : UInt8
  last : UInt8
  deriving DecidableEq

namespace ByteRange

/-- The code points of one length in UTF-8, without the surrogates. -/
def blocks : List (Nat × Nat) :=
  [(0, 0x7F), (0x80, 0x7FF), (0x800, 0xD7FF), (0xE000, 0xFFFF), (0x10000, 0x10FFFF)]

/-- How many code points differ in the last byte alone, in the last two, and in the last three. -/
def spans : List Nat := [0x40, 0x1000, 0x40000]

/-- Cuts a range so that each piece either keeps within one span or is made of whole ones, for each
span. -/
def aligned : List Nat → Nat → Nat → List (Nat × Nat)
  | [], low, high => [(low, high)]
  | span :: spans, low, high =>
    if low / span = high / span then [(low, high)]
    else
      let start := (low + span - 1) / span * span
      let stop := (high + 1) / span * span
      let before := if low < start then [(low, start - 1)] else []
      let behind := if stop ≤ high then [(stop, high)] else []
      before ++ (if start < stop then aligned spans start (stop - 1) else []) ++ behind

/-- The bytes of two code points of one length, side by side. -/
def ofEnds (low high : Nat) : List ByteRange :=
  List.zipWith ByteRange.mk (String.utf8EncodeChar (Char.ofNat low))
    (String.utf8EncodeChar (Char.ofNat high))

/-- What a range has of a block, in aligned pieces. ASCII needs no aligning. -/
def piecesIn (low high : Nat) (block : Nat × Nat) : List (Nat × Nat) :=
  let low := max low block.1
  let high := min high block.2
  if high < low then []
  else if high ≤ 0x7F then [(low, high)]
  else aligned spans low high

/-- The sequences of byte ranges that the characters from `low` to `high` come apart into, in
order. -/
def sequences (low high : Nat) : List (List ByteRange) :=
  (blocks.flatMap (piecesIn low high)).map fun piece => ofEnds piece.1 piece.2

end ByteRange

end Conform.Pattern

import Conform.Pattern.Basic
/-!
Whether a pattern occurs in a text. A pattern takes a set of positions to the positions that it can
end at when it starts at one of them; such sets are the bits of a number.
-/

namespace Conform.Pattern

/-- A pattern laid over a text: the positions at which its characters and looks hold. -/
inductive Overlay where
  /-- Goes nowhere, from the positions of a set. -/
  | stay (places : Nat)
  /-- Goes one character on for each of some sets, from their positions. -/
  | steps (places : List Nat)
  | sequence (parts : List Overlay)
  | choice (branches : List Overlay)
  | repeated (least more : Nat) (body : Overlay)
  /-- Goes from each position up to the last to those of its row. -/
  | table (last : Nat) (rows : Array Nat)

namespace Overlay

/-! ## Tables -/

/-- Adds to `found` the rows of some positions, but for positions that are found already. The row of
the last position comes first. -/
def follow (last : Nat) (rows : Array Nat) (s found : Nat) : Nat :=
  rows.size.foldRev (fun i h found =>
    if s.testBit (last - i) && !found.testBit (last - i) then found ||| rows[i] else found) found

/-- Where any number of steps can lead that go nowhere but forwards. What a row leads to has been
followed to its end before the row of an earlier position is made. -/
def anyTimes (last : Nat) (step : Nat → Nat) : Array Nat :=
  (last + 1).fold (fun i _ rows =>
    let here := 1 <<< (last - i)
    rows.push (follow last rows (step here) here)) #[]

/-- Where one step or more can lead. -/
def onceOrMore (last : Nat) (step : Nat → Nat) : Array Nat :=
  let rows := anyTimes last step
  (Array.range (last + 1)).map fun i => follow last rows (step (1 <<< (last - i))) 0

/-! ## Ends -/

/-- Takes a step so many times, or until nothing changes. -/
def advance (step : Nat → Nat) : Nat → Nat → Nat
  | 0, s => s
  | n + 1, s =>
    let next := step s
    if next = s then s else advance step n next

mutual

/-- Where a pattern can end that starts at one of some positions. -/
def ends : Overlay → Nat → Nat
  | stay places, s => s &&& places
  | steps places, s => places.foldl (fun s here => (s &&& here) <<< 1) s
  | sequence parts, s => endsInTurn parts s
  | choice branches, s => endsOfAny branches s
  | repeated least more body, s =>
    advance (fun t => t ||| ends body t) more (advance (ends body) least s)
  | table last rows, s => follow last rows s 0

def endsInTurn : List Overlay → Nat → Nat
  | [], s => s
  | p :: ps, s => endsInTurn ps (ends p s)

def endsOfAny : List Overlay → Nat → Nat
  | [], _ => 0
  | p :: ps, s => ends p s ||| endsOfAny ps s

end

end Overlay

/-- The positions with a property, among the first `n`. -/
def positions (p : Nat → Bool) (n : Nat) : Nat :=
  n.fold (fun i _ found => if p i then found ||| (1 <<< i) else found) 0

/-- The positions of a text, its end among them. -/
def everywhere (text : Array Char) : Nat := (1 <<< (text.size + 1)) - 1

/-- The positions at which a set has the next character. -/
def charsAt (text : Array Char) (set : CharSet) : Nat :=
  positions (fun i => text[i]?.any set.contains) text.size

def lookAt (text : Array Char) (look : Look) : Nat :=
  positions (fun i => look.holds (if i = 0 then none else text[i - 1]?) text[i]?) (text.size + 1)

/-- Whether what matches twice in a row matches at once, as in a repetition without an end. -/
def goesOn : Pattern → Bool
  | repeated _ none _ _ => true
  | capture body => goesOn body
  | _ => false

mutual

/-- The sets of which a pattern takes characters. -/
def sets : Pattern → List CharSet
  | literal text => text.map fun c => .ofRange c c
  | oneOf set => [set]
  | sequence parts => setsOfParts parts
  | choice branches => setsOfParts branches
  | repeated _ _ _ body => sets body
  | capture body => sets body
  | _ => []

def setsOfParts : List Pattern → List CharSet
  | [] => []
  | p :: ps => sets p ++ setsOfParts ps

end

/-- The longest text for which repetitions without an end are written out as tables. -/
def tableLimit : Nat := 0x100

/-- A repetition without an end. A body that goes on by itself need not be taken more than once; of
other bodies a table saves trying them again. -/
def endless (last least : Nat) (goesOn : Bool) (body : Overlay) : Overlay :=
  if goesOn then .repeated least (1 - least) body
  else if last ≤ tableLimit then
    let rows :=
      if least = 0 then Overlay.anyTimes last body.ends else Overlay.onceOrMore last body.ends
    .sequence [.repeated (least - 1) 0 body, .table last rows]
  else .repeated least (last + 1) body

section
variable (text : Array Char) (places : CharSet → Nat)

mutual

/-- Lays a pattern over a text, where it is known at which places each set has the next
character. -/
def overlay : Pattern → Overlay
  | empty => .stay (everywhere text)
  | literal cs => .steps (cs.map fun c => places (.ofRange c c))
  | oneOf set => .steps [places set]
  | look l => .stay (lookAt text l)
  | sequence parts => .sequence (overlayParts parts)
  | choice branches => .choice (overlayParts branches)
  | repeated least most _ body =>
    match most with
    | some n => .repeated least (n - least) (overlay body)
    | none => endless text.size least body.goesOn (overlay body)
  | capture body => overlay body

def overlayParts : List Pattern → List Overlay
  | [] => []
  | p :: ps => overlay p :: overlayParts ps

end

end

/-! ## Matches inside a character -/

mutual

/-- Whether the empty text can match between two bytes of one character. -/
def emptyInside : Pattern → Bool
  | empty => true
  | literal text => text.isEmpty
  | oneOf _ => false
  | look l => l.holdsInside
  | sequence parts => emptyInsideAll parts
  | choice branches => emptyInsideAny branches
  | repeated least _ _ body => least = 0 || emptyInside body
  | capture body => emptyInside body

def emptyInsideAll : List Pattern → Bool
  | [] => true
  | p :: ps => emptyInside p && emptyInsideAll ps

def emptyInsideAny : List Pattern → Bool
  | [] => false
  | p :: ps => emptyInside p || emptyInsideAny ps

end

mutual

/-- Whether some look is about words of all scripts. -/
def looksAtUnicodeWords : Pattern → Bool
  | look l => l.isUnicodeWord
  | sequence parts => looksAtUnicodeWordsInAny parts
  | choice branches => looksAtUnicodeWordsInAny branches
  | repeated _ _ _ body => looksAtUnicodeWords body
  | capture body => looksAtUnicodeWords body
  | _ => false

def looksAtUnicodeWordsInAny : List Pattern → Bool
  | [] => false
  | p :: ps => looksAtUnicodeWords p || looksAtUnicodeWordsInAny ps

end

/-- The longest text, in bytes, in which looks at words of all scripts are followed up by trying one
way after another. -/
def trialLimit : Nat := 128

/-- Whether matches are cut short by an empty match inside their first character of more than one
byte, so that they can hold ASCII alone. Where one way is tried after another, none is cut short. -/
def isCutShort (p : Pattern) (text : String) : Bool :=
  let isTried :=
    p.looksAtUnicodeWords && text.toList.any (127 < ·.toNat) && text.utf8ByteSize ≤ trialLimit
  p.emptyInside && !isTried

/-- Whether some part of a text matches. -/
def occursIn (p : Pattern) (text : String) : Bool :=
  let chars := text.toList.toArray
  let allowed (set : CharSet) : CharSet :=
    if p.isCutShort text then set.intersection (.ofRange '\x00' '\x7f') else set
  let places := p.sets.eraseDups.map fun set => (set, charsAt chars (allowed set))
  (p.overlay chars fun set => (places.lookup set).getD 0).ends (everywhere chars) ≠ 0

end Conform.Pattern

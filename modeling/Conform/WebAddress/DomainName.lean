import Conform.Text.Normalization
import Conform.WebAddress.DomainName.Table
import Conform.WebAddress.Punycode
/-!
Domain names in ASCII. Characters are mapped and composed, each label is checked, and labels outside
ASCII are written in Punycode behind `xn--`.
-/

namespace Conform.WebAddress.DomainName

/-- What takes the place of a character, if it may stand in a domain name. -/
def mapChar (c : Char) : Option (List Char) :=
  if valid.contains c then some [c]
  else if ignored.contains c then some []
  else (mapped.get? c).map (·.map Char.ofNat)

/-- The ASCII characters that no domain name may hold. -/
def isForbidden (c : Char) : Bool :=
  c.toNat ≤ 0x20 || c.toNat = 0x7F || "%#/:<>?@[\\]^|".toList.contains c

/-! ## Labels -/

def isVirama (c : Char) : Bool := Text.Normalization.combiningClass c.toNat = 9

/-- Whether a joiner may follow `before`, given back to front, and stand before `after`: behind a
virama, or, for the non-joiner, between characters that would join. -/
def joinerAllowed (before after : List Char) (c : Char) : Bool :=
  if c.toNat ≠ 0x200C ∧ c.toNat ≠ 0x200D then true
  else if before.head?.any isVirama then true
  else
    c.toNat = 0x200C
      && (before.dropWhile transparent.contains).head?.any
        (fun b => leftJoining.contains b || dualJoining.contains b)
      && (after.dropWhile transparent.contains).head?.any
        (fun a => rightJoining.contains a || dualJoining.contains a)

def joinersAllowed : List Char → List Char → Bool
  | _, [] => true
  | before, c :: cs => joinerAllowed before cs c && joinersAllowed (c :: before) cs

/-- What holds of a label that is to stay as it is. -/
def isValidLabel (label : List Char) : Bool :=
  Text.Normalization.normalize label == label
    && !"xn--".toList.isPrefixOf label
    && !label.head?.any marks.contains
    && label.all (fun c => valid.contains c && c ≠ '.')
    && joinersAllowed [] label

/-- The most characters of a label that is written in Punycode. -/
def shownLimit : Nat := 1000

/-- The most characters behind `xn--`. -/
def hiddenLimit : Nat := 2000

def isAscii (label : List Char) : Bool := label.all Punycode.isBasic

/-- The label in Unicode: what Punycode hides comes out, and must not be ASCII. -/
def revealLabel (label : List Char) : Option (List Char) := do
  let shown ←
    if "xn--".toList.isPrefixOf label then do
      let hidden := label.drop 4
      guard (isAscii hidden ∧ hidden.length ≤ hiddenLimit)
      let shown ← Punycode.decode hidden
      guard !isAscii shown
      pure shown
    else pure label
  guard (isValidLabel shown ∧ (isAscii shown ∨ shown.length ≤ shownLimit))
  return shown

/-! ## Direction -/

def isRightToLeft (c : Char) : Bool :=
  rightToLeft.contains c || arabicLetters.contains c || arabicNumbers.contains c

def isAny (sets : List CharSet) (c : Char) : Bool := sets.any (·.contains c)

/-- The sets of characters that do not run from left to right. -/
def otherDirections : List CharSet :=
  [rightToLeft, arabicLetters, arabicNumbers, europeanNumbers, europeanSeparators,
    europeanTerminators, commonSeparators, nonspacing, boundaryNeutrals, otherNeutrals,
    unusedDirections]

/-- A character that runs from left to right. -/
def isLeftToRight (c : Char) : Bool := !isAny otherDirections c

/-- The sets that stand in labels of either direction. -/
def neutrals : List CharSet :=
  [europeanNumbers, europeanSeparators, commonSeparators, europeanTerminators, otherNeutrals,
    boundaryNeutrals, nonspacing]

/-- Whether a label keeps to one direction, which its first character gives and its last keeps. -/
def hasOneDirection (label : List Char) : Bool :=
  let lastStrong := (label.reverse.dropWhile nonspacing.contains).head?
  match label.head? with
  | none => true
  | some first =>
    if isAny [rightToLeft, arabicLetters] first then
      label.all (isAny ([rightToLeft, arabicLetters, arabicNumbers] ++ neutrals))
        && lastStrong.any (isAny [rightToLeft, arabicLetters, europeanNumbers, arabicNumbers])
        && !(label.any europeanNumbers.contains && label.any arabicNumbers.contains)
    else if isLeftToRight first then
      label.all (fun c => isLeftToRight c || isAny neutrals c)
        && lastStrong.any (fun c => isLeftToRight c || europeanNumbers.contains c)
    else false

/-! ## Names -/

def writeLabel (label : List Char) : List Char :=
  if isAscii label then label else "xn--".toList ++ Punycode.encode label

def join (labels : List (List Char)) : List Char := ['.'].intercalate labels

/-- The name in ASCII. In a name with a label from right to left every label must keep one
direction. -/
def toAscii (cs : List Char) : Option (List Char) := do
  let mapped ← cs.mapM mapChar
  let labels ← ((Text.Normalization.normalize mapped.flatten).splitOn '.').mapM revealLabel
  if labels.any (·.any isRightToLeft) && !labels.all hasOneDirection then none
  let name := join (labels.map writeLabel)
  if name.any isForbidden then none else some name

end Conform.WebAddress.DomainName

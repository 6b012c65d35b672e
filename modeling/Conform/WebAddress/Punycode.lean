/-!
Punycode: labels outside ASCII written with ASCII letters, digits and hyphens. Characters are
inserted in ascending order, and each insertion is one number of variable length.
-/

namespace Conform.WebAddress.Punycode

/-- The bias and the number of insertions are all that later digits depend on. -/
structure Progress where
  bias : Nat
  /-- The length of the label so far. -/
  length : Nat
  first : Bool

def threshold (bias weight : Nat) : Nat :=
  if weight ≤ bias then 1 else if bias + 26 ≤ weight then 26 else weight - bias

theorem threshold_bounds (bias weight : Nat) :
    1 ≤ threshold bias weight ∧ threshold bias weight ≤ 26 := by
  unfold threshold
  split
  · omega
  · split <;> omega

/-- Scales a number down, and counts 36 for each step. -/
def scale (delta count : Nat) : Nat :=
  if 455 < delta then scale (delta / 35) (count + 36) else count + 36 * delta / (delta + 38)
termination_by delta
decreasing_by omega

/-- After an insertion of size `delta`, which made the label one longer. -/
def Progress.advance (p : Progress) (delta : Nat) : Progress :=
  let damped := if p.first then delta / 700 else delta / 2
  ⟨scale (damped + damped / (p.length + 1)) 0, p.length + 1, false⟩

/-! ## Encoding -/

def digit (n : Nat) : Char := Char.ofNat (if n < 26 then n + 'a'.toNat else n - 26 + '0'.toNat)

/-- The digits of an insertion of size `n`. -/
def encodeNumber (bias weight n : Nat) : List Char :=
  let t := threshold bias weight
  if n < t then [digit n]
  else digit (t + (n - t) % (36 - t)) :: encodeNumber bias (weight + 36) ((n - t) / (36 - t))
termination_by n
decreasing_by
  have := threshold_bounds bias weight
  exact Nat.lt_of_le_of_lt (Nat.div_le_self _ _) (by omega)

/-- Goes through the label for one character: smaller ones count, and it is inserted where it
stands. -/
def encodeOccurrences (code : Nat) : List Char → Progress → Nat → List Char × Progress × Nat
  | [], p, delta => ([], p, delta)
  | c :: cs, p, delta =>
    if c.toNat < code then encodeOccurrences code cs p (delta + 1)
    else if c.toNat = code then
      let (rest, p', delta') := encodeOccurrences code cs (p.advance delta) 0
      (encodeNumber p.bias 36 delta ++ rest, p', delta')
    else encodeOccurrences code cs p delta

/-- Inserts the given characters in turn. `code` is the first that could come next. -/
def encodeFrom (label : List Char) : List Nat → Nat → Progress → Nat → List Char
  | [], _, _, _ => []
  | next :: more, code, p, delta =>
    let (text, p', delta') :=
      encodeOccurrences next label p (delta + (next - code) * (p.length + 1))
    text ++ encodeFrom label more (next + 1) p' (delta' + 1)

def isBasic (c : Char) : Bool := c.toNat < 0x80

/-- The different characters outside ASCII, ascending. -/
def extended (label : List Char) : List Nat :=
  ((label.filter (!isBasic ·)).map Char.toNat).eraseDups.mergeSort (fun a b => decide (a ≤ b))

def encode (label : List Char) : List Char :=
  let basic := label.filter isBasic
  (if basic.isEmpty then [] else basic ++ ['-'])
    ++ encodeFrom label (extended label) 0x80 ⟨72, basic.length, true⟩ 0

/-! ## Decoding -/

def digitValue? (c : Char) : Option Nat :=
  if 'a' ≤ c ∧ c ≤ 'z' then some (c.toNat - 'a'.toNat)
  else if 'A' ≤ c ∧ c ≤ 'Z' then some (c.toNat - 'A'.toNat)
  else if c.isDigit then some (c.toNat - '0'.toNat + 26)
  else none

/-- A label under way. The next character is `code` or comes after it; one that is the same as the
last is inserted at `start` or later. -/
structure Decoding where
  code : Nat
  start : Nat
  progress : Progress
  label : List Char

/-- Inserts the character that a number stands for, where it says. -/
def Decoding.insert (d : Decoding) (number : Nat) : Option Decoding :=
  let code := d.code + number / (d.progress.length + 1)
  let place := number % (d.progress.length + 1)
  if code.isValidChar then
    some ⟨code, place + 1, d.progress.advance (number - d.start),
      d.label.take place ++ Char.ofNat code :: d.label.drop place⟩
  else none

/-- Reads the insertions. `number` is read so far, and `factor` is the worth of its next digit. -/
def decodeFrom : List Char → Decoding → (number factor weight : Nat) → Option (List Char)
  | [], d, _, _, weight => if weight = 36 then some d.label else none
  | c :: cs, d, number, factor, weight => do
    let value ← digitValue? c
    let number := number + value * factor
    let t := threshold d.progress.bias weight
    if value < t then
      let d ← d.insert number
      decodeFrom cs d d.start 1 36
    else decodeFrom cs d number (factor * (36 - t)) (weight + 36)

/-- The label that a text encodes. What stands before its last hyphen are the ASCII characters. -/
def decode (text : List Char) : Option (List Char) :=
  let tail := (text.reverse.takeWhile (· ≠ '-')).reverse
  let basic := (text.take (text.length - tail.length)).dropLast
  if basic.all isBasic then
    let tail := if text.head? = some '-' ∧ basic.isEmpty then text else tail
    decodeFrom tail ⟨0x80, 0, ⟨72, basic.length, true⟩, basic⟩ 0 1 36
  else none

end Conform.WebAddress.Punycode

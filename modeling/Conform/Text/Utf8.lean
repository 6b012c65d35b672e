/-!
Reading bytes as UTF-8, with a replacement character for each piece that no text contains.
-/

namespace Conform.Text.Utf8

/-- Where a reader stands: how many continuation bytes are owed, what the next one may be, and the
code point so far. -/
structure Pending where
  owed : Nat
  low : UInt8
  high : UInt8
  code : Nat

/-- What a byte does at the start of a character. -/
inductive Start where
  | done (c : Char)
  | more (p : Pending)
  | invalid

/-- The ranges keep out overlong forms, surrogates and code points past the last. -/
def start (b : UInt8) : Start :=
  let n := b.toNat
  if b ≤ 0x7F then .done (Char.ofNat n)
  else if 0xC2 ≤ b ∧ b ≤ 0xDF then .more ⟨1, 0x80, 0xBF, n - 0xC0⟩
  else if b = 0xE0 then .more ⟨2, 0xA0, 0xBF, 0⟩
  else if b = 0xED then .more ⟨2, 0x80, 0x9F, 13⟩
  else if 0xE1 ≤ b ∧ b ≤ 0xEF then .more ⟨2, 0x80, 0xBF, n - 0xE0⟩
  else if b = 0xF0 then .more ⟨3, 0x90, 0xBF, 0⟩
  else if 0xF1 ≤ b ∧ b ≤ 0xF3 then .more ⟨3, 0x80, 0xBF, n - 0xF0⟩
  else if b = 0xF4 then .more ⟨3, 0x80, 0x8F, 4⟩
  else .invalid

def replacement : Char := '\uFFFD'

/-- A character cut short becomes one replacement, and the byte that cut it starts anew. -/
def readFrom : Option Pending → List UInt8 → List Char
  | none, [] => []
  | some _, [] => [replacement]
  | none, b :: bs =>
    match start b with
    | .done c => c :: readFrom none bs
    | .more p => readFrom (some p) bs
    | .invalid => replacement :: readFrom none bs
  | some p, b :: bs =>
    if p.low ≤ b ∧ b ≤ p.high then
      let code := p.code * 64 + (b.toNat - 0x80)
      if p.owed ≤ 1 then Char.ofNat code :: readFrom none bs
      else readFrom (some ⟨p.owed - 1, 0x80, 0xBF, code⟩) bs
    else
      match start b with
      | .done c => replacement :: c :: readFrom none bs
      | .more q => replacement :: readFrom (some q) bs
      | .invalid => replacement :: replacement :: readFrom none bs

def read (bytes : List UInt8) : String := String.ofList (readFrom none bytes)

end Conform.Text.Utf8

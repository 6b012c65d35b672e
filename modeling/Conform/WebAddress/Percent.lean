import Conform.Text.Utf8
/-!
Percent encoding: bytes of a text written as a percent sign and two hexadecimal digits.
-/

namespace Conform.WebAddress

/-- The part of the ASCII characters that a component must not hold as they are. Outside ASCII every
character is encoded. -/
abbrev EncodeSet := Char → Bool

namespace EncodeSet

def controls : EncodeSet := fun c => c.toNat < 0x20 || c.toNat = 0x7F

def fragment : EncodeSet := fun c => controls c || " \"<>\x60".toList.contains c

def path : EncodeSet := fun c => fragment c || "#?\x7b\x7d".toList.contains c

def query : EncodeSet := fun c => controls c || " \"#<>".toList.contains c

/-- The query of a special scheme encodes the apostrophe too. -/
def specialQuery : EncodeSet := fun c => query c || c = '\''

end EncodeSet

def encodeByte (b : UInt8) : List Char :=
  ['%', (Nat.digitChar (b.toNat / 16)).toUpper, (Nat.digitChar (b.toNat % 16)).toUpper]

def encodeChar (set : EncodeSet) (c : Char) : List Char :=
  if c.toNat < 0x80 && !set c then [c] else (String.utf8EncodeChar c).flatMap encodeByte

def percentEncode (set : EncodeSet) (cs : List Char) : List Char := cs.flatMap (encodeChar set)

def hexDigit? (c : Char) : Option Nat :=
  if c.isDigit then some (c.toNat - '0'.toNat)
  else if 'a' ≤ c ∧ c ≤ 'f' then some (c.toNat - 'a'.toNat + 10)
  else if 'A' ≤ c ∧ c ≤ 'F' then some (c.toNat - 'A'.toNat + 10)
  else none

/-- The bytes meant by a text. A percent sign without two digits behind it means itself. -/
def percentDecode : List Char → List UInt8
  | '%' :: h :: l :: cs =>
    match hexDigit? h, hexDigit? l with
    | some h, some l => UInt8.ofNat (h * 16 + l) :: percentDecode cs
    | _, _ => 0x25 :: percentDecode (h :: l :: cs)
  | c :: cs => String.utf8EncodeChar c ++ percentDecode cs
  | [] => []

end Conform.WebAddress

/-!
UUIDs: their bytes, the forms that they are written in, and what is wrong with a text that is none.
-/

namespace Conform

/-- Sixteen bytes, read as one number. -/
structure Uuid where
  value : Fin 0x100000000000000000000000000000000
  deriving DecidableEq

namespace Uuid

/-- The lengths of the hyphenated groups. -/
def groupLengths : List Nat := [8, 4, 4, 4, 12]

inductive Flaw where
  | character (c : Char) (index : Nat)
  | digitCount (found : Nat)
  | groupCount (found : Nat)
  | groupLength (group expected found : Nat)
  | byteCount (found : Nat)
  deriving DecidableEq

def Flaw.message : Flaw → String
  | .character c index =>
    "invalid character: found \x60" ++ c.toString ++ "\x60 at " ++ toString index
  | .digitCount found => "invalid length: found " ++ toString found
  | .groupCount found => "invalid group count: expected 5, found " ++ toString found
  | .groupLength group expected found =>
    "invalid group length in group " ++ toString group ++ ": expected " ++ toString expected
      ++ ", found " ++ toString found
  | .byteCount found => "invalid length: expected 16 bytes, found " ++ toString found

def isHexDigit (c : Char) : Bool :=
  c.isDigit || ('a' ≤ c && c ≤ 'f') || ('A' ≤ c && c ≤ 'F')

def hexValue (c : Char) : Nat :=
  if c.isDigit then c.toNat - '0'.toNat
  else if c ≤ 'F' then c.toNat - 'A'.toNat + 10
  else c.toNat - 'a'.toNat + 10

def ofHexDigits (cs : List Char) : Uuid :=
  ⟨Fin.ofNat _ (cs.foldl (fun n c => n * 16 + hexValue c) 0)⟩

/-! ## Reading -/

/-- Hex digits in groups of the right lengths. -/
def readHyphenated (cs : List Char) : Option Uuid :=
  let groups := cs.splitOn '-'
  if groups.map (·.length) = groupLengths ∧ groups.all (·.all isHexDigit) then
    some (ofHexDigits groups.flatten)
  else none

def readDigits (cs : List Char) : Option Uuid :=
  if cs.length = 32 ∧ cs.all isHexDigit then some (ofHexDigits cs) else none

/-- What stands inside braces, if there are any. -/
def unbraced? (cs : List Char) : Option (List Char) :=
  if 2 ≤ cs.length ∧ cs.head? = some '{' ∧ cs.getLast? = some '}' then some cs.tail.dropLast
  else none

def urnStart : List Char := "urn:uuid:".toList

/-- What stands behind the name of the URN namespace, if it is there. -/
def urnBody? (cs : List Char) : Option (List Char) :=
  if urnStart.isPrefixOf cs then some (cs.drop urnStart.length) else none

/-- The same for a name in letters of any case. -/
def looseUrnBody? (cs : List Char) : Option (List Char) :=
  if urnStart.isPrefixOf (cs.map Char.toLower) then some (cs.drop urnStart.length) else none

/-- How many bytes a text takes in UTF-8. -/
def byteLength (cs : List Char) : Nat := (String.ofList cs).utf8ByteSize

/-- The bytes of a UUID in hyphenated groups. -/
def hyphenatedLength : Nat := 36

/-- The longest text that is looked at: a UUID in hyphenated groups as a URN. -/
def longestLength : Nat := hyphenatedLength + urnStart.length

/-- What is or should be hyphenated groups, in a text that has as many bytes as they take, alone, in
braces or as a URN. -/
def framed? (cs : List Char) : Option (List Char) :=
  let length := byteLength cs
  if length = hyphenatedLength then some cs
  else if length = hyphenatedLength + 2 then unbraced? cs
  else if length = longestLength then looseUrnBody? cs
  else none

/-- The first character that belongs to no UUID. -/
def badCharacter? (offset : Nat) : List Char → Option Flaw
  | [] => none
  | c :: cs =>
    if isHexDigit c || c = '-' then badCharacter? (offset + 1) cs else some (.character c offset)

/-- The first group without its length. The last is measured from where it should start to the end
of the whole text. -/
def badGroup (length : Nat) (founds : List Nat) : Flaw :=
  let groups := ((groupLengths.zip founds).zipIdx).take 4
  match groups.find? fun ((expected, found), _) => expected ≠ found with
  | some ((expected, found), group) => .groupLength group expected found
  | none => .groupLength 4 12 (length - 24)

/-- What is wrong with groups of hex digits in a text of some length. -/
def groupFlaw (length : Nat) (body : List Char) : Flaw :=
  let groups := body.splitOn '-'
  if groups.length ≠ 5 then .groupCount groups.length
  else badGroup length (groups.map (·.length))

/-- What is wrong with a text of a length that no UUID has. Braces and the name of the URN namespace
count when a character is looked for, and digits without hyphens are taken for a bare UUID. -/
def unframedFlaw (cs : List Char) : Flaw :=
  let (body, offset) :=
    match unbraced? cs, urnBody? cs with
    | some body, _ => (body, 1)
    | none, some body => (body, urnStart.length)
    | none, none => (cs, 0)
  (badCharacter? offset body).getD
    (if offset = 0 ∧ !body.contains '-' then .digitCount cs.length
    else groupFlaw cs.length body)

/-- What is wrong with a text that is no UUID. -/
def flaw (cs : List Char) : Flaw :=
  if longestLength < byteLength cs then .digitCount (byteLength cs)
  else
    match framed? cs with
    | some body => (badCharacter? 0 body).getD (groupFlaw cs.length body)
    | none => unframedFlaw cs

/-- Digits alone or in groups, and groups also in braces or as a URN. -/
def read (text : String) : Except Flaw Uuid :=
  let cs := text.toList
  match readDigits cs <|> (framed? cs).bind readHyphenated with
  | some uuid => .ok uuid
  | none => .error (flaw cs)

def ofBytes (bytes : List UInt8) : Except Flaw Uuid :=
  if bytes.length = 16 then .ok ⟨Fin.ofNat _ (bytes.foldl (fun n b => n * 256 + b.toNat) 0)⟩
  else .error (.byteCount bytes.length)

/-! ## Writing -/

/-- The digits, with zeros in front up to 32. -/
def digits (u : Uuid) : List Char :=
  let ds := Nat.toDigits 16 u.value.val
  List.replicate (32 - ds.length) '0' ++ ds

/-- Cuts a list into pieces of given lengths. -/
def cut : List Nat → List Char → List (List Char)
  | [], _ => []
  | n :: ns, cs => cs.take n :: cut ns (cs.drop n)

/-- Lower-case digits in hyphenated groups. -/
def shown (u : Uuid) : String :=
  String.intercalate "-" ((cut groupLengths u.digits).map String.ofList)

end Uuid

end Conform

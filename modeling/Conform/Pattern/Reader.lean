import Conform.Number.Decimal
import Conform.Pattern.Automaton
import Conform.Pattern.Written
import Conform.Text.CharClass
/-!
Reading patterns. A pattern is read from the left in one pass; flags hold from where they are set to
the end of the group around them. Every way to fail is the same: there is no pattern.
-/

namespace Conform.Pattern

structure Flags where
  anyCase : Bool
  multiLine : Bool
  dotAll : Bool
  carriageReturns : Bool
  /-- Repetitions are greedy only where they are marked as the others. -/
  swapped : Bool
  unicode : Bool
  /-- Blanks and comments are left out. -/
  spaced : Bool

namespace Flags

def default : Flags := ⟨false, false, false, false, false, true, false⟩

/-- Sets the flag of a letter. -/
def set (f : Flags) (value : Bool) : Char → Option Flags
  | 'i' => some { f with anyCase := value }
  | 'm' => some { f with multiLine := value }
  | 's' => some { f with dotAll := value }
  | 'R' => some { f with carriageReturns := value }
  | 'U' => some { f with swapped := value }
  | 'u' => some { f with unicode := value }
  | 'x' => some { f with spaced := value }
  | _ => none

/-- Letters before a hyphen set flags, and those behind it unset them. -/
def setAll (f : Flags) (letters : List Char) : Option Flags := do
  let on := letters.takeWhile (· ≠ '-')
  let off := (letters.dropWhile (· ≠ '-')).drop 1
  if letters.getLast? = some '-' ∨ ¬letters.Nodup then none
  else off.foldlM (·.set false) (← on.foldlM (·.set true) f)

end Flags

/-- What is still to be read, the flags that hold, and the names that groups have. -/
structure Reading where
  rest : List Char
  flags : Flags
  names : List String

abbrev Reader := StateT Reading Option

namespace Reader

def rest : Reader (List Char) := return (← get).rest

def setRest (cs : List Char) : Reader Unit := modify fun r => { r with rest := cs }

def flags : Reader Flags := return (← get).flags

def setFlags (f : Flags) : Reader Unit := modify fun r => { r with flags := f }

def peek : Reader (Option Char) := return (← rest).head?

def take : Reader Char := do
  match ← rest with
  | [] => failure
  | c :: cs => setRest cs; return c

def dropBlanks (inComment : Bool) : List Char → List Char
  | [] => []
  | c :: cs =>
    if inComment then dropBlanks (c ≠ '\n') cs
    else if Text.isBlank c then dropBlanks false cs
    else if c = '#' then dropBlanks true cs
    else c :: cs

def skipBlanks : Reader Unit := do
  if (← flags).spaced then setRest (dropBlanks false (← rest))

/-- A character, and the blanks behind it. -/
def takeSpaced : Reader Char := do
  let c ← take
  skipBlanks
  return c

/-- Takes a character if it comes next. -/
def takeIf (c : Char) : Reader Bool := do
  if (← peek) = some c then do
    let _taken ← take
    return true
  else return false

def expect (c : Char) : Reader Unit := do guard (← takeIf c)

/-- Takes a text if it comes next. -/
def takeText (text : String) : Reader Bool := do
  let cs ← rest
  if text.toList.isPrefixOf cs then do
    setRest (cs.drop text.length)
    return true
  else return false

/-- Takes characters, and the blanks between them, as long as they have a property. -/
def takeWhileFrom (p : Char → Bool) : Nat → Reader (List Char)
  | 0 => return []
  | n + 1 => do
    match ← peek with
    | none => return []
    | some c =>
      if p c then do
        let c ← takeSpaced
        return c :: (← takeWhileFrom p n)
      else return []

def takeWhile (p : Char → Bool) : Reader (List Char) := do takeWhileFrom p (← rest).length

/-! ## Numbers -/

/-- A number of 32 bits, with blanks around it. -/
def decimal : Reader Nat := do
  setRest ((← rest).dropWhile Text.isBlank)
  let digits ← takeWhile Char.isDigit
  let _blanks ← takeWhile Text.isBlank
  let n := Decimal.natOfDigits digits
  guard (!digits.isEmpty ∧ n < 0x100000000)
  return n

def isHex (c : Char) : Bool := c.isDigit || ('A' ≤ c.toUpper && c.toUpper ≤ 'F')

def charOfHex (digits : List Char) : Reader Char := do
  let n := CharSet.hexNumber (digits.map Char.toUpper)
  guard (!digits.isEmpty ∧ n.isValidChar)
  return Char.ofNat n

/-- A code point, between braces or of a fixed number of digits. One of two digits means a byte
where Unicode is off, and only ASCII will do. -/
def hexChar (width : Nat) : Reader Char := do
  skipBlanks
  if ← takeIf '{' then do
    skipBlanks
    let digits ← takeWhile isHex
    expect '}'
    skipBlanks
    charOfHex digits
  else do
    let digits ← (List.replicate width ()).mapM fun _ => takeSpaced
    guard (digits.all isHex)
    let c ← charOfHex digits
    guard ((← flags).unicode ∨ width ≠ 2 ∨ c.toNat < 128)
    return c

/-! ## Classes -/

def asciiChars : CharClass := .range '\x00' '\x7f'

/-- Lets case be, or not, as the flags have it. Where Unicode is off it is ASCII's case alone. -/
def fold (f : Flags) (chars : CharClass) : CharClass :=
  if !f.anyCase then chars
  else if f.unicode then .anyCase chars
  else .intersection (.anyCase chars) asciiChars

def negateIf (negated : Bool) (chars : CharClass) : Reader CharClass := do
  guard (!negated ∨ (← flags).unicode)
  return if negated then .complement chars else chars

def foldChar (f : Flags) (c : Char) : CharClass :=
  if f.unicode || c.toNat < 128 then fold f (.single c) else .single c

/-- Classes of one letter, within ASCII. -/
def asciiShorthand : Char → CharSet
  | 'd' => .ofText "30-39"
  | 's' => .ofText "9-D 20"
  | _ => .ofText "30-39 41-5A 5F 61-7A"

def shorthand : Char → CharSet
  | 'd' => category "Nd"
  | 's' => property "White_Space"
  | _ => wordChars

def shorthandClass (letter : Char) : Reader CharClass := do
  let chars := if (← flags).unicode then shorthand letter.toLower else asciiShorthand letter.toLower
  negateIf letter.isUpper (.named chars)

/-- A property between braces: a name, or a name and a value with one of three signs between. -/
def charsCalled? (cs : List Char) : Option (Bool × CharSet) :=
  let text := String.ofList cs
  match text.splitOn "!=" with
  | name :: value :: values =>
    (charsWith? name (String.intercalate "!=" (value :: values))).map (true, ·)
  | _ =>
    let sign := if cs.contains ':' then ':' else '='
    if cs.contains sign then
      (charsWith? (String.ofList (cs.takeWhile (· ≠ sign)))
        (String.ofList ((cs.dropWhile (· ≠ sign)).drop 1))).map (false, ·)
    else (charsNamed? text).map (false, ·)

def propertyClass (negated : Bool) : Reader CharClass := do
  skipBlanks
  let f ← flags
  guard f.unicode
  let (negates, chars) ←
    if ← takeIf '{' then do
      skipBlanks
      let name ← takeWhile (· ≠ '}')
      expect '}'
      (charsCalled? name : Option _)
    else do
      let c ← takeSpaced
      guard (c ≠ '\\')
      ((charsNamed? c.toString).map (false, ·) : Option _)
  negateIf (negated != negates) (fold f (.named chars))

/-- The classes that are called by a word between colons. -/
def wordClasses : List (String × CharSet) := [
  ("alnum", .ofText "30-39 41-5A 61-7A"), ("alpha", .ofText "41-5A 61-7A"),
  ("ascii", .ofText "0-7F"), ("blank", .ofText "9 20"), ("cntrl", .ofText "0-1F 7F"),
  ("digit", .ofText "30-39"), ("graph", .ofText "21-7E"), ("lower", .ofText "61-7A"),
  ("print", .ofText "20-7E"), ("punct", .ofText "21-2F 3A-40 5B-60 7B-7E"),
  ("space", .ofText "9-D 20"), ("upper", .ofText "41-5A"),
  ("word", .ofText "30-39 41-5A 5F 61-7A"), ("xdigit", .ofText "30-39 41-46 61-66")]

/-- A word between colons and brackets; text that only looks like one is left alone. -/
def wordClass? : Reader (Option CharClass) := do
  match ← rest with
  | '[' :: ':' :: cs =>
    let negated := cs.head? = some '^'
    let cs := if negated then cs.drop 1 else cs
    match wordClasses.lookup (String.ofList (cs.takeWhile (· ≠ ':'))), cs.dropWhile (· ≠ ':') with
    | some chars, ':' :: ']' :: after => do
      setRest after
      return some (← negateIf negated (fold (← flags) (.named chars)))
    | _, _ => return none
  | _ => return none

/-! ## Escapes -/

inductive Escape where
  | char (c : Char)
  | chars (c : CharClass)
  | look (l : Look)

def lookOfWord (ascii : Bool) (word : List Char) : Option Look :=
  match String.ofList word with
  | "start" => some (.wordStart ascii)
  | "end" => some (.wordEnd ascii)
  | "start-half" => some (.wordStartHalf ascii)
  | "end-half" => some (.wordEndHalf ascii)
  | _ => none

def continuesLookWord (c : Char) : Bool := c.isAlpha || c = '-'

/-- A word boundary, which may be said more closely between braces. Braces around anything else than
a word are left for a repetition. -/
def boundary (ascii : Bool) : Reader Look := do
  let before ← get
  if ← takeIf '{' then do
    skipBlanks
    guard (← peek).isSome
    if (← peek).any continuesLookWord then do
      let word ← takeWhile continuesLookWord
      expect '}'
      (lookOfWord ascii word : Option Look)
    else do
      set before
      return .wordBoundary ascii
  else return .wordBoundary ascii

/-- A character that stands for itself behind a backslash: ASCII without letters and digits, and
without the marks of word boundaries. -/
def isEscapable (c : Char) : Bool := c.toNat < 128 && !c.isAlphanum && c ≠ '<' && c ≠ '>'

def controlChar? : Char → Option Char
  | 'a' => some '\x07'
  | 'f' => some '\x0c'
  | 'n' => some '\n'
  | 'r' => some '\r'
  | 't' => some '\t'
  | 'v' => some '\x0b'
  | _ => none

/-- What follows a backslash. -/
def escape : Reader Escape := do
  let ascii := !(← flags).unicode
  let c ← take
  match c with
  | 'x' => return .char (← hexChar 2)
  | 'u' => return .char (← hexChar 4)
  | 'U' => return .char (← hexChar 8)
  | 'p' => return .chars (← propertyClass false)
  | 'P' => return .chars (← propertyClass true)
  | 'A' => return .look .start
  | 'z' => return .look .finish
  | 'b' => return .look (← boundary ascii)
  | 'B' => return .look (.noWordBoundary ascii)
  | '<' => return .look (.wordStart ascii)
  | '>' => return .look (.wordEnd ascii)
  | c =>
    if "dswDSW".toList.contains c then return .chars (← shorthandClass c)
    else if isEscapable c then return .char c
    else do
      let c ← (controlChar? c : Option Char)
      return .char c

/-! ## Brackets -/

/-- A character or a class inside brackets. -/
def bracketItem : Reader (Char ⊕ CharClass) := do
  let c ← take
  let item ←
    if c = '\\' then do
      match ← escape with
      | .char c => pure (.inl c)
      | .chars chars => pure (.inr chars)
      | .look _ => failure
    else pure (.inl c)
  match item with
  | .inl c => guard ((← flags).unicode ∨ c.toNat < 128)
  | .inr _ => pure ()
  return item

/-- The character that a hyphen is judged by: the next that is no blank and opens no comment. What
is in a comment counts, and so does whatever comes next where there is nothing else. -/
def behindHyphen? (spaced : Bool) (cs : List Char) : Option Char :=
  let rest := cs.dropWhile Text.isBlank
  let found? :=
    if rest.head? = some '#' then rest.tail.find? (!Text.isBlank ·) else rest.head?
  if spaced then found? <|> cs.head? else cs.head?

/-- An item, or a range between two characters. -/
def bracketRange : Reader CharClass := do
  let first ← bracketItem
  skipBlanks
  let isRange ← do
    match ← rest with
    | [] => failure
    | '-' :: cs =>
      let next := behindHyphen? (← flags).spaced cs
      pure (decide (next ≠ some ']' ∧ next ≠ some '-'))
    | _ => pure false
  if isRange then do
    let _hyphen ← takeSpaced
    match first, ← bracketItem with
    | .inl a, .inl b => do
      guard (a ≤ b)
      return .range a b
    | _, _ => failure
  else
    match first with
    | .inl c => return .single c
    | .inr chars => return chars

/-- The items of a bracket so far, the latest first. -/
def unionOf : List CharClass → CharClass
  | [item] => item
  | items => .union items.reverse

/-- The sign of a set operation, which is written twice. -/
def operation? : Char → Option (CharClass → CharClass → CharClass)
  | '&' => some .intersection
  | '-' => some .difference
  | '~' => some .symmetricDifference
  | _ => none

/-- Takes the sign of a set operation if one comes next. -/
def takeOperation : Reader (Option (CharClass → CharClass → CharClass)) := do
  match ← rest with
  | c :: d :: cs =>
    if c = d && (operation? c).isSome then do
      setRest cs
      return operation? c
    else return none
  | _ => return none

mutual

/-- A class behind its opening bracket. A closing bracket that comes first stands for itself, and so
do hyphens. -/
def bracket : Nat → Reader CharClass
  | 0 => failure
  | steps + 1 => do
    skipBlanks
    let negated ← takeIf '^'
    if negated then skipBlanks
    let hyphens ← takeWhile (· = '-')
    let closing ← if hyphens.isEmpty && (← peek) = some ']' then takeIf ']' else pure false
    let items := (if closing then [']'] else hyphens).map CharClass.single
    let body ← bracketBody steps id items
    negateIf negated (fold (← flags) (.bracketed body))

/-- The rest of a class. `combine` takes what stands left of the latest operation to its right. -/
def bracketBody : Nat → (CharClass → CharClass) → List CharClass → Reader CharClass
  | 0, _, _ => failure
  | steps + 1, combine, items => do
    skipBlanks
    if ← takeIf ']' then return combine (unionOf items)
    else if let some chars ← wordClass? then bracketBody steps combine (chars :: items)
    else if ← takeIf '[' then do
      let inner ← bracket steps
      bracketBody steps combine (inner :: items)
    else if let some operation ← takeOperation then do
      let f ← flags
      let left := fold f (combine (unionOf items))
      bracketBody steps (fun right => operation left (fold f right)) []
    else do
      let range ← bracketRange
      bracketBody steps combine (range :: items)

end

/-! ## Groups -/

def startsGroupName (c : Char) : Bool := Text.isAlphabetic c || c = '_'

def continuesGroupName (c : Char) : Bool :=
  Text.isAlphanumeric c || c = '_' || c = '.' || c = '[' || c = ']'

/-- A name that no group had before, and the angle that closes it. -/
def groupName : Reader Unit := do
  let cs ← rest
  let name := cs.takeWhile (· ≠ '>')
  guard (name.head?.any startsGroupName ∧ name.all continuesGroupName)
  setRest (cs.drop name.length)
  expect '>'
  let name := String.ofList name
  guard !(← get).names.contains name
  modify fun r => { r with names := name :: r.names }

/-- What opens a group behind its parenthesis: whether it captures, and the flags inside of it. A
directive, which only sets flags for what follows, opens none. -/
def opening : Reader (Option (Bool × Flags)) := do
  skipBlanks
  let outer ← flags
  if ← takeText "?P<" then do
    groupName
    return some (true, outer)
  else if ← takeText "?<" then do
    groupName
    return some (true, outer)
  else if ← takeIf '?' then do
    let cs ← rest
    let letters := cs.takeWhile fun c => c ≠ ':' ∧ c ≠ ')'
    setRest (cs.drop letters.length)
    let inner ← (outer.setAll letters : Option Flags)
    if ← takeIf ':' then return some (false, inner)
    else do
      expect ')'
      guard (!letters.isEmpty)
      setFlags inner
      return none
  else return some (true, outer)

/-! ## Repetition -/

/-- How often a part is repeated. -/
structure Counts where
  least : Nat
  most : Option Nat
  greedy : Bool

/-- What a mark says of a repetition, with the question mark behind it that makes one lazy. -/
def counts (mark : Char) : Reader Counts := do
  let (least, most) ←
    match mark with
    | '*' => pure (0, none)
    | '+' => pure (1, none)
    | '?' => pure (0, some 1)
    | _ => do
      skipBlanks
      let least ← decimal
      let most ←
        if ← takeIf ',' then do
          skipBlanks
          if (← peek) = some '}' then pure none else some <$> decimal
        else pure (some least)
      expect '}'
      guard (most.all (least ≤ ·))
      skipBlanks
      pure (least, most)
  let marked ← takeIf '?'
  return ⟨least, most, marked = (← flags).swapped⟩

/-- Repeats the latest part. There must be one, and it must not be a directive. -/
def repeatLast (counts : Counts) : List Written → Reader (List Written)
  | [] => failure
  | .empty :: _ => failure
  | p :: ps => return .repeated counts.least counts.most counts.greedy p :: ps

/-! ## Parts -/

def dot (f : Flags) : CharClass :=
  if f.dotAll then .named .all
  else if f.carriageReturns then .complement (.named (.ofText "A D"))
  else .complement (.single '\n')

/-- A part that is no group, no class and no repetition. -/
def simplePart : Reader Written := do
  let f ← flags
  match ← take with
  | '.' => do
    guard f.unicode
    return .char (dot f)
  | '^' => return .look (if f.multiLine then .lineStart f.carriageReturns else .start)
  | '$' => return .look (if f.multiLine then .lineEnd f.carriageReturns else .finish)
  | '\\' => do
    match ← escape with
    | .char c => return .char (foldChar f c)
    | .chars chars => return .char chars
    | .look l => return .look l
  | c => return .char (foldChar f c)

/-- Parts one after another, the latest first. -/
def sequenceOf : List Written → Written
  | [] => .empty
  | [p] => p
  | ps => .sequence ps.reverse

/-- Alternatives, the latest first. -/
def choiceOf : List Written → Written
  | [p] => p
  | ps => .choice ps.reverse

def isRepetition (c : Char) : Bool := c = '*' || c = '+' || c = '?' || c = '{'

/-- Alternatives up to the end or to a closing parenthesis, which is left. -/
def parts : Nat → List Written → List Written → Reader Written
  | 0, _, _ => failure
  | steps + 1, latest, alternatives => do
    skipBlanks
    match ← peek with
    | none => return choiceOf (sequenceOf latest :: alternatives)
    | some ')' => return choiceOf (sequenceOf latest :: alternatives)
    | some c =>
      if ← takeIf '|' then parts steps [] (sequenceOf latest :: alternatives)
      else if ← takeIf '(' then do
        let outer ← flags
        match ← opening with
        | none => parts steps (.empty :: latest) alternatives
        | some (captures, inner) => do
          setFlags inner
          let body ← parts steps [] []
          expect ')'
          setFlags outer
          parts steps (.group captures body :: latest) alternatives
      else if ← takeIf '[' then do
        let chars ← bracket (2 * ((← rest).length + 1))
        parts steps (.char chars :: latest) alternatives
      else if isRepetition c then do
        let latest ← repeatLast (← counts (← take)) latest
        parts steps latest alternatives
      else do
        let part ← simplePart
        parts steps (part :: latest) alternatives

end Reader

/-- The pattern that is the whole of a text, within the limits on depth and size. -/
def read (text : String) : Option Pattern := do
  let chars := text.toList
  let (written, after) ← (Reader.parts (chars.length + 1) [] []).run ⟨chars, .default, []⟩
  guard (after.rest.isEmpty ∧ written.depth ≤ Written.depthLimit)
  let pattern := written.meaning
  guard pattern.fits
  return pattern

end Conform.Pattern

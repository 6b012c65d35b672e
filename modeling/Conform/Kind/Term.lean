import Conform.Kind.Basic
import Conform.SpecError
/-!
Terms, the text that kinds are written in. Text is cut into tokens, tokens make a term of names
applied to arguments, and the term means a kind. A text that fails at any stage is an unsupported
kind.
-/

namespace Conform

namespace Term

inductive Token where
  | name (text : String)
  | quoted (text : String)
  | opening
  | closing
  | comma
  deriving DecidableEq

def startsName (c : Char) : Bool := Text.isAlphanumeric c || c = '_'

def continuesName (c : Char) : Bool := startsName c || c = '.'

/-- A mark that is a token by itself. -/
def mark? : Char → Option Token
  | '[' => some .opening
  | ']' => some .closing
  | ',' => some .comma
  | _ => none

theorem length_drop_dropWhile_le (p : Char → Bool) (cs : List Char) :
    ((cs.dropWhile p).drop 1).length ≤ cs.length := by
  have := (List.dropWhile_sublist p (l := cs)).length_le
  simp only [List.length_drop]
  omega

/-- What stands at the front of a text: a blank, which is no token, or a token. Names are as long as
can be. A quoted part ends at the next quote of its own sort and loses the blanks at its ends. -/
def front? (c : Char) (cs : List Char) :
    Option (Option Token × { rest : List Char // rest.length ≤ cs.length }) :=
  if Text.isBlank c then some (none, ⟨cs, Nat.le_refl _⟩)
  else if let some mark := mark? c then some (some mark, ⟨cs, Nat.le_refl _⟩)
  else if c = '\'' ∨ c = '"' then
    if cs.contains c then
      some (some (.quoted (String.ofList (Text.trim (cs.takeWhile (· ≠ c))))),
        ⟨(cs.dropWhile (· ≠ c)).drop 1, length_drop_dropWhile_le _ cs⟩)
    else none
  else if startsName c then
    some (some (.name (String.ofList (c :: cs.takeWhile continuesName))),
      ⟨cs.dropWhile continuesName, (List.dropWhile_sublist continuesName).length_le⟩)
  else none

def tokens? : List Char → Option (List Token)
  | [] => some []
  | c :: cs =>
    match front? c cs with
    | none => none
    | some (token, ⟨rest, _shorter⟩) => (token.toList ++ ·) <$> tokens? rest
termination_by cs => cs.length
decreasing_by simp only [List.length_cons]; omega

end Term

/-- A name, quoted or bare, applied to arguments. -/
inductive Term where
  | apply (quoted : Bool) (name : String) (args : List Term)

namespace Term

mutual

/-- One term from the front of the tokens, and the tokens after it. -/
def readTerm : (ts : List Token) → Option (Term × { rest : List Token // rest.length < ts.length })
  | .name n :: ts =>
    match readArgs ts with
    | some (args, ⟨rest, h⟩) =>
      some (apply false n args, ⟨rest, by simp only [List.length_cons]; omega⟩)
    | none => none
  | .quoted n :: ts =>
    match readArgs ts with
    | some (args, ⟨rest, h⟩) =>
      some (apply true n args, ⟨rest, by simp only [List.length_cons]; omega⟩)
    | none => none
  | _ => none
termination_by ts => ts.length

/-- Arguments between brackets, if a bracket opens. -/
def readArgs : (ts : List Token) →
    Option (List Term × { rest : List Token // rest.length ≤ ts.length })
  | .opening :: ts =>
    match readTerm ts with
    | some (first, ⟨rest, h⟩) =>
      match readMore rest with
      | some (others, ⟨rest', h'⟩) =>
        some (first :: others, ⟨rest', by simp only [List.length_cons]; omega⟩)
      | none => none
    | none => none
  | ts => some ([], ⟨ts, Nat.le_refl _⟩)
termination_by ts => ts.length

/-- The further arguments, up to the bracket that closes. -/
def readMore : (ts : List Token) →
    Option (List Term × { rest : List Token // rest.length < ts.length })
  | .comma :: ts =>
    match readTerm ts with
    | some (next, ⟨rest, h⟩) =>
      match readMore rest with
      | some (others, ⟨rest', h'⟩) =>
        some (next :: others, ⟨rest', by simp only [List.length_cons]; omega⟩)
      | none => none
    | none => none
  | .closing :: ts => some ([], ⟨ts, by simp⟩)
  | _ => none
termination_by ts => ts.length

end

/-- The term that is the whole of the tokens. -/
def ofTokens? (ts : List Token) : Option Term :=
  match readTerm ts with
  | some (term, ⟨[], _⟩) => some term
  | _ => none

/-! ## Meaning -/

/-- A name that a quoted part may hold. -/
def isReference (name : String) : Bool := !name.isEmpty && name.toList.all continuesName

/-- Names that take arguments of their own and are never records, but for those with a meaning. -/
def reservedNames : List String :=
  ["Dict", "dict", "Tuple", "tuple", "Set", "set", "Optional", "List", "Union"]

def startsRecordName (name : String) : Bool :=
  match name.toList with
  | c :: _ => Text.isAlphabetic c || c = '_'
  | [] => false

def isNothing (name : String) : Bool := name = "None" || name = "NoneType"

/-- A bare name alone. -/
def bareKind? (placeholders : List String) (name : String) : Option Kind :=
  if isNothing name then some .nothing
  else if placeholders.contains name then some (.placeholder name)
  else if let some k := ValueKind.ofName? name then some (.leaf k)
  else if reservedNames.contains name then none
  else if startsRecordName name then some (.record name [])
  else none

/-- A bare name with arguments. -/
def appliedKind? (name : String) (args : List Kind) : Option Kind :=
  match args with
  | [item] =>
    if ["List", "list", "Sequence"].contains name then some (.list item)
    else if name = "Optional" then some item.optional
    else if name = "Union" then some (.union [item])
    else if reservedNames.contains name then none
    else if startsRecordName name then some (.record name [item])
    else none
  | args =>
    if name = "Union" then some (.union args)
    else if reservedNames.contains name then none
    else if startsRecordName name then some (.record name args)
    else none

mutual

/-- The kind that a term means, if each name takes the arguments it is given. -/
def kind? (placeholders : List String) : Term → Option Kind
  | apply true name args =>
    if isReference name then (.forward name ·) <$> kinds? placeholders args else none
  | apply false name [] => bareKind? placeholders name
  | apply false name (arg :: args) =>
    kinds? placeholders (arg :: args) >>= appliedKind? name

def kinds? (placeholders : List String) : List Term → Option (List Kind)
  | [] => some []
  | term :: terms => do return (← kind? placeholders term) :: (← kinds? placeholders terms)

end

end Term

/-- The kind that a term means, where some names are known as placeholders. -/
def Kind.parse (text : String) (placeholders : List String) : Except SpecError Kind :=
  match Term.tokens? text.toList >>= Term.ofTokens? >>= Term.kind? placeholders with
  | some k => .ok k
  | none => .error (.unsupportedKind text)

end Conform

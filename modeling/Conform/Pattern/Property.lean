import Conform.Pattern.Property.Age
import Conform.Pattern.Property.Binary
import Conform.Pattern.Property.Break
import Conform.Pattern.Property.Category
import Conform.Pattern.Property.Script
/-!
The sets of characters that patterns may call by a Unicode name. Names are compared without regard
to case, blanks, hyphens, underscores and a leading "is".
-/

namespace Conform.Pattern

/-! ## Categories -/

/-- The names of categories: two letters, the long name, and what else there is. Letters alone stand
for all categories that begin with them. -/
def categoryNames : List (List String) := [
  ["L", "Letter"], ["Lu", "Uppercase_Letter"], ["Ll", "Lowercase_Letter"],
  ["Lt", "Titlecase_Letter"], ["Lm", "Modifier_Letter"], ["Lo", "Other_Letter"],
  ["M", "Mark", "Combining_Mark"], ["Mn", "Nonspacing_Mark"], ["Mc", "Spacing_Mark"],
  ["Me", "Enclosing_Mark"],
  ["N", "Number"], ["Nd", "Decimal_Number", "digit"], ["Nl", "Letter_Number"],
  ["No", "Other_Number"],
  ["P", "Punctuation", "punct"], ["Pc", "Connector_Punctuation"], ["Pd", "Dash_Punctuation"],
  ["Ps", "Open_Punctuation"], ["Pe", "Close_Punctuation"], ["Pi", "Initial_Punctuation"],
  ["Pf", "Final_Punctuation"], ["Po", "Other_Punctuation"],
  ["S", "Symbol"], ["Sm", "Math_Symbol"], ["Sc", "Currency_Symbol"], ["Sk", "Modifier_Symbol"],
  ["So", "Other_Symbol"],
  ["Z", "Separator"], ["Zs", "Space_Separator"], ["Zl", "Line_Separator"],
  ["Zp", "Paragraph_Separator"],
  ["Cc", "Control", "cntrl"], ["Cf", "Format"], ["Co", "Private_Use"]]

def casedLetterNames : List String := ["LC", "Cased_Letter"]

def unassignedNames : List String := ["Cn", "Unassigned"]

def otherNames : List String := ["C", "Other"]

/-- All code points of the categories that begin with some letters. -/
def categoriesOf (letters : String) : CharSet :=
  .union ((categories.filter fun c => letters.toList.isPrefixOf c.1.toList).map (·.2))

/-- The code points that no category has. -/
def unassigned : CharSet := (categoriesOf "").complement

/-! ## Names -/

/-- The short names of the binary properties, each before the long one. -/
def propertyNames : List (String × String) := [
  ("AHex", "ASCII_Hex_Digit"), ("Alpha", "Alphabetic"), ("Bidi_C", "Bidi_Control"),
  ("Bidi_M", "Bidi_Mirrored"), ("CI", "Case_Ignorable"), ("CWCF", "Changes_When_Casefolded"),
  ("CWCM", "Changes_When_Casemapped"), ("CWL", "Changes_When_Lowercased"),
  ("CWT", "Changes_When_Titlecased"), ("CWU", "Changes_When_Uppercased"), ("Dep", "Deprecated"),
  ("DI", "Default_Ignorable_Code_Point"), ("Dia", "Diacritic"), ("EBase", "Emoji_Modifier_Base"),
  ("EComp", "Emoji_Component"), ("EMod", "Emoji_Modifier"), ("EPres", "Emoji_Presentation"),
  ("Ext", "Extender"), ("ExtPict", "Extended_Pictographic"), ("Gr_Base", "Grapheme_Base"),
  ("Gr_Ext", "Grapheme_Extend"), ("Gr_Link", "Grapheme_Link"), ("Hex", "Hex_Digit"),
  ("IDC", "ID_Continue"), ("Ideo", "Ideographic"), ("IDS", "ID_Start"),
  ("IDSB", "IDS_Binary_Operator"), ("IDST", "IDS_Trinary_Operator"), ("IDSU", "IDS_Unary_Operator"),
  ("Join_C", "Join_Control"), ("LOE", "Logical_Order_Exception"), ("Lower", "Lowercase"),
  ("MCM", "Modifier_Combining_Mark"), ("NChar", "Noncharacter_Code_Point"),
  ("OAlpha", "Other_Alphabetic"), ("ODI", "Other_Default_Ignorable_Code_Point"),
  ("OGr_Ext", "Other_Grapheme_Extend"), ("OIDC", "Other_ID_Continue"), ("OIDS", "Other_ID_Start"),
  ("OLower", "Other_Lowercase"), ("OMath", "Other_Math"), ("OUpper", "Other_Uppercase"),
  ("Pat_Syn", "Pattern_Syntax"), ("Pat_WS", "Pattern_White_Space"),
  ("PCM", "Prepended_Concatenation_Mark"), ("QMark", "Quotation_Mark"),
  ("RI", "Regional_Indicator"), ("SD", "Soft_Dotted"), ("space", "White_Space"),
  ("STerm", "Sentence_Terminal"), ("Term", "Terminal_Punctuation"), ("UIdeo", "Unified_Ideograph"),
  ("Upper", "Uppercase"), ("VS", "Variation_Selector"), ("WSpace", "White_Space"),
  ("XIDC", "XID_Continue"), ("XIDS", "XID_Start")]

def isSeparator (c : Char) : Bool := c = ' ' || c = '_' || c = '-'

def withoutSeparators (cs : List Char) : List Char :=
  (cs.filter fun c => c.toNat < 128 && !isSeparator c).map Char.toLower

/-- A name as it is compared with others. The one name that is short for "ISO comment" is kept apart
from that of a category. -/
def looseName (name : String) : List Char :=
  match name.toList with
  | i :: s :: rest =>
    if i.toLower = 'i' ∧ s.toLower = 's' ∧ withoutSeparators rest ≠ ['c'] then
      withoutSeparators rest
    else withoutSeparators (i :: s :: rest)
  | cs => withoutSeparators cs

def sameName (name other : String) : Bool := looseName name == looseName other

def hasName (names : List String) (name : String) : Bool := names.any (sameName name)

/-- The long name that a name is short for. -/
def longName (names : List (String × String)) (name : String) : String :=
  match names.find? fun n => sameName n.1 name with
  | some (_, long) => long
  | none => name

def findNamed? (sets : List (String × CharSet)) (name : String) : Option CharSet :=
  (sets.find? fun s => sameName s.1 name).map (·.2)

/-! ## Lookup -/

def propertyNamed? (name : String) : Option CharSet :=
  findNamed? properties (longName propertyNames name)

def scriptNamed? (name : String) : Option CharSet :=
  findNamed? scripts (longName scriptNames name)

/-- A script with the characters that it shares with others; one without such characters is as it
is. -/
def scriptExtensionNamed? (name : String) : Option CharSet :=
  findNamed? scriptExtensions (longName scriptNames name) <|> scriptNamed? name

def categoryNamed? (name : String) : Option CharSet :=
  if sameName name "any" then some .all
  else if sameName name "ascii" then some (.ofRange '\x00' '\x7f')
  else if sameName name "assigned" then some unassigned.complement
  else if hasName unassignedNames name then some unassigned
  else if hasName otherNames name then some (.union [categoriesOf "C", unassigned])
  else if hasName casedLetterNames name then
    some (CharSet.union (["Lu", "Ll", "Lt"].map category))
  else
    match categoryNames.find? (hasName · name) with
    | some (letters :: _) => some (categoriesOf letters)
    | _ => none

/-- A version by its number, or by its name, which has a letter in front of the digits. -/
def isVersion (number name : String) : Bool :=
  sameName number name
    || looseName name == 'v' :: (looseName number).filter (· ≠ '.')

/-- The code points that were assigned by some version. -/
def assignedBy? (name : String) : Option CharSet :=
  let (earlier, later) := ages.span fun age => !isVersion age.1 name
  match later with
  | [] => none
  | age :: _ => some (.union ((earlier ++ [age]).map (·.2)))

def breakNamed? (breaks : List (String × String × CharSet)) (name : String) : Option CharSet :=
  (breaks.find? fun b => sameName b.1 name || sameName b.2.1 name).map (·.2.2)

def graphemeBreakNamed? (name : String) : Option CharSet :=
  if sameName name "LV" then some openSyllables
  else if sameName name "LVT" then some closedSyllables
  else breakNamed? graphemeBreaks name

/-- A name alone is that of a category, of a binary property or of a script. -/
def charsNamed? (name : String) : Option CharSet :=
  categoryNamed? name <|> propertyNamed? name <|> scriptNamed? name

/-- The characters that have a value for a property. -/
def charsWith? (property value : String) : Option CharSet :=
  if hasName ["General_Category", "gc"] property then categoryNamed? value
  else if hasName ["Script", "sc"] property then scriptNamed? value
  else if hasName ["Script_Extensions", "scx"] property then scriptExtensionNamed? value
  else if hasName ["Age"] property then assignedBy? value
  else if hasName ["Grapheme_Cluster_Break", "GCB"] property then graphemeBreakNamed? value
  else if hasName ["Word_Break", "WB"] property then breakNamed? wordBreaks value
  else if hasName ["Sentence_Break", "SB"] property then breakNamed? sentenceBreaks value
  else none

end Conform.Pattern

import Conform.Text.CharClass
/-!
Strings between double quotes, with every character that could mislead a reader written as an
escape.
-/

namespace Conform.Text

/-- The code point in lower-case hexadecimal, between braces. -/
def codeEscape (c : Char) : String :=
  "\\u\x7b" ++ String.ofList (Nat.toDigits 16 c.toNat) ++ "\x7d"

def escape (c : Char) : String :=
  match c with
  | '"' => "\\\""
  | '\\' => "\\\\"
  | '\n' => "\\n"
  | '\r' => "\\r"
  | '\t' => "\\t"
  | '\x00' => "\\0"
  | c => if isLegible c then c.toString else codeEscape c

def quoted (s : String) : String := "\"" ++ String.join (s.toList.map escape) ++ "\""

end Conform.Text

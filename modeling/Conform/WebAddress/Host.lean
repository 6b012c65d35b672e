import Conform.WebAddress.DomainName
import Conform.WebAddress.Ipv4
import Conform.WebAddress.Ipv6
/-!
Hosts of web addresses, and why an address is none.
-/

namespace Conform

namespace WebAddress

/-- Why a text is no web address. -/
inductive Flaw where
  | relative
  | emptyHost
  | port
  | internationalName
  | ipv4
  | ipv6
  | domainCharacter
  deriving DecidableEq

def Flaw.message : Flaw → String
  | .relative => "relative URL without a base"
  | .emptyHost => "empty host"
  | .port => "invalid port number"
  | .internationalName => "invalid international domain name"
  | .ipv4 => "invalid IPv4 address"
  | .ipv6 => "invalid IPv6 address"
  | .domainCharacter => "invalid domain character"

/-- The address between brackets, if a bracket opens. -/
def bracketed? (cs : List Char) : Option (Except Flaw String) :=
  if cs.head? = some '[' then
    some <|
      match if cs.getLast? = some ']' then Ipv6.read cs.tail.dropLast else none with
      | some pieces => .ok ("[" ++ Ipv6.shown pieces ++ "]")
      | none => .error .ipv6
  else none

/-- The host of a special scheme: an address, or a domain name. -/
def readHost (cs : List Char) : Except Flaw String :=
  match bracketed? cs with
  | some result => result
  | none =>
    match DomainName.toAscii (Text.Utf8.read (percentDecode cs)).toList with
    | none => .error .internationalName
    | some [] => .error .emptyHost
    | some name =>
      if Ipv4.isMeant name then
        match Ipv4.read name with
        | some address => .ok (Ipv4.shown address)
        | none => .error .ipv4
      else .ok (String.ofList name)

def isForbiddenInHost (c : Char) : Bool := "\x00\t\n\r #/:<>?@[\\]^|".toList.contains c

/-- The host of another scheme, which is kept as it is but for encoding. -/
def readOtherHost (cs : List Char) : Except Flaw String :=
  match bracketed? cs with
  | some result => result
  | none =>
    if cs.any isForbiddenInHost then .error .domainCharacter
    else .ok (String.ofList (percentEncode .controls cs))

end WebAddress

end Conform

import Conform.WebAddress.Host
import Conform.WebAddress.Path
/-!
Reading web addresses into their components.
-/

namespace Conform

structure WebAddress where
  scheme : String
  host : Option String
  /-- The port that is written or that the scheme implies. -/
  port : Option Nat
  path : String
  query : Option String
  fragment : Option String
  deriving DecidableEq

namespace WebAddress

/-! ## Schemes -/

def defaultPort? (scheme : String) : Option Nat :=
  if scheme = "http" ∨ scheme = "ws" then some 80
  else if scheme = "https" ∨ scheme = "wss" then some 443
  else if scheme = "ftp" then some 21
  else none

/-- The schemes whose addresses are taken apart alike. -/
def isSpecial (scheme : String) : Bool := scheme = "file" || (defaultPort? scheme).isSome

def isSchemeChar (c : Char) : Bool :=
  PathWalk.isAsciiLetter c || c.isDigit || c = '+' || c = '-' || c = '.'

/-- The scheme in lower case, and what follows its colon. -/
def readScheme (cs : List Char) : Except Flaw (String × List Char) :=
  let name := cs.takeWhile isSchemeChar
  let rest := cs.dropWhile isSchemeChar
  if cs.head?.any PathWalk.isAsciiLetter ∧ rest.head? = some ':' then
    .ok (PathWalk.lower name, rest.tail)
  else .error .relative

/-! ## Authorities -/

/-- What ends an authority. -/
def endsAuthority (special : Bool) (c : Char) : Bool :=
  c = '/' || c = '?' || c = '#' || (special && c = '\\')

/-- Whether something stands before the last at sign of an authority, and what stands behind it. -/
structure UserSplit where
  hasUser : Bool
  rest : List Char

/-- Cuts off a user name and password. A lone colon names nobody. -/
def cutUser (special : Bool) (cs : List Char) : Except Flaw UserSplit :=
  let authority := cs.takeWhile (!endsAuthority special ·)
  if authority.contains '@' then
    let host := (authority.reverse.takeWhile (· ≠ '@')).reverse
    let user := authority.take (authority.length - host.length - 1)
    let rest := host ++ cs.drop authority.length
    if user.isEmpty then
      if rest.head?.any (endsAuthority special) then .error .emptyHost else .ok ⟨false, rest⟩
    else .ok ⟨user ≠ [':'], rest⟩
  else .ok ⟨false, cs⟩

/-- The host's text, up to a colon that stands outside brackets or to the end of the authority. -/
def cutHost (special : Bool) : (inBrackets : Bool) → List Char → List Char × List Char
  | _, [] => ([], [])
  | inBrackets, c :: cs =>
    if endsAuthority special c || (c = ':' && !inBrackets) then ([], c :: cs)
    else
      let inside := if c = '[' then true else if c = ']' then false else inBrackets
      let (host, rest) := cutHost special inside cs
      (c :: host, rest)

def readPort (cs : List Char) : Except Flaw (Option Nat × List Char) :=
  let digits := cs.takeWhile Char.isDigit
  let rest := cs.dropWhile Char.isDigit
  let port := digits.foldl (fun n c => n * 10 + (c.toNat - '0'.toNat)) 0
  if 65535 < port then .error .port
  else if !rest.isEmpty && !rest.head?.any (endsAuthority true) then .error .port
  else .ok (if digits.isEmpty then none else some port, rest)

/-- Host and port, and what follows them. An empty host is the same as none. -/
def readAuthority (special : Bool) (cs : List Char) :
    Except Flaw (Option String × Option Nat × List Char) := do
  let user ← cutUser special cs
  let (hostText, rest) := cutHost special false user.rest
  if special && hostText.isEmpty then throw .emptyHost
  let host ← if special then readHost hostText else readOtherHost hostText
  if host.isEmpty && rest.head? = some ':' then throw .emptyHost
  let (port, rest) ← if rest.head? = some ':' then readPort rest.tail else pure (none, rest)
  if host.isEmpty && user.hasUser then throw .emptyHost
  return (if host.isEmpty then none else some host, port, rest)

/-! ## Queries and fragments -/

def endsPath (c : Char) : Bool := c = '?' || c = '#'

/-- The query behind a question mark and the fragment behind a number sign. -/
def readTail (special : Bool) (cs : List Char) : Option String × Option String :=
  let queryText := cs.takeWhile (· ≠ '#')
  let fragmentText := cs.dropWhile (· ≠ '#')
  let set := if special then EncodeSet.specialQuery else EncodeSet.query
  (if queryText.isEmpty then none else some (String.ofList (percentEncode set queryText.tail)),
    if fragmentText.isEmpty then none
    else some (String.ofList (percentEncode .fragment fragmentText.tail)))

/-! ## Addresses -/

/-- What follows an authority: a path, which only the special schemes need, and the rest. -/
def withPath (scheme : String) (host : Option String) (port : Option Nat) (cs : List Char) :
    WebAddress :=
  let special := isSpecial scheme
  let pathText := cs.takeWhile (!endsPath ·)
  let (query, fragment) := readTail special (cs.dropWhile (!endsPath ·))
  let startsWithSlash :=
    pathText.head?.any fun c => c = '/' || (special && c = '\\')
  let path :=
    if pathText.isEmpty && !special then []
    else (readPath special false (if startsWithSlash then pathText.tail else pathText)).1
  ⟨scheme, host, port <|> defaultPort? scheme, String.ofList path, query, fragment⟩

/-- A path that is not taken apart. -/
def withOpaquePath (scheme : String) (cs : List Char) : WebAddress :=
  let pathText := cs.takeWhile (!endsPath ·)
  let (query, fragment) := readTail false (cs.dropWhile (!endsPath ·))
  ⟨scheme, none, none, String.ofList (percentEncode .controls pathText), query, fragment⟩

/-- What follows a slash of either kind, past breaks before it. -/
def afterSlash? (cs : List Char) : Option (List Char) :=
  match cs.dropWhile PathWalk.isBreak with
  | [] => none
  | c :: rest => if c = '/' ∨ c = '\\' then some rest else none

/-- A path of a file and what follows it, all with its breaks. A path on a drive has no host. -/
def withFilePath (host : Option String) (cs : List Char) : WebAddress :=
  let (query, fragment) := readTail true (PathWalk.withoutBreaks (cs.dropWhile (!endsPath ·)))
  let (path, onDrive) := readPath true true (cs.takeWhile (!endsPath ·))
  ⟨"file", if onDrive then none else host, none, String.ofList path, query, fragment⟩

/-- What follows `file:`, with its breaks. Two slashes bring a host, unless a drive stands there;
where no host comes of it, a slash at the start of the path counts as an empty folder. -/
def readFile (cs : List Char) : Except Flaw WebAddress := do
  match afterSlash? cs >>= afterSlash? with
  | none => return withFilePath none ((afterSlash? cs).getD cs)
  | some body =>
    let hostText := PathWalk.withoutBreaks (body.takeWhile (!endsAuthority true ·))
    if hostText.isEmpty ∨ PathWalk.isDrive hostText then return withFilePath none body
    else
      let rest := body.dropWhile (!endsAuthority true ·)
      let host ← readHost hostText
      if host.isEmpty ∨ host = "localhost" then return withFilePath none rest
      else return withFilePath (some host) ((afterSlash? rest).getD rest)

/-- The components of an address. Blanks around it and breaks inside it do not count. -/
def read (text : String) : Except Flaw WebAddress := do
  let isPadding : Char → Bool := fun c => decide (c ≤ ' ')
  let trimmed := ((text.toList.dropWhile isPadding).reverse.dropWhile isPadding).reverse
  let (scheme, rest) ← readScheme (PathWalk.withoutBreaks trimmed)
  if scheme = "file" then readFile ((trimmed.dropWhile (· ≠ ':')).tail)
  else if isSpecial scheme then
    let (host, port, rest) ← readAuthority true (rest.dropWhile fun c => c = '/' || c = '\\')
    return withPath scheme host port rest
  else
    match rest with
    | '/' :: '/' :: rest =>
      let (host, port, rest) ← readAuthority false rest
      return withPath scheme host port rest
    | '/' :: _ => return withPath scheme none none rest
    | _ => return withOpaquePath scheme rest

end WebAddress

end Conform

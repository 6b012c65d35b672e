import Conform.WebAddress.Percent
/-!
Paths of web addresses. The segments of a text are taken up one by one; dots go nowhere or up.
-/

namespace Conform.WebAddress

/-- The segments that a path has so far, each of them followed by a slash. -/
structure PathWalk where
  folders : List (List Char)
  /-- Whether the path began with the letter of a drive. -/
  onDrive : Bool

namespace PathWalk

def isAsciiLetter (c : Char) : Bool := ('a' ≤ c && c ≤ 'z') || ('A' ≤ c && c ≤ 'Z')

/-- A letter with a colon, or a bar instead of it. -/
def isDrive : List Char → Bool
  | [c, mark] => isAsciiLetter c && (mark = ':' || mark = '|')
  | _ => false

/-- Whether a folder is a drive, at least up to a backslash. -/
def holdsDrive (folder : List Char) : Bool :=
  isDrive (folder.take 2) && (folder.length = 2 || folder[2]? = some '\\')

def lower (cs : List Char) : String := String.ofList (cs.map Char.toLower)

def isDot (segment : List Char) : Bool := [".", "%2e"].contains (lower segment)

def isDoubleDot (segment : List Char) : Bool :=
  ["..", "%2e.", ".%2e", "%2e%2e"].contains (lower segment)

/-- Tabs and line breaks, which no address keeps. -/
def isBreak (c : Char) : Bool := c = '\t' || c = '\n' || c = '\r'

def withoutBreaks (cs : List Char) : List Char := cs.filter (!isBreak ·)

/-- The letter of a drive with its colon, and the text that breaks part from it. -/
def partedDrive? (segment : List Char) : Option (List Char × List Char) :=
  match segment.dropWhile isBreak with
  | [] => none
  | c :: behindLetter =>
    match behindLetter.dropWhile isBreak with
    | ':' :: rest =>
      if isAsciiLetter c && rest.head?.any isBreak && !rest.all isBreak then
        some ([c, ':'], withoutBreaks rest)
      else none
    | _ => none

/-- Goes up one folder. A drive is never left. -/
def up (w : PathWalk) : PathWalk :=
  if w.folders.getLast?.any holdsDrive then w else { w with folders := w.folders.dropLast }

/-- The segment as it is written: behind the letter of a drive at the start stands a colon. -/
def written (isFile : Bool) (w : PathWalk) (segment : List Char) : List Char :=
  if isFile && w.folders.isEmpty && isDrive segment then segment.take 1 ++ [':'] else segment

def seeDrive (isFile : Bool) (w : PathWalk) (segment : List Char) : Bool :=
  w.onDrive || (isFile && w.folders.isEmpty && isDrive segment)

/-- The drive that a segment at the start of a file's path parts with, and its rest. -/
def parted? (isFile : Bool) (w : PathWalk) (segment : List Char) :
    Option (List Char × List Char) :=
  if isFile && w.folders.isEmpty then partedDrive? segment else none

/-- What a segment leaves of the folders, and the name that it adds to them unless it is dots. A
drive that breaks part from the rest becomes a folder of its own. -/
def place (isFile : Bool) (w : PathWalk) (segment : List Char) : PathWalk × Option (List Char) :=
  match w.parted? isFile segment with
  | some (drive, rest) =>
    ({ w with folders := w.folders ++ [drive] }, some (percentEncode .path rest))
  | none =>
    let segment := percentEncode .path (withoutBreaks segment)
    if isDoubleDot segment then (w.up, none)
    else if isDot segment then (w, none)
    else (⟨w.folders, w.seeDrive isFile segment⟩, some (w.written isFile segment))

/-- A segment with a slash behind it. -/
def enter (isFile : Bool) (w : PathWalk) (segment : List Char) : PathWalk :=
  let (w, name) := w.place isFile segment
  { w with folders := w.folders ++ name.toList }

/-- Takes up segments, of which only the last has no slash behind it. -/
def walk (isFile : Bool) : PathWalk → List (List Char) → PathWalk × List Char
  | w, [] => (w, [])
  | w, [last] =>
    let (w, name) := w.place isFile last
    (w, name.getD [])
  | w, segment :: rest => walk isFile (w.enter isFile segment) rest

def text (folders : List (List Char)) (last : List Char) : List Char :=
  '/' :: (folders.flatMap (· ++ ['/']) ++ last)

end PathWalk

/-- The path below the root, and whether it begins on a drive. The path of a file has no empty
folders at its start. -/
def readPath (isSpecial isFile : Bool) (cs : List Char) : List Char × Bool :=
  let isSlash : Char → Bool := fun c => c = '/' || (isSpecial && c = '\\')
  let (w, last) := PathWalk.walk isFile ⟨[], false⟩ (cs.splitOnP isSlash)
  let folders := if isFile then w.folders.dropWhile (·.isEmpty) else w.folders
  (PathWalk.text folders last, w.onDrive)

end Conform.WebAddress

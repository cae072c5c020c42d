import LinkedAccess.Text.Parts
import LinkedAccess.Url.Percent

/-!
# Paths

The path of a URL is a row of segments. Segments that are a dot, or two dots, stand for a step in
the hierarchy and are taken out. The path of a file may begin with the letter of a drive, from which
no step leads up.

Tabs and ends of lines in a text are ignored. Only behind a drive do they leave something: they keep
the drive apart from what follows.
-/

namespace LinkedAccess.Url

/-- Which rules the parts of a URL follow. -/
inductive SchemeKind where
  /-- Schemes of the web, which always have a host. -/
  | web
  | file
  | other
deriving DecidableEq

/-- Whether a backslash is as good as a slash. -/
def SchemeKind.isSpecial (kind : SchemeKind) : Bool := kind ≠ .other

/-- Whether a character separates segments. -/
def SchemeKind.isSeparator (kind : SchemeKind) (character : Char) : Bool :=
  character = '/' || (kind.isSpecial && character = '\\')

/-- Whether a character does not count anywhere in a URL. -/
def isIgnored (character : Char) : Bool := "\t\n\r".toList.contains character

/-- The characters of a text that count. -/
def counted (text : List Char) : List Char := text.filter (!isIgnored ·)

/-- Whether a segment is a letter with a colon or a bar. -/
def isDriveLetter : List Char → Bool
  | [letter, mark] => letter.isAlpha && (mark = ':' || mark = '|')
  | _ => false

/-- Whether a segment begins with a drive, which then ends at the segment's end or at a mark that
ends a path or a segment. -/
def beginsWithDrive (segment : List Char) : Bool :=
  isDriveLetter (segment.take 2) && (segment.drop 2).head?.all "/\\?#".toList.contains

/-- A drive at the beginning of a segment and the text behind it, if the two are kept apart. -/
def splitDrive? (segment : List Char) : Option (List Char × List Char) :=
  let drive := counted (segment.takeWhile (· ≠ ':')) ++ [':']
  let behind := (segment.dropWhile (· ≠ ':')).drop 1
  if isDriveLetter drive && behind.head?.any isIgnored && !(counted behind).isEmpty then
    some (drive, counted behind)
  else none

/-- The segment that leads one step up, in any spelling of the two dots. -/
def isDoubleDot (segment : List Char) : Bool :=
  ["..", ".%2e", "%2e.", "%2e%2e"].any fun spelling =>
    spelling.toList = segment.map Char.toLower

/-- The segment that leads nowhere, in any spelling of the dot. -/
def isSingleDot (segment : List Char) : Bool :=
  [".", "%2e"].any fun spelling => spelling.toList = segment.map Char.toLower

/-- A path: the segments that a slash follows, then the last one. -/
structure Path where
  folders : List (List Char)
  last : List Char := []
  /-- Whether a drive came up in place of the host. -/
  dropsHost : Bool := false

namespace Path

/-- The path without its last folder, unless that is the root or a drive. -/
def up (path : Path) : Path :=
  if 2 ≤ path.folders.length && !path.folders.getLast?.any beginsWithDrive then
    { path with folders := path.folders.dropLast, last := [] }
  else { path with last := [] }

/-- The path with a text more at its end. -/
def append (path : Path) (isFolder : Bool) (text : List Char) : Path :=
  if isFolder then { path with folders := path.folders ++ [text] } else { path with last := text }

/-- The path with one segment more. -/
def push (kind : SchemeKind) (path : Path) (isFolder : Bool) (segment : List Char) : Path :=
  if kind = .file && path.folders = [[]] && isDriveLetter segment then
    { path.append isFolder (segment.take 1 ++ [':']) with dropsHost := true }
  else path.append isFolder segment

/-- The path after one segment of the input. What a drive is kept apart from is no step, even if it
consists of dots. -/
def step (kind : SchemeKind) (path : Path) (isFolder : Bool) (segment : List Char) : Path :=
  let parts := if kind = .file && path.folders = [[]] then splitDrive? segment else none
  match parts with
  | some (drive, text) => (path.append true drive).append isFolder (percentEncode pathReserved text)
  | none =>
    let text := percentEncode pathReserved (counted segment)
    if isDoubleDot text then path.up
    else if isSingleDot text then path
    else path.push kind isFolder text

/-- The path after all segments of the input. -/
def steps (kind : SchemeKind) (path : Path) : List (List Char) → Path
  | [] => path
  | [segment] => path.step kind false segment
  | segment :: later => steps kind (path.step kind true segment) later

/-- Reads a path that goes on from given folders. -/
def read (kind : SchemeKind) (folders : List (List Char)) (input : List Char) : Path :=
  let input := input.map fun character => if kind.isSeparator character then '/' else character
  ({ folders } : Path).steps kind (Text.splitAt '/' input)

/-- The path as a URL shows it. The path of a file begins with exactly one slash. -/
def render (kind : SchemeKind) (path : Path) : List Char :=
  let text := path.folders.flatMap (· ++ ['/']) ++ path.last
  if kind = .file then '/' :: text.dropWhile (· = '/') else text

end Path

end LinkedAccess.Url

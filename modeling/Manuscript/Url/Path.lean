/-
# Manuscript.Url.Path -- building the path of a URL

A path is built from the segments of a reference, onto a path that ends where the
segments go.  A segment of one dot is the place itself and one of two dots the
place above, in whichever of their letters are written in hexadecimal.

Paths of files know drives: a letter and a colon (or a bar) as the first segment is
one.  Nothing goes above a drive, the path of a file that names a drive has no host,
and such a path starts with exactly one slash.

Tabs and line breaks in a reference mean nothing, except that a drive ends before
them: what follows the drive then is a segment of its own.
-/
import Manuscript.Url.Basic
import Manuscript.Url.Percent

namespace Manuscript.Url

set_option autoImplicit false

/-- Tabs and line breaks, which a reader of URLs passes over. -/
def isIgnored (c : Char) : Bool := c == '\t' || c == '\n' || c == '\r'

def visible (cs : List Char) : List Char := cs.filter (!isIgnored ·)

/-! ## Drives -/

/-- A letter with a colon or a bar. -/
def isDrive : List Char → Bool
  | [a, b] => a.isAlpha && (b == ':' || b == '|')
  | _ => false

/-- A letter with a colon. -/
def isNormalDrive : List Char → Bool
  | [a, b] => a.isAlpha && b == ':'
  | _ => false

/-- Whether a text starts with a drive that is a whole segment. -/
def startsWithDrive : List Char → Bool
  | [a, b] => isDrive [a, b]
  | a :: b :: c :: _ => isDrive [a, b] && c ∈ ['/', '\\', '?', '#']
  | _ => false

/-! ## Dots -/

def isDot (segment : List Char) : Bool :=
  String.ofList (segment.map Char.toLower) ∈ [".", "%2e"]

def isDoubleDot (segment : List Char) : Bool :=
  String.ofList (segment.map Char.toLower) ∈ ["..", ".%2e", "%2e.", "%2e%2e"]

/-! ## Going up -/

/-- The path up to its last slash, and what follows that slash. -/
def splitLast (path : List Char) : List Char × List Char :=
  let (name, front) := path.reverse.span (· != '/')
  (front.reverse, name.reverse)

def endsWithSlash (path : List Char) : Bool := path.getLast? == some '/'

/-- The path without its last segment.  The drive of a file stays. -/
def dropLast (file : Bool) (path : List Char) : List Char :=
  let (front, name) := splitLast path
  if file && isNormalDrive name then path else front

/-- Whether the slash at the end of a path may go: another slash comes before it, and no
drive stands between them. -/
def slashMayGo (path : List Char) : Bool :=
  let (front, name) := splitLast path.dropLast
  front != [] && !startsWithDrive (name ++ ['/'])

/-- The place above. -/
def goUp (file : Bool) (path : List Char) (slash : Bool) : List Char :=
  let path := if endsWithSlash path && slashMayGo path then path.dropLast else path
  let path := if path = [] then path else dropLast file path
  if slash && !endsWithSlash path then path ++ ['/'] else path

/-! ## Segments -/

/-- A path under construction: what comes before the current segment, the segment, and
whether reading pauses, as it does at the start of a segment and after what is ignored. -/
structure Draft where
  before : List Char
  segment : List Char
  paused : Bool

/-- A character of the current segment.  Where reading pauses after a drive, a slash is
supplied; the segment is then taken to start one character later. -/
def Draft.push (file : Bool) (d : Draft) (c : Char) : Draft :=
  if isIgnored c then { d with paused := true }
  else
    let whole := d.before ++ d.segment
    let (before, segment) :=
      if file && d.paused && isNormalDrive (whole.drop 1) then
        (whole ++ ['/']).splitAt (d.before.length + 1)
      else (d.before, d.segment)
    ⟨before, segment ++ encodeChar inPathSet c, false⟩

/-- A path with one more segment, which a slash may follow; and whether the segment is the
drive of a file. -/
def addSegment (file : Bool) (path segment : List Char) (slash : Bool) : List Char × Bool :=
  let d := segment.foldl (Draft.push file) ⟨path, [], true⟩
  let ending := if slash then ['/'] else []
  if isDoubleDot d.segment then (goUp file d.before slash, false)
  else if isDot d.segment then
    (if endsWithSlash d.before then d.before else d.before ++ ['/'], false)
  else if file && d.before.length == 1 && isDrive d.segment then
    (d.before ++ d.segment.take 1 ++ [':'] ++ ending, true)
  else (d.before ++ d.segment ++ ending, false)

/-- The segments of a reference.  A backslash separates them where the scheme is special. -/
def splitReference (special : Bool) : List Char → List (List Char)
  | [] => [[]]
  | c :: cs =>
      if c = '/' ∨ (special ∧ c = '\\') then [] :: splitReference special cs
      else match splitReference special cs with
        | [] => [[c]]
        | s :: ss => (c :: s) :: ss

/-- A path with more segments, all but the last followed by slashes; and whether one of them
is the drive of a file. -/
def addSegments (file : Bool) : List Char → List (List Char) → List Char × Bool
  | path, [] => (path, false)
  | path, [s] => addSegment file path s false
  | path, s :: ss =>
      let (path, drive) := addSegment file path s true
      let (path, drive') := addSegments file path ss
      (path, drive || drive')

/-- The path of a reference that goes on from `path`. -/
def buildPath (kind : SchemeKind) (path reference : List Char) : List Char × Bool :=
  let file := kind == .file
  let (path, drive) := addSegments file path (splitReference kind.isSpecial reference)
  (if file then '/' :: path.dropWhile (· == '/') else path, drive)

end Manuscript.Url

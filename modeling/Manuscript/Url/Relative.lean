/-
# Manuscript.Url.Relative -- from one URL to another

`makeRelative?` writes a URL as a reference that means it where another is the
base: up from the directories that only the base has, then down to the target.
There is none between URLs of different schemes, hosts or ports.

`directory` is a URL whose path ends in a slash, so that references are resolved
inside of it, and `ofDirectory?` the file URL of an absolute directory path.
-/
import Manuscript.Url.Parser
import Manuscript.Language

namespace Manuscript.Url

set_option autoImplicit false

/-- The host of a URL, empty if there is none. -/
def hostText (u : Url) : String := (u.authority.map Authority.host).getD ""

def portNumber? (u : Url) : Option Nat := u.authority.bind Authority.port

/-- The directories of a path, and the name after the last slash.  Without a slash the name
loses its first character. -/
def splitName (path : List Char) : List (List Char) × List Char :=
  match path.reverse.span (· != '/') with
  | (name, []) => ([[]], name.reverse.drop 1)
  | (name, _ :: front) => (betweenSlashes front.reverse, name.reverse)

/-- Two lists without their common beginning. -/
def withoutCommon : List (List Char) → List (List Char) → List (List Char) × List (List Char)
  | a :: as, b :: bs => if a = b then withoutCommon as bs else (a :: as, b :: bs)
  | as, bs => (as, bs)

/-- A reference with one more part after a slash. -/
def addPart (relative part : List Char) : List Char :=
  if relative = [] then part else relative ++ '/' :: part

/-- The path of a reference from one path to another. -/
def relativePath (base target : List Char) : List Char :=
  let (baseDirs, baseName) := splitName base
  let (targetDirs, targetName) := splitName target
  let (up, down) := withoutCommon baseDirs targetDirs
  let up := (up.takeWhile (· != [])).map fun _ => ['.', '.']
  let relative := (up ++ down).foldl addPart []
  if relative = [] ∧ baseName = targetName then relative
  else if targetName = [] then relative ++ ['/']
  else addPart relative targetName

/-- The reference from `base` to `target`, if one leads there. -/
def makeRelative? (base target : Url) : Option String :=
  if !base.isHierarchical then none
  else if base.scheme ≠ target.scheme ∨ hostText base ≠ hostText target
      ∨ portNumber? base ≠ portNumber? target then none
  else
    let query := match target.query with
      | some query => "?" ++ query
      | none => ""
    let fragment := match target.fragment with
      | some fragment => "#" ++ fragment
      | none => ""
    some (String.ofList (relativePath base.path.toList target.path.toList) ++ query ++ fragment)

/-- The URL with a slash at the end of its path, which is read anew: a drive that was not
the first segment when the URL was read may be one now. -/
def directory (u : Url) : Url :=
  if endsWithSlash u.path.toList then u
  else if u.isHierarchical then
    { u with path := String.ofList (buildPath u.kind [] (u.path ++ "/").toList).1 }
  else { u with path := if u.path = "" then "%2F" else u.path ++ "/" }

/-- The file URL of a directory, if its path is absolute. -/
def ofDirectory? (path : String) : Option Url :=
  match path.toList with
  | '/' :: _ =>
      let parts := (Path.named path.toList).map (encode inComponentSet)
      some { ofFile "" with
        path := String.ofList ('/' :: parts.flatMap fun part => part ++ ['/']) }
  | _ => none

/-- The path of a file on this machine. -/
def filePath? (u : Url) : Option String :=
  if u.scheme = "file" ∧ hostText u = "" then decode? u.path.toList else none

end Manuscript.Url

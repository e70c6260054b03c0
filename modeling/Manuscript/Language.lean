/-
# Manuscript.Language -- the two languages of a project, told by file extension

`extension?` is the extension of the last component of a path.  Empty and `.`
components do not count, `..` has no extension, and neither has a name whose only
dot comes first.
-/
import Manuscript.Text.Case

namespace Manuscript

set_option autoImplicit false

open Text

inductive Language where
  | latex
  | bibtex
deriving DecidableEq, Repr, Inhabited

namespace Language

/-- The name editors use for the language. -/
def name : Language → String
  | .latex => "latex"
  | .bibtex => "bibtex"

def all : List Language := [.latex, .bibtex]

/-- Extensions without their dot, in lower case. -/
def extensions : Language → List String
  | .latex => ["tex", "sty", "cls", "def", "lco", "ltx", "dtx"]
  | .bibtex => ["bib"]

/-- The language of an extension, whatever the case of its letters. -/
def ofExtension? (extension : String) : Option Language :=
  all.find? fun language => (String.ofList (lower extension.toList)) ∈ language.extensions

end Language

namespace Path

/-- The components between the slashes of a path. -/
def components : List Char → List (List Char)
  | [] => [[]]
  | '/' :: cs => [] :: components cs
  | c :: cs =>
      match components cs with
      | [] => [[c]]
      | d :: ds => (c :: d) :: ds

/-- The components that name something: not the empty ones, and not `.`. -/
def named (path : List Char) : List (List Char) :=
  (components path).filter fun component => component != [] && component != ['.']

/-- What follows the last dot of a file name, unless nothing precedes that dot. -/
def extensionOfName? (name : List Char) : Option (List Char) :=
  if name = ['.', '.'] then none
  else match name.reverse.span (· ≠ '.') with
    | (_, []) => none
    | (_, [_]) => none
    | (extension, _ :: _) => some extension.reverse

def extension? (path : String) : Option String := do
  let name ← (named path.toList).getLast?
  String.ofList <$> extensionOfName? name

end Path

/-- The language of the file at a path. -/
def Language.ofPath? (path : String) : Option Language :=
  Path.extension? path >>= Language.ofExtension?

end Manuscript

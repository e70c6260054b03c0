/-
# Manuscript.Bibtex.Structure -- what a bibliography holds

Entries with their keys, the names declared for reuse in values (`strings`), and
the bare words in values that refer to such names.  A name is declared when the
file declares it or when it abbreviates a month; case does not matter.
-/
import Manuscript.Diagnostic
import Manuscript.Text.Case

namespace Manuscript.Bibtex

set_option autoImplicit false

open Text

structure Entry where
  /-- The entry type, in lower case. -/
  kind : String
  /-- The citation key; a malformed entry has none. -/
  key : Option Symbol
  /-- The value of the title field, without braces. -/
  title : Option String
  /-- From the at sign through the closing delimiter. -/
  span : Span
deriving DecidableEq, Repr, Inhabited

structure Structure where
  entries : List Entry
  strings : List Symbol
  stringReferences : List Symbol
  diagnostics : List Diagnostic
deriving DecidableEq, Repr, Inhabited

/-- The abbreviations every bibliography style declares. -/
def monthNames : List String :=
  ["jan", "feb", "mar", "apr", "may", "jun", "jul", "aug", "sep", "oct", "nov", "dec"]

namespace Structure

def empty : Structure := ⟨[], [], [], []⟩

/-- The keys of the entries that have one, in order. -/
def keys (s : Structure) : List Symbol := s.entries.filterMap Entry.key

/-- Whether a list of names declares `name`. -/
def declares (names : List String) (name : String) : Bool :=
  names.any fun declared => sameLetters declared.toList name.toList

/-- Whether a value may refer to `name`. -/
def definesString (s : Structure) (name : String) : Bool :=
  declares monthNames name || declares (s.strings.map Symbol.name) name

end Structure

end Manuscript.Bibtex

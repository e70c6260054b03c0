/-
# Manuscript.Structure -- what a text holds, in either language

`analyze` reads a text in a given language.  It never fails: problems are part of
the structure.
-/
import Manuscript.Language
import Manuscript.Latex.Analysis
import Manuscript.Bibtex.Analysis

namespace Manuscript

set_option autoImplicit false

inductive Structure where
  | latex (s : Latex.Structure)
  | bibtex (s : Bibtex.Structure)
deriving DecidableEq, Repr

namespace Structure

/-- The structure of an empty text. -/
def empty : Language → Structure
  | .latex => .latex .empty
  | .bibtex => .bibtex .empty

def diagnostics : Structure → List Diagnostic
  | .latex s => s.diagnostics
  | .bibtex s => s.diagnostics

def latex? : Structure → Option Latex.Structure
  | .latex s => some s
  | .bibtex _ => none

def bibtex? : Structure → Option Bibtex.Structure
  | .bibtex s => some s
  | .latex _ => none

end Structure

def analyze (language : Language) (text : String) : Structure :=
  match language with
  | .latex => .latex (Latex.analyze text)
  | .bibtex => .bibtex (Bibtex.analyze text)

end Manuscript

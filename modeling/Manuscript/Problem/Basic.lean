/-
# Manuscript.Problem.Basic -- diagnostics where an editor sees them

A `Problem` is a diagnostic with its place in lines and columns.  `Problem.sorted`
orders problems by place and keeps the order of those with one place.
-/
import Manuscript.Document

namespace Manuscript

set_option autoImplicit false

namespace Position

/-- The order of reading. -/
def atOrBefore (a b : Position) : Bool :=
  a.line < b.line || (a.line == b.line && a.column ≤ b.column)

end Position

/-- The order of ranges: by start, then by end. -/
def Range.atOrBefore (a b : Range) : Bool :=
  if a.start = b.start then a.stop.atOrBefore b.stop else a.start.atOrBefore b.start

structure Problem where
  range : Range
  severity : Severity
  code : Option String
  message : String
deriving DecidableEq, Repr, Inhabited

namespace Problem

/-- A diagnostic of a document, as an editor sees it. -/
def ofDiagnostic (document : Document) (d : Diagnostic) : Problem :=
  ⟨document.range d.span, d.severity, d.code, d.message⟩

def sorted (ps : List Problem) : List Problem :=
  ps.mergeSort fun a b => a.range.atOrBefore b.range

end Problem

end Manuscript

/-
# Manuscript.Diagnostic -- problems found while reading a text

A source file in an editor is malformed most of the time, so reading one never
fails: what is wrong is written down as `Diagnostic`s beside the structure that
was found all the same.  `Diagnostic.sorted` puts them in the order of their
spans and keeps the order of those with one span.
-/
import Manuscript.Text.Span

namespace Manuscript

set_option autoImplicit false

inductive Severity where
  | hint
  | info
  | warning
  | error
deriving DecidableEq, Repr, Inhabited

def Severity.name : Severity → String
  | .hint => "hint"
  | .info => "info"
  | .warning => "warning"
  | .error => "error"

def Severity.all : List Severity := [.hint, .info, .warning, .error]

/-- A problem, and the bytes it concerns. -/
structure Diagnostic where
  severity : Severity
  message : String
  code : Option String
  span : Span
deriving DecidableEq, Repr, Inhabited

namespace Diagnostic

def isError (d : Diagnostic) : Bool := d.severity == .error

/-- One line of text: severity, code, message and span. -/
def display (d : Diagnostic) : String :=
  let code := match d.code with
    | some code => "[" ++ code ++ "]"
    | none => ""
  d.severity.name ++ code ++ ": " ++ d.message
    ++ " (" ++ toString d.span.start ++ ".." ++ toString d.span.stop ++ ")"

/-- The order of spans: by start, then by end. -/
def atOrBefore (a b : Diagnostic) : Bool :=
  a.span.start < b.span.start || (a.span.start == b.span.start && a.span.stop ≤ b.span.stop)

def sorted (ds : List Diagnostic) : List Diagnostic := ds.mergeSort atOrBefore

end Diagnostic

end Manuscript

/-
# Manuscript.Latex.Analysis -- the structure of a LaTeX text

`analyze` scans a text and sorts what the scan met: symbols by their kind, each
list in the order of the text, and every command name at its first use.

Braces and environments are matched over the events (`Pending`).  An end command
closes the innermost open environment of its name; the environments opened since
are left unclosed.  A verbatim environment opens and closes by itself.  What is
open at the end of the text is a problem too, braces first.
-/
import Manuscript.Latex.Event

namespace Manuscript.Latex

set_option autoImplicit false

open Text

/-- What is open at a place of the text, innermost first, and what was matched before. -/
structure Pending where
  braces : List Nat
  environments : List (String × Span)
  matched : List Environment
  diagnostics : List Diagnostic
deriving DecidableEq, Repr

namespace Pending

def start : Pending := ⟨[], [], [], []⟩

/-- The problems of environments that stay open, given innermost first. -/
def unclosed (environments : List (String × Span)) : List Diagnostic :=
  environments.reverse.map fun (name, span) => unclosedEnvironment name span

/-- An end command. -/
def close (p : Pending) (name : String) (closing : Span) : Pending :=
  match p.environments.span (·.1 ≠ name) with
  | (inner, (_, opening) :: outer) =>
      { p with
        environments := outer
        matched := p.matched ++ [⟨name, opening, closing⟩]
        diagnostics := p.diagnostics ++ unclosed inner }
  | (_, []) => { p with diagnostics := p.diagnostics ++ [unmatchedEnd name closing] }

def step (p : Pending) : Event → Pending
  | .braceOpened offset => { p with braces := offset :: p.braces }
  | .braceClosed offset =>
      match p.braces with
      | _ :: outer => { p with braces := outer }
      | [] => { p with diagnostics := p.diagnostics ++ [unmatchedBrace offset] }
  | .environmentOpened name span => { p with environments := (name, span) :: p.environments }
  | .environmentClosed name span => p.close name span
  | .verbatim environment => { p with matched := p.matched ++ [environment] }
  | .fault diagnostic => { p with diagnostics := p.diagnostics ++ [diagnostic] }
  | _ => p

/-- The problems once the text has ended. -/
def finish (p : Pending) : List Diagnostic :=
  p.diagnostics ++ p.braces.reverse.map missingBrace ++ unclosed p.environments

end Pending

namespace Event

def inclusion? : Event → Option Include
  | .inclusion file => some file
  | _ => none

def label? : Event → Option Symbol
  | .label symbol => some symbol
  | _ => none

def reference? : Event → Option Symbol
  | .reference symbol => some symbol
  | _ => none

def citation? : Event → Option Symbol
  | .citation symbol => some symbol
  | _ => none

def heading? : Event → Option Section
  | .heading part => some part
  | _ => none

def definition? : Event → Option Symbol
  | .definition symbol => some symbol
  | _ => none

def command? : Event → Option String
  | .command name => some name
  | _ => none

end Event

/-- The structure that a list of events describes. -/
def Structure.ofEvents (events : List Event) : Structure :=
  let pending := events.foldl Pending.step .start
  { includes := events.filterMap Event.inclusion?
    labelDefinitions := events.filterMap Event.label?
    labelReferences := events.filterMap Event.reference?
    citations := events.filterMap Event.citation?
    sections := events.filterMap Event.heading?
    environments := pending.matched
    commandDefinitions := events.filterMap Event.definition?
    commands := (events.filterMap Event.command?).eraseDups
    diagnostics := Diagnostic.sorted pending.finish }

/-- Reads a LaTeX text. -/
def analyze (text : String) : Structure := .ofEvents (scan (.ofString text))

end Manuscript.Latex

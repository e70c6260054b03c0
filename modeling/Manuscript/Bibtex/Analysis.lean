/-
# Manuscript.Bibtex.Analysis -- the structure of a bibliography

`analyze` scans a bibliography, sorts what the scan met by kind, and adds the two
checks that need the whole file: a key that an earlier entry has, and a reference
to a string that nothing declares.
-/
import Manuscript.Bibtex.Event

namespace Manuscript.Bibtex

set_option autoImplicit false

open Text

namespace Event

def entry? : Event → Option Entry
  | .entry e => some e
  | _ => none

def string? : Event → Option Symbol
  | .string s => some s
  | _ => none

def reference? : Event → Option Symbol
  | .reference s => some s
  | _ => none

def fault? : Event → Option Diagnostic
  | .fault diagnostic => some diagnostic
  | _ => none

end Event

/-- The symbols whose name is in `seen` or belongs to an earlier symbol. -/
def repeated (seen : List String) : List Symbol → List Symbol
  | [] => []
  | s :: ss =>
      if s.name ∈ seen then s :: repeated seen ss else repeated (s.name :: seen) ss

/-- The structure that a list of events describes. -/
def Structure.ofEvents (events : List Event) : Structure :=
  let found : Structure :=
    { entries := events.filterMap Event.entry?
      strings := events.filterMap Event.string?
      stringReferences := events.filterMap Event.reference?
      diagnostics := events.filterMap Event.fault? }
  let duplicates := (repeated [] found.keys).map duplicateKey
  let undeclared := found.stringReferences.filter fun reference =>
    !found.definesString reference.name
  { found with
    diagnostics := Diagnostic.sorted
      (found.diagnostics ++ duplicates ++ undeclared.map undefinedString) }

/-- Reads a bibliography. -/
def analyze (text : String) : Structure := .ofEvents (scan (.ofString text))

end Manuscript.Bibtex

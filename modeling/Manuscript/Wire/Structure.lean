/-
# Manuscript.Wire.Structure -- structures and diagnostics as data

How what was read from a text is written down for others: every part is an object
with one member per field, and a problem without a code has no code member.
Diagnostics are also read back (`diagnostic?`).
-/
import Manuscript.Structure
import Manuscript.Datum

namespace Manuscript.Wire

set_option autoImplicit false

def span (s : Span) : Json := .object [("start", .nat s.start), ("end", .nat s.stop)]

def symbol (s : Symbol) : Json := .object [("name", .string s.name), ("span", span s.span)]

def diagnostic (d : Diagnostic) : Json :=
  .present
    [("severity", some (.string d.severity.name)), ("message", some (.string d.message)),
     ("code", d.code.map .string), ("span", some (span d.span))]

def diagnostics (ds : List Diagnostic) : Json := .ofList diagnostic ds

def includeKind : Latex.IncludeKind → String
  | .latex => "Latex"
  | .bibliography => "Bibliography"
  | .package => "Package"
  | .documentClass => "Class"

def inclusion (i : Latex.Include) : Json :=
  .object
    [("kind", .string (includeKind i.kind)), ("path", .string i.path), ("span", span i.span)]

def heading (s : Latex.Section) : Json :=
  .object [("level", .nat s.level), ("title", .string s.title), ("span", span s.span)]

def environment (e : Latex.Environment) : Json :=
  .object [("name", .string e.name), ("begin", span e.opening), ("end", span e.closing)]

def latex (s : Latex.Structure) : Json :=
  .object
    [("includes", .ofList inclusion s.includes),
     ("label_definitions", .ofList symbol s.labelDefinitions),
     ("label_references", .ofList symbol s.labelReferences),
     ("citations", .ofList symbol s.citations),
     ("sections", .ofList heading s.sections),
     ("environments", .ofList environment s.environments),
     ("command_definitions", .ofList symbol s.commandDefinitions),
     ("commands", .ofList .string s.commands),
     ("diagnostics", diagnostics s.diagnostics)]

def entry (e : Bibtex.Entry) : Json :=
  .object
    [("kind", .string e.kind), ("key", .ofOption symbol e.key),
     ("title", .ofOption .string e.title), ("span", span e.span)]

def bibtex (s : Bibtex.Structure) : Json :=
  .object
    [("entries", .ofList entry s.entries), ("strings", .ofList symbol s.strings),
     ("string_references", .ofList symbol s.stringReferences),
     ("diagnostics", diagnostics s.diagnostics)]

def contents : Structure → Json
  | .latex s => .object [("Latex", latex s)]
  | .bibtex s => .object [("Bibtex", bibtex s)]

/-! ## Reading diagnostics -/

def span? (d : Datum) : Option Span := do
  match ← d.fields? .json ["start", "end"] with
  | [some start, some stop] => pure ⟨← start.number?, ← stop.number?⟩
  | _ => none

def severity? (d : Datum) : Option Severity :=
  d.choice? .json (Severity.all.map fun s => (s.name, s))

/-- Every field but the code has to be there. -/
def diagnostic? (j : Json) : Option Diagnostic := do
  match ← (Datum.ofJson j).fields? .json ["severity", "message", "code", "span"] with
  | [some severity, some message, code, some range] =>
      pure
        { severity := ← severity? severity
          message := ← message.text?
          code := ← Datum.orDefault code none (Datum.nullable? Datum.text?)
          span := ← span? range }
  | _ => none

end Manuscript.Wire

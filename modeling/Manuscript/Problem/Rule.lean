/-
# Manuscript.Problem.Rule -- what documents owe each other

Three rules between a LaTeX document and the documents related to it: a label that
is referred to is defined somewhere, a citation has its entry in a bibliography,
and no label is defined twice.  Without a bibliography there is nothing to look
citations up in, and the second rule is not checked.

`Problem.all` puts the violations of the rules after the diagnostics of the
document itself, filters them by message and sorts them.
-/
import Manuscript.Problem.Basic
import Manuscript.Problem.Filter

namespace Manuscript

set_option autoImplicit false

/-- The severity of the violations of a rule that is checked. -/
def RuleSeverity.severity? : RuleSeverity → Option Severity
  | .error => some .error
  | .warning => some .warning
  | .info => some .info
  | .ignore => none

namespace Rule

/-- The names of the labels that documents define, one for each definition. -/
def labelNames (related : List Document) : List String :=
  related.flatMap fun d =>
    match d.contents.latex? with
    | some s => s.labelDefinitions.map Symbol.name
    | none => []

/-- The keys of the bibliographies, if there is a bibliography. -/
def citationKeys? (related : List Document) : Option (List String) :=
  match related.filterMap (·.contents.bibtex?) with
  | [] => none
  | bibliographies => some (bibliographies.flatMap fun s => s.keys.map Symbol.name)

/-- One problem for each symbol that violates a rule. -/
def violations (origin : Document) (severity : RuleSeverity) (code : String)
    (symbols : List Symbol) (message? : String → Option String) : List Problem :=
  match severity.severity? with
  | none => []
  | some severity => symbols.filterMap fun symbol =>
      (message? symbol.name).map fun message =>
        ⟨origin.range symbol.span, severity, some code, message⟩

def undefinedLabel? (labels : List String) (name : String) : Option String :=
  if name ∈ labels then none else some ("Undefined label '" ++ name ++ "'")

def undefinedCitation? (keys : Option (List String)) (name : String) : Option String :=
  keys.bind fun keys =>
    if name ∈ keys then none else some ("Undefined citation '" ++ name ++ "'")

def duplicateLabel? (labels : List String) (name : String) : Option String :=
  let count := labels.count name
  if 1 < count then
    some ("Label '" ++ name ++ "' is defined " ++ toString count ++ " times")
  else none

/-- The violations of the rules in a document. -/
def problems (settings : DiagnosticsSettings) (origin : Document) (related : List Document) :
    List Problem :=
  match origin.contents.latex? with
  | none => []
  | some s =>
      let labels := labelNames related
      let keys := citationKeys? related
      violations origin settings.undefinedLabels "REF001" s.labelReferences
          (undefinedLabel? labels)
        ++ violations origin settings.undefinedCitations "REF002" s.citations
          (undefinedCitation? keys)
        ++ violations origin settings.duplicateLabels "REF003" s.labelDefinitions
          (duplicateLabel? labels)

end Rule

/-- The problems to show in a document. -/
def Problem.all (settings : DiagnosticsSettings) (origin : Document) (related : List Document) :
    List Problem :=
  let filter := Filter.ofSettings settings
  let own := origin.contents.diagnostics.map (Problem.ofDiagnostic origin)
  Problem.sorted
    ((own ++ Rule.problems settings origin related).filter fun p => filter.keeps p.message)

end Manuscript

/-
# Manuscript.Latex.Structure -- what a LaTeX source holds

The pieces of a LaTeX text that questions about a project are asked of, each with
its span.  Lists are in the order of the text; environments are in the order of
their ends.
-/
import Manuscript.Latex.Command

namespace Manuscript.Latex

set_option autoImplicit false

/-- A path given to an include command; the span covers the path alone. -/
structure Include where
  kind : IncludeKind
  path : String
  span : Span
deriving DecidableEq, Repr, Inhabited

/-- A heading; the span runs from the backslash through the closing brace. -/
structure Section where
  level : Nat
  title : String
  span : Span
deriving DecidableEq, Repr, Inhabited

/-- A begin command with name, and the end command that closes it. -/
structure Environment where
  name : String
  opening : Span
  closing : Span
deriving DecidableEq, Repr, Inhabited

structure Structure where
  includes : List Include
  labelDefinitions : List Symbol
  labelReferences : List Symbol
  citations : List Symbol
  sections : List Section
  environments : List Environment
  /-- Commands defined here; names have no backslash, spans do. -/
  commandDefinitions : List Symbol
  /-- Every command used, once, in the order of first use. -/
  commands : List String
  diagnostics : List Diagnostic
deriving DecidableEq, Repr, Inhabited

def Structure.empty : Structure := ⟨[], [], [], [], [], [], [], [], []⟩

end Manuscript.Latex

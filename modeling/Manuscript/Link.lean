/-
# Manuscript.Link -- from includes to the files they mean

Each include of a document is a link over the path as written.  Its target is
the document it resolves to, if the workspace has one.
-/
import Manuscript.Workspace.Graph

namespace Manuscript

set_option autoImplicit false

structure Link where
  range : Range
  target : Option Url
deriving DecidableEq, Repr

def Link.all (w : Workspace) (d : Document) : List Link :=
  match d.contents.latex? with
  | some s => s.includes.map fun i => ⟨d.range i.span, w.resolve? d.uri i⟩
  | none => []

end Manuscript

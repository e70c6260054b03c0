/-
# Manuscript.Workspace.Graph -- which documents include which

The edges of the include graph are not stored: they are resolved from the includes
of the documents against the documents that are there, so the graph cannot
disagree with them.

An include is tried next to the including document, first with the extension that
its command implies and then as written, and after that in the root directory in
the same two ways (`Workspace.resolve?`).

`Graph.visit` walks the graph depth first with a stack.  A document is listed when
it is first taken from the stack, its neighbours go onto the stack in their order,
and every step either takes a URL from the stack or lists a new document, which is
why the walk ends.
-/
import Manuscript.Workspace.Basic

namespace Manuscript

set_option autoImplicit false

open Latex (Include)

namespace Workspace

/-- What an include may mean where `base` is the place it is written. -/
def candidates (base : Url) (i : Include) : List Url :=
  [i.path ++ "." ++ i.kind.extension, i.path].filterMap base.join?

/-- The places an include of the document at `uri` is looked for from. -/
def bases (w : Workspace) (uri : Url) : List Url :=
  uri :: (w.options.rootDir.map Url.directory).toList

/-- The document an include means, if it is in the workspace. -/
def resolve? (w : Workspace) (uri : Url) (i : Include) : Option Url :=
  ((w.bases uri).flatMap fun base => candidates base i).find? w.contains

/-- The documents a document includes, in the order of its includes. -/
def targets (w : Workspace) (d : Document) : List Url :=
  match d.contents.latex? with
  | some s => s.includes.filterMap (w.resolve? d.uri)
  | none => []

end Workspace

/-- A document and the URLs of the documents it includes. -/
structure Node where
  document : Document
  targets : List Url
deriving DecidableEq, Repr

def Node.uri (n : Node) : Url := n.document.uri

/-- The documents of a workspace, in their order. -/
structure Graph where
  nodes : List Node
deriving DecidableEq, Repr

def Workspace.graph (w : Workspace) : Graph := ⟨w.documents.map fun d => ⟨d, w.targets d⟩⟩

namespace Graph

def node? (g : Graph) (uri : Url) : Option Node := g.nodes.find? (·.uri = uri)

/-- The documents that include the one at `uri`. -/
def includers (g : Graph) (uri : Url) : List Url :=
  (g.nodes.filter fun n => uri ∈ n.targets).map Node.uri

/-- Where a walk goes from a document: to what it includes and, if includes are followed
backwards too, on to what includes it. -/
def neighbours (g : Graph) (undirected : Bool) (n : Node) : List Url :=
  if undirected then n.targets ++ (g.includers n.uri).filter (· ∉ n.targets)
  else n.targets

/-- The documents that were not visited. -/
def unvisited (g : Graph) (visited : List Url) : List Node :=
  g.nodes.filter fun n => n.uri ∉ visited

theorem mem_of_node? {g : Graph} {uri : Url} {n : Node} (h : g.node? uri = some n) :
    n ∈ g.nodes ∧ n.uri = uri := by
  unfold node? at h
  exact ⟨List.mem_of_find?_eq_some h, by simpa using List.find?_some h⟩

theorem unvisited_cons (g : Graph) (visited : List Url) (uri : Url) :
    g.unvisited (uri :: visited) = (g.unvisited visited).filter fun n => n.uri ≠ uri := by
  simp only [unvisited, List.filter_filter]
  congr 1
  funext n
  simp

theorem unvisited_cons_le (g : Graph) (visited : List Url) (uri : Url) :
    (g.unvisited (uri :: visited)).length ≤ (g.unvisited visited).length := by
  rw [unvisited_cons]
  exact List.length_filter_le _ _

theorem unvisited_cons_lt {g : Graph} {visited : List Url} {uri : Url} {n : Node}
    (h : g.node? uri = some n) (hv : uri ∉ visited) :
    (g.unvisited (uri :: visited)).length < (g.unvisited visited).length := by
  obtain ⟨hmem, huri⟩ := mem_of_node? h
  rw [unvisited_cons]
  apply List.length_filter_lt_length_iff_exists.2
  exact ⟨n, by simp [unvisited, hmem, huri, hv], by simp [huri]⟩

/-- The documents of a walk that has visited some URLs and still has a stack of them. -/
def visit (g : Graph) (undirected : Bool) (visited : List Url) (stack : List Url) :
    List Document :=
  match stack with
  | [] => []
  | uri :: stack =>
      if _hv : uri ∈ visited then visit g undirected visited stack
      else match _h : g.node? uri with
        | none => visit g undirected (uri :: visited) stack
        | some n =>
            let next := (g.neighbours undirected n).filter fun v => v ∉ uri :: visited
            n.document :: visit g undirected (uri :: visited) (next ++ stack)
termination_by ((g.unvisited visited).length, stack.length)
decreasing_by
  · exact Prod.Lex.right _ (by simp)
  · rcases Nat.lt_or_eq_of_le (unvisited_cons_le g visited uri) with hlt | heq
    · exact Prod.Lex.left _ _ hlt
    · rw [heq]
      exact Prod.Lex.right _ (by simp)
  · exact Prod.Lex.left _ _ (unvisited_cons_lt _h _hv)

/-- The documents reached from a URL, in the order of their first discovery. -/
def traverse (g : Graph) (undirected : Bool) (origin : Url) : List Document :=
  g.visit undirected [] [origin]

end Graph

namespace Workspace

/-- The documents reached from the one at `uri`, if there is one. -/
def reached? (w : Workspace) (undirected : Bool) (uri : Url) : Except Error (List Document) :=
  if w.contains uri then .ok (w.graph.traverse undirected uri)
  else .error (.documentNotFound uri)

/-- A document and all it includes, directly or not. -/
def related? (w : Workspace) (uri : Url) : Except Error (List Document) := w.reached? false uri

/-- A document and all that is connected to it by includes. -/
def project? (w : Workspace) (uri : Url) : Except Error (List Document) := w.reached? true uri

/-- The documents that questions about the one at `uri` consider. -/
def scope? (w : Workspace) (uri : Url) : Except Error (List Document) :=
  w.reached? w.options.followParents uri

/-- The documents whose answers may change when the one at `uri` changes. -/
def dependents (w : Workspace) (uri : Url) : List Url :=
  let g := w.graph
  w.uris.filter fun candidate =>
    candidate = uri ∨
      (g.traverse w.options.followParents candidate).any fun d => d.uri = uri

end Workspace

end Manuscript

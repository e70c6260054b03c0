/-
# Manuscript.Proofs.Workspace.Map -- documents that change in their places

When documents get new texts but go on including the same files, every walk lists the
documents it listed before, in the same order and in their new form (`scope?_map`).  A
walk goes by URLs and targets, so it is enough that these stay: `Keeps` says so of a
change to one document, and `Graph.visit_map` follows the walk.

Storing a new text for a document that is there is such a change (`add_eq_map`).
-/
import Manuscript.Proofs.Workspace.Scope
import Mathlib.Data.List.Find
import Mathlib.Data.List.Nodup

namespace Manuscript

set_option autoImplicit false

/-! ## Graphs -/

namespace Graph

variable {g : Graph} {f : Document → Document} {undirected : Bool}

/-- The graph with other documents at its nodes. -/
def map (g : Graph) (f : Document → Document) : Graph :=
  ⟨g.nodes.map fun n => ⟨f n.document, n.targets⟩⟩

theorem node?_map (hf : ∀ n ∈ g.nodes, (f n.document).uri = n.document.uri) (uri : Url) :
    (g.map f).node? uri = (g.node? uri).map fun n => ⟨f n.document, n.targets⟩ := by
  rw [node?, map, List.find?_map]
  refine congrArg _ (List.find?_congr fun n hn => ?_)
  rw [Function.comp_apply, Node.uri, hf n hn, Node.uri]

theorem includers_map (hf : ∀ n ∈ g.nodes, (f n.document).uri = n.document.uri) (uri : Url) :
    (g.map f).includers uri = g.includers uri := by
  simp only [includers, map, List.filter_map, List.map_map]
  exact List.map_congr_left fun n hn => hf n (List.mem_filter.1 hn).1

/-- **A walk lists the other documents in the order in which it listed the first.** -/
theorem visit_map (hf : ∀ n ∈ g.nodes, (f n.document).uri = n.document.uri)
    (visited stack : List Url) :
    (g.map f).visit undirected visited stack = (g.visit undirected visited stack).map f := by
  induction visited, stack using @visit_induction g undirected with
  | nil visited => rw [visit_nil, visit_nil, List.map_nil]
  | known visited uri stack hv ih => rw [visit_of_mem hv, visit_of_mem hv, ih]
  | missing visited uri stack hv hnone ih =>
      have hnone' : (g.map f).node? uri = none := by rw [node?_map hf, hnone, Option.map_none]
      rw [visit_of_none hv hnone, visit_of_none hv hnone', ih]
  | listed visited uri stack n hv hn ih =>
      have hn' : (g.map f).node? uri = some ⟨f n.document, n.targets⟩ := by
        rw [node?_map hf, hn, Option.map_some]
      have huri : Node.uri ⟨f n.document, n.targets⟩ = n.uri := hf n (mem_of_node? hn).1
      have hneighbours : (g.map f).neighbours undirected ⟨f n.document, n.targets⟩ =
          g.neighbours undirected n := by
        unfold neighbours
        rw [huri, includers_map hf]
      rw [visit_of_some hv hn, visit_of_some hv hn', hneighbours, ih, List.map_cons]

end Graph

/-! ## Workspaces -/

/-- The kinds and paths of what a document includes. -/
def Document.includes (d : Document) : List (Latex.IncludeKind × String) :=
  match d.contents with
  | .latex s => s.includes.map fun i => (i.kind, i.path)
  | .bibtex _ => []

/-- A change to a document that keeps its URL and what it includes. -/
structure Document.Keeps (f : Document → Document) (d : Document) : Prop where
  uri : (f d).uri = d.uri
  includes : (f d).includes = d.includes

namespace Workspace

variable {w : Workspace} {f : Document → Document}

/-- The workspace with each document changed in its place. -/
def map (w : Workspace) (f : Document → Document) : Workspace :=
  { w with documents := w.documents.map f }

theorem uris_map (hf : ∀ d ∈ w.documents, (f d).uri = d.uri) : (w.map f).uris = w.uris := by
  simp only [uris, map, List.map_map]
  exact List.map_congr_left hf

theorem get?_map (hf : ∀ d ∈ w.documents, (f d).uri = d.uri) (uri : Url) :
    (w.map f).get? uri = (w.get? uri).map f := by
  rw [get?, map, List.find?_map]
  refine congrArg _ (List.find?_congr fun d hd => ?_)
  rw [Function.comp_apply, hf d hd]

/-- Storing a document that is there changes it in its place. -/
theorem add_eq_map (nodup : w.uris.Nodup) {d : Document} (h : d.uri ∈ w.uris) :
    w.add d = w.map fun e => if e.uri = d.uri then settled d else e := by
  have hinsert : ∀ ds : List Document, (ds.map Document.uri).Nodup → d.uri ∈ ds.map Document.uri →
      insert (settled d) ds = ds.map fun e => if e.uri = d.uri then settled d else e := by
    intro ds hnodup hmem
    induction ds with
    | nil => cases hmem
    | cons e es ih =>
        rw [List.map_cons, List.nodup_cons] at hnodup
        rw [insert, settled_uri, List.map_cons]
        by_cases he : e.uri = d.uri
        · rw [if_pos he, if_pos he]
          -- the URL is not met again
          have hrest : es.map (fun e => if e.uri = d.uri then settled d else e) = es.map id := by
            refine List.map_congr_left fun x hx => if_neg fun hx' => hnodup.1 ?_
            rw [he, ← hx']
            exact List.mem_map_of_mem hx
          rw [hrest, List.map_id]
        · rw [if_neg he, if_neg he, ih hnodup.2
            ((List.mem_cons.1 hmem).resolve_left (Ne.symm he))]
  rw [add, map, hinsert w.documents nodup h]

theorem resolve?_map (hf : ∀ d ∈ w.documents, (f d).uri = d.uri) {i i' : Latex.Include}
    (hkind : i.kind = i'.kind) (hpath : i.path = i'.path) (base : Url) :
    (w.map f).resolve? base i' = w.resolve? base i := by
  have hcontains : (w.map f).contains = w.contains := by
    funext uri
    rw [contains, contains, uris_map hf]
  unfold resolve?
  rw [hcontains]
  simp only [candidates, hkind, hpath]
  rfl

theorem targets_map {d : Document} (hf : ∀ d ∈ w.documents, (f d).uri = d.uri) (hd : d.Keeps f) :
    (w.map f).targets (f d) = w.targets d := by
  have htargets (w : Workspace) (d : Document) : w.targets d =
      d.includes.filterMap fun i => w.resolve? d.uri ⟨i.1, i.2, ⟨0, 0⟩⟩ := by
    unfold targets Document.includes
    cases d.contents with
    | latex s =>
        rw [List.filterMap_map]
        rfl
    | bibtex s => rfl
  rw [htargets, htargets, hd.includes, hd.uri]
  exact List.filterMap_congr fun i _ => resolve?_map hf rfl rfl d.uri

theorem graph_map (hf : ∀ d ∈ w.documents, d.Keeps f) : (w.map f).graph = w.graph.map f := by
  simp only [graph, map, Graph.map, List.map_map]
  congr 1
  apply List.map_congr_left
  intro d hd
  have := targets_map (fun e he => (hf e he).uri) (hf d hd)
  simp only [Function.comp_apply]
  rw [← this]
  rfl

/-- **A scope has the same documents after they were changed in their places.** -/
theorem scope?_map (hf : ∀ d ∈ w.documents, d.Keeps f) {uri : Url} {scope : List Document}
    (h : w.scope? uri = .ok scope) : (w.map f).scope? uri = .ok (scope.map f) := by
  have huri : ∀ d ∈ w.documents, (f d).uri = d.uri := fun d hd => (hf d hd).uri
  obtain ⟨origin, horigin, rfl⟩ := exists_of_scope? h
  have horigin' : (w.map f).get? uri = some (f origin) := by
    rw [get?_map huri, horigin, Option.map_some]
  rw [scope?_of_get? horigin', graph_map hf, Graph.traverse, Graph.traverse]
  refine congrArg _ (Graph.visit_map (fun n hn => ?_) [] [uri])
  obtain ⟨d, hd, rfl⟩ := List.mem_map.1 hn
  exact huri d hd

end Workspace

end Manuscript

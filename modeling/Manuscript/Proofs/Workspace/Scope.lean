/-
# Manuscript.Proofs.Workspace.Scope -- the documents a question considers

The scope of a document is the walk from it (`scope?_of_get?`).  Its documents are
different documents of the workspace that describe their texts, the origin is one of
them (`Sound.of_scope?`), and a request finds its origin there
(`origin?_traverse`).  The dependents of a document are those whose walk comes to it
(`mem_dependents_iff`).
-/
import Manuscript.Query
import Manuscript.Proofs.Workspace.Edit

namespace Manuscript.Workspace

set_option autoImplicit false

variable {w : Workspace} {uri : Url}

theorem node?_of_get? {d : Document} (h : w.get? uri = some d) :
    w.graph.node? uri = some ⟨d, w.targets d⟩ :=
  node?_graph_eq_some.2 ⟨h, rfl⟩

theorem exists_node? (h : w.contains uri = true) : ∃ n, w.graph.node? uri = some n := by
  obtain ⟨d, hd⟩ := contains_iff_get?.1 h
  exact ⟨_, node?_of_get? hd⟩

theorem scope?_of_get? {d : Document} (h : w.get? uri = some d) :
    w.scope? uri = .ok (w.graph.traverse w.options.followParents uri) := by
  rw [scope?, reached?, if_pos (contains_iff_get?.2 ⟨d, h⟩)]

/-- The scope of a document, by as many steps as its walk takes. -/
theorem scope?_of_within {d : Document} {steps : Nat} {ds : List Document}
    (h : w.get? uri = some d)
    (hwalk : w.graph.visitWithin w.options.followParents steps [] [uri] = some ds) :
    w.scope? uri = .ok ds := by
  rw [scope?_of_get? h, Graph.traverse, Graph.visit_eq_of_within hwalk]

/-- A walk finds its origin first. -/
theorem origin?_traverse {d : Document} (h : w.get? uri = some d) (undirected : Bool) :
    origin? uri (w.graph.traverse undirected uri) = .ok d := by
  obtain ⟨rest, hrest⟩ := @Graph.traverse_eq_cons w.graph undirected uri _ (node?_of_get? h)
  rw [origin?, hrest, List.find?_cons_of_pos (by simpa using uri_of_get? h)]

theorem exists_of_scope? {scope : List Document} (h : w.scope? uri = .ok scope) :
    ∃ origin, w.get? uri = some origin ∧
      scope = w.graph.traverse w.options.followParents uri := by
  unfold scope? reached? at h
  split at h
  · rename_i hcontains
    cases h
    obtain ⟨origin, horigin⟩ := contains_iff_get?.1 hcontains
    exact ⟨origin, horigin, rfl⟩
  · cases h

/-- **The documents of a scope are different documents of the workspace that describe their
texts.** -/
theorem Sound.of_scope? (sound : w.Sound) {scope : List Document} (h : w.scope? uri = .ok scope) :
    (scope.map Document.uri).Nodup ∧
      ∀ d ∈ scope, d ∈ w.documents ∧ w.get? d.uri = some d ∧ d.Settled := by
  obtain ⟨origin, horigin, rfl⟩ := exists_of_scope? h
  refine ⟨Graph.nodup_traverse uri, ?_⟩
  intro d hd
  obtain ⟨n, hn, rfl, -⟩ := Graph.mem_traverse_iff.1 hd
  have hget := (node?_graph_eq_some.1 hn).1
  exact ⟨mem_of_get? hget, hget, sound.settled _ (mem_of_get? hget)⟩

theorem mem_scope_of_get? {origin : Document} (h : w.get? uri = some origin)
    {scope : List Document} (hscope : w.scope? uri = .ok scope) : origin ∈ scope := by
  rw [scope?_of_get? h] at hscope
  cases hscope
  obtain ⟨rest, hrest⟩ :=
    @Graph.traverse_eq_cons w.graph w.options.followParents uri _ (node?_of_get? h)
  rw [hrest]
  exact List.mem_cons_self

/-- A document depends on those that its walk comes to. -/
theorem mem_dependents_iff {u v : Url} :
    v ∈ w.dependents u ↔
      w.contains v = true ∧ w.graph.Reach w.options.followParents v u := by
  simp only [dependents, List.mem_filter, Bool.decide_or, Bool.or_eq_true, decide_eq_true_eq,
    List.any_eq_true, ← contains_iff]
  constructor
  · rintro ⟨hv, rfl | ⟨d, hd, rfl⟩⟩
    · exact ⟨hv, .refl⟩
    · obtain ⟨-, -, -, hreach⟩ := Graph.mem_traverse_iff.1 hd
      exact ⟨hv, hreach⟩
  · rintro ⟨hv, hreach⟩
    obtain ⟨n, hn⟩ := exists_node? (contains_of_reach hv hreach)
    have huri := Graph.node_uri hn
    exact ⟨hv, Or.inr ⟨n.document,
      Graph.mem_traverse_iff.2 ⟨n, by rw [huri, hn], rfl, by rwa [huri]⟩, huri⟩⟩

end Manuscript.Workspace

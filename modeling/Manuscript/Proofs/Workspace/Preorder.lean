/-
# Manuscript.Proofs.Workspace.Preorder -- a walk with a stack is a search by recursion

`Graph.visit` keeps a stack and marks a URL when it takes it from there, so the stack
gathers URLs that were marked after they were put on it.  `Graph.search` is the search as
it is told: mark the URL, list its document, search from each neighbour in turn, and leave
out what is marked by then.

The stack is what the recursion has yet to do: a walk with `uris` on top of its stack
lists what the search from `uris` lists, and goes on with the rest of the stack where the
search stopped (`visit_append`).  Stale entries do not matter, since a walk passes over
them (`visit_filter_append`).  Hence the documents related to one are the preorder of the
search from it (`Workspace.reached?_preorder`), and the loop that lists them ends
(`exists_within`).
-/
import Manuscript.Proofs.Workspace.Scope

namespace Manuscript

set_option autoImplicit false

namespace Graph

variable {g : Graph} {undirected : Bool}

/-! ## The search -/

/-- What a search found that some URLs had been marked for: documents in the order of their
discovery, and the URLs that are marked now. -/
structure Discovery (before : List Url) where
  documents : List Document
  marked : List Url
  keeps : before ⊆ marked

theorem unvisited_le_of_subset (g : Graph) {visited more : List Url} (h : visited ⊆ more) :
    (g.unvisited more).length ≤ (g.unvisited visited).length := by
  have hsub : (g.unvisited more).Sublist (g.unvisited visited) := by
    refine List.monotone_filter_right g.nodes fun n hn => ?_
    simp only [decide_eq_true_eq] at hn ⊢
    exact fun hv => hn (h hv)
  exact hsub.length_le

/-- The search from some URLs in turn.  From a document it goes to the neighbours of the
document, and then to the URLs that are left. -/
def search (g : Graph) (undirected : Bool) (marked : List Url) (uris : List Url) :
    Discovery marked :=
  match uris with
  | [] => ⟨[], marked, List.Subset.refl marked⟩
  | uri :: uris =>
      if _hm : uri ∈ marked then search g undirected marked uris
      else match _h : g.node? uri with
        | none =>
            let rest := search g undirected (uri :: marked) uris
            ⟨rest.documents, rest.marked,
              List.Subset.trans (List.subset_cons_self uri marked) rest.keeps⟩
        | some n =>
            let inner := search g undirected (uri :: marked) (g.neighbours undirected n)
            let rest := search g undirected inner.marked uris
            ⟨n.document :: (inner.documents ++ rest.documents), rest.marked,
              List.Subset.trans (List.Subset.trans (List.subset_cons_self uri marked) inner.keeps)
                rest.keeps⟩
termination_by ((g.unvisited marked).length, uris.length)
decreasing_by
  · exact Prod.Lex.right _ (by simp)
  · rcases Nat.lt_or_eq_of_le (unvisited_cons_le g marked uri) with hlt | heq
    · exact Prod.Lex.left _ _ hlt
    · rw [heq]
      exact Prod.Lex.right _ (by simp)
  · exact Prod.Lex.left _ _ (unvisited_cons_lt _h _hm)
  · refine Prod.Lex.left _ _ (Nat.lt_of_le_of_lt ?_ (unvisited_cons_lt _h _hm))
    exact unvisited_le_of_subset g inner.keeps

/-- The documents of the search from one URL. -/
def preorder (g : Graph) (undirected : Bool) (origin : Url) : List Document :=
  (g.search undirected [] [origin]).documents

/-! ## Stale entries of a stack -/

theorem visit_append_of_subset {visited known : List Url} (h : known ⊆ visited)
    (stack : List Url) :
    g.visit undirected visited (known ++ stack) = g.visit undirected visited stack := by
  induction known with
  | nil => rfl
  | cons uri known ih =>
      rw [List.cons_append, visit_of_mem (h List.mem_cons_self)]
      exact ih fun v hv => h (List.mem_cons_of_mem _ hv)

/-- A stack with the same new URLs in the same order gives the same walk. -/
theorem visit_eq_of_filter (visited stack : List Url) :
    ∀ other : List Url, other.filter (fun v => v ∉ visited) = stack.filter (fun v => v ∉ visited) →
      g.visit undirected visited other = g.visit undirected visited stack := by
  -- where a new URL is taken from one stack, the other has it behind known ones
  have first {visited stack other : List Url} {uri : Url} (hv : uri ∉ visited)
      (h : other.filter (fun v => v ∉ visited) =
        (uri :: stack).filter (fun v => v ∉ visited)) :
      ∃ known rest, other = known ++ uri :: rest ∧ known ⊆ visited ∧
        rest.filter (fun v => v ∉ visited) = stack.filter (fun v => v ∉ visited) := by
    rw [List.filter_cons_of_pos (by simpa using hv)] at h
    obtain ⟨known, rest, rfl, hknown, -, hrest⟩ := List.filter_eq_cons_iff.1 h
    exact ⟨known, rest, rfl, fun v hv => by simpa using hknown v hv, hrest⟩
  -- marking one more URL keeps the stacks alike
  have marked {visited as bs : List Url} (uri : Url)
      (h : as.filter (fun v => v ∉ visited) = bs.filter (fun v => v ∉ visited)) :
      as.filter (fun v => v ∉ uri :: visited) = bs.filter (fun v => v ∉ uri :: visited) := by
    have := congrArg (List.filter fun v => decide (v ≠ uri)) h
    simpa [List.filter_filter, not_or, Bool.decide_and] using this
  induction visited, stack using @visit_induction g undirected with
  | nil visited =>
      intro other h
      rw [List.filter_nil, List.filter_eq_nil_iff] at h
      have hknown : other ⊆ visited := fun v hv => by simpa using h v hv
      have := @visit_append_of_subset g undirected visited other hknown []
      rwa [List.append_nil] at this
  | known visited uri stack hv ih =>
      intro other h
      rw [visit_of_mem hv]
      rw [List.filter_cons_of_neg (by simpa using hv)] at h
      exact ih other h
  | missing visited uri stack hv hn ih =>
      intro other h
      obtain ⟨known, rest, rfl, hknown, hrest⟩ := first hv h
      rw [visit_append_of_subset hknown, visit_of_none hv hn, visit_of_none hv hn]
      exact ih rest (marked uri hrest)
  | listed visited uri stack n hv hn ih =>
      intro other h
      obtain ⟨known, rest, rfl, hknown, hrest⟩ := first hv h
      rw [visit_append_of_subset hknown, visit_of_some hv hn, visit_of_some hv hn]
      congr 1
      apply ih
      rw [List.filter_append, List.filter_append, marked uri hrest]

theorem visit_filter_append (visited uris stack : List Url) :
    g.visit undirected visited (uris.filter (fun v => v ∉ visited) ++ stack) =
      g.visit undirected visited (uris ++ stack) := by
  apply visit_eq_of_filter
  rw [List.filter_append, List.filter_append, List.filter_filter]
  simp

/-! ## The stack as what is left to search -/

/-- **A walk lists what the search from the top of its stack lists, and goes on from there.** -/
theorem visit_append (marked uris stack : List Url) :
    g.visit undirected marked (uris ++ stack) =
      (g.search undirected marked uris).documents ++
        g.visit undirected (g.search undirected marked uris).marked stack := by
  induction marked, uris using search.induct g undirected generalizing stack with
  | case1 marked => simp [search]
  | case2 marked uri uris hm ih =>
      rw [List.cons_append, visit_of_mem hm, search, dif_pos hm]
      exact ih stack
  | case3 marked uri uris hm hn ih =>
      rw [List.cons_append, visit_of_none hm hn, ih stack, search, dif_neg hm]
      split
      · rfl
      · rename_i n hn'
        rw [hn] at hn'
        cases hn'
  | case4 marked uri uris hm n hn inner ihinner ihrest =>
      rw [List.cons_append, visit_of_some hm hn, visit_filter_append, ihinner, ihrest stack, search,
        dif_neg hm]
      split
      · rename_i hn'
        rw [hn] at hn'
        cases hn'
      · rename_i m hm'
        rw [hn] at hm'
        cases hm'
        simp only [List.cons_append, List.append_assoc]
        rfl

theorem traverse_eq_preorder (g : Graph) (undirected : Bool) (origin : Url) :
    g.traverse undirected origin = g.preorder undirected origin := by
  have h := @visit_append g undirected [] [origin] []
  rw [visit_nil, List.append_nil, List.append_nil] at h
  exact h

/-- **The loop of a walk ends.** -/
theorem exists_within (visited stack : List Url) :
    ∃ steps, g.visitWithin undirected steps visited stack =
      some (g.visit undirected visited stack) := by
  induction visited, stack using @visit_induction g undirected with
  | nil visited => exact ⟨0, by rw [visit_nil, visitWithin]⟩
  | known visited uri stack hv ih =>
      obtain ⟨steps, hsteps⟩ := ih
      exact ⟨steps + 1, by rw [visitWithin, if_pos hv, visit_of_mem hv, hsteps]⟩
  | missing visited uri stack hv hn ih =>
      obtain ⟨steps, hsteps⟩ := ih
      exact ⟨steps + 1, by rw [visitWithin, if_neg hv, hn, visit_of_none hv hn, hsteps]⟩
  | listed visited uri stack n hv hn ih =>
      obtain ⟨steps, hsteps⟩ := ih
      refine ⟨steps + 1, ?_⟩
      rw [visitWithin, if_neg hv, hn, visit_of_some hv hn]
      show (g.visitWithin undirected steps _ _).map _ = _
      rw [hsteps, Option.map_some]

end Graph

namespace Workspace

variable {w : Workspace} {uri : Url}

/-- **The documents reached from one are the preorder of the search from it.** -/
theorem reached?_preorder (h : w.contains uri = true) :
    w.related? uri = .ok (w.graph.preorder false uri) ∧
      w.project? uri = .ok (w.graph.preorder true uri) ∧
      ∀ undirected,
        (∃ steps, w.graph.visitWithin undirected steps [] [uri] =
          some (w.graph.preorder undirected uri)) ∧
        (∃ origin rest, w.get? uri = some origin ∧
          w.graph.preorder undirected uri = origin :: rest) ∧
        ((w.graph.preorder undirected uri).map Document.uri).Nodup ∧
        ∀ d, d ∈ w.graph.preorder undirected uri ↔
          w.get? d.uri = some d ∧ w.graph.Reach undirected uri d.uri := by
  have hreached (undirected : Bool) :
      w.reached? undirected uri = .ok (w.graph.preorder undirected uri) := by
    rw [reached?, if_pos h, Graph.traverse_eq_preorder]
  refine ⟨hreached false, hreached true, fun undirected => ?_⟩
  rw [← Graph.traverse_eq_preorder]
  refine ⟨Graph.exists_within [] [uri], ?_, Graph.nodup_traverse uri, fun d => ?_⟩
  · obtain ⟨origin, horigin⟩ := contains_iff_get?.1 h
    obtain ⟨rest, hrest⟩ :=
      @Graph.traverse_eq_cons w.graph undirected uri _ (node?_of_get? horigin)
    exact ⟨origin, rest, horigin, hrest⟩
  · rw [Graph.mem_traverse_iff]
    constructor
    · rintro ⟨n, hn, hd, hreach⟩
      rw [node?_graph_eq_some, hd] at hn
      exact ⟨hn.1, hreach⟩
    · rintro ⟨hd, hreach⟩
      exact ⟨_, node?_of_get? hd, rfl, hreach⟩

namespace Example

/-- Two documents that include each other, the first one itself too, and one that includes
the second and that nothing includes. -/
def ring : Workspace :=
  let document (path text : String) : Document :=
    ((Document.create ⟨"file", some ⟨"", "", none⟩, path, none, none⟩ .latex).withText text).analyzed
  (((Workspace.empty ⟨none, false⟩).add (document "/a.tex" "\\input{b}\\input{a}")).add
    (document "/b.tex" "\\input{a}")).add (document "/c.tex" "\\input{b}")

def ringOrigin : Url := ⟨"file", some ⟨"", "", none⟩, "/b.tex", none, none⟩

end Example

/-- Includes alone do not lead to the third document.  Read backwards they do, behind the other
two. -/
theorem reached?_preorder_ring :
    Example.ring.contains Example.ringOrigin = true ∧
      Example.ring.related? Example.ringOrigin =
        .ok (Example.ring.graph.preorder false Example.ringOrigin) ∧
      (Example.ring.graph.preorder false Example.ringOrigin).map (·.uri.path) =
        ["/b.tex", "/a.tex"] ∧
      Example.ring.project? Example.ringOrigin =
        .ok (Example.ring.graph.preorder true Example.ringOrigin) ∧
      (Example.ring.graph.preorder true Example.ringOrigin).map (·.uri.path) =
        ["/b.tex", "/a.tex", "/c.tex"] := by
  have hcontains : Example.ring.contains Example.ringOrigin = true := by decide +kernel
  obtain ⟨hrelated, hproject, -⟩ := reached?_preorder hcontains
  have hforward : (Example.ring.graph.visitWithin false 6 [] [Example.ringOrigin]).map
      (List.map (·.uri.path)) = some ["/b.tex", "/a.tex"] := by decide +kernel
  have hboth : (Example.ring.graph.visitWithin true 12 [] [Example.ringOrigin]).map
      (List.map (·.uri.path)) = some ["/b.tex", "/a.tex", "/c.tex"] := by decide +kernel
  refine ⟨hcontains, hrelated, ?_, hproject, ?_⟩
  · rw [← Graph.traverse_eq_preorder, Graph.map_traverse_of_within hforward]
  · rw [← Graph.traverse_eq_preorder, Graph.map_traverse_of_within hboth]

end Workspace

end Manuscript

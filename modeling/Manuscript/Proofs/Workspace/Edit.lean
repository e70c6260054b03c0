/-
# Manuscript.Proofs.Workspace.Edit -- how far the change of one document goes

Storing a document and removing one are the same change seen from its two sides:
`Extends uri w w'` says that `w'` differs from `w` at `uri` alone, and that it has a
document there if `w` has.  Includes that `w'` does not resolve to `uri` mean the same
in both (`Extends.resolve?_eq`), so a document includes the same documents unless it
includes the one at `uri` in `w'` (`Extends.targets_eq`).

Forward walks that do not come to `uri` in `w'` are therefore walks of `w` as well
(`Extends.traverse_eq`).  Where includes are followed backwards too, an edit can also
cut a walk off: a document that includes something else now is no longer an includer
of what it included before.  `Extends.project_eq` asks for a walk that meets no such
document in `w` either.
-/
import Manuscript.Proofs.Workspace.History
import Manuscript.Proofs.Workspace.Walk
import Mathlib.Data.List.Basic

namespace Manuscript.Workspace

set_option autoImplicit false

open Latex (Include)

variable {w w' : Workspace} {uri : Url}

/-- The workspaces differ at `uri` alone, where `w'` has a document if `w` has. -/
structure Extends (uri : Url) (w w' : Workspace) : Prop where
  options : w.options = w'.options
  others : w.documents.filter (·.uri ≠ uri) = w'.documents.filter (·.uri ≠ uri)
  contains : w.contains uri = true → w'.contains uri = true

theorem filter_insert (d : Document) (ds : List Document) :
    (insert d ds).filter (·.uri ≠ d.uri) = ds.filter (·.uri ≠ d.uri) := by
  induction ds with
  | nil => simp [insert]
  | cons e es ih =>
      unfold insert
      by_cases he : e.uri = d.uri
      · simp [he]
      · simp only [he, if_false]
        rw [List.filter_cons_of_pos (by simpa using he), ih,
          List.filter_cons_of_pos (by simpa using he)]

theorem extends_add (w : Workspace) (d : Document) : Extends d.uri w (w.add d) := by
  refine ⟨rfl, ?_, ?_⟩
  · have := filter_insert (settled d) w.documents
    rw [settled_uri] at this
    exact this.symm
  · intro h
    rw [contains_iff, uris_add, if_pos (contains_iff.1 h)]
    exact contains_iff.1 h

theorem extends_remove (w : Workspace) (uri : Url) : Extends uri (w.remove uri) w := by
  refine ⟨rfl, ?_, ?_⟩
  · simp [remove, List.filter_filter]
  · intro h
    rw [contains_iff, uris_remove] at h
    exact contains_iff.2 (List.mem_filter.1 h).1

theorem Extends.mem_iff (h : Extends uri w w') {d : Document} (hd : d.uri ≠ uri) :
    d ∈ w.documents ↔ d ∈ w'.documents := by
  have hw : d ∈ w.documents ↔ d ∈ w.documents.filter (·.uri ≠ uri) := by simp [hd]
  rw [hw, h.others]
  simp [hd]

theorem find?_others (w : Workspace) {v : Url} (hv : v ≠ uri) :
    (w.documents.filter (·.uri ≠ uri)).find? (·.uri = v) = w.get? v := by
  have := get?_remove (w := w) uri v
  rwa [if_neg hv] at this

theorem Extends.get?_eq (h : Extends uri w w') {v : Url} (hv : v ≠ uri) :
    w.get? v = w'.get? v := by
  rw [← find?_others w hv, h.others, find?_others w' hv]

theorem Extends.contains_eq (h : Extends uri w w') {v : Url} (hv : v ≠ uri) :
    w.contains v = w'.contains v := by
  rw [Bool.eq_iff_iff, contains_iff_get?, contains_iff_get?, h.get?_eq hv]

/-! ## Includes -/

/-- Two searches that differ at `uri` alone agree, unless the wider one finds `uri`. -/
theorem find?_eq_of_agree {p q : Url → Bool} (same : ∀ v, v ≠ uri → p v = q v)
    (grows : p uri = true → q uri = true) {vs : List Url} (h : vs.find? q ≠ some uri) :
    vs.find? p = vs.find? q := by
  induction vs with
  | nil => rfl
  | cons v vs ih =>
      by_cases hv : v = uri
      · subst hv
        cases hq : q v with
        | true => exact absurd (List.find?_cons_of_pos hq) h
        | false =>
            have hp : ¬ p v = true := fun hp => by rw [grows hp] at hq; cases hq
            have hq : ¬ q v = true := by simp [hq]
            rw [List.find?_cons_of_neg hq] at h ⊢
            rw [List.find?_cons_of_neg hp]
            exact ih h
      · cases hq : q v with
        | true =>
            rw [List.find?_cons_of_pos hq, List.find?_cons_of_pos (by rw [same v hv, hq])]
        | false =>
            have hp : ¬ p v = true := by simp [same v hv, hq]
            have hq : ¬ q v = true := by simp [hq]
            rw [List.find?_cons_of_neg hq] at h ⊢
            rw [List.find?_cons_of_neg hp]
            exact ih h

theorem Extends.resolve?_eq (h : Extends uri w w') {base : Url} {i : Include}
    (hr : w'.resolve? base i ≠ some uri) : w.resolve? base i = w'.resolve? base i := by
  have hb : w.bases base = w'.bases base := by rw [bases, bases, h.options]
  unfold resolve? at hr ⊢
  rw [hb]
  exact find?_eq_of_agree (fun v hv => h.contains_eq hv) h.contains hr

/-- Includes mean the same where the same documents are there. -/
theorem resolve?_congr (options : w.options = w'.options) (contains : w.contains = w'.contains) :
    w.resolve? = w'.resolve? := by
  funext base i
  unfold resolve? bases
  rw [contains, options]

theorem targets_congr (options : w.options = w'.options) (contains : w.contains = w'.contains) :
    w.targets = w'.targets := by
  funext d
  unfold targets
  rw [resolve?_congr options contains]

/-- A document includes the same documents, unless it includes the one at `uri` now. -/
theorem Extends.targets_eq (h : Extends uri w w') {d : Document} (hd : uri ∉ w'.targets d) :
    w.targets d = w'.targets d := by
  unfold targets at hd ⊢
  split
  · rename_i s hs
    rw [hs] at hd
    refine List.filterMap_congr fun i hi => h.resolve?_eq fun hr => hd ?_
    exact List.mem_filterMap.2 ⟨i, hi, hr⟩
  · rfl

/-- An include means a document that is there. -/
theorem contains_of_mem_targets {d : Document} {v : Url} (h : v ∈ w.targets d) :
    w.contains v = true := by
  unfold targets at h
  split at h
  · obtain ⟨i, -, hr⟩ := List.mem_filterMap.1 h
    exact List.find?_some hr
  · cases h

/-! ## The graph -/

theorem node?_graph (w : Workspace) (v : Url) :
    w.graph.node? v = (w.get? v).map fun d => ⟨d, w.targets d⟩ := by
  simp only [Graph.node?, graph, List.find?_map, get?]
  rfl

theorem node?_graph_eq_some {v : Url} {n : Node} :
    w.graph.node? v = some n ↔ w.get? v = some n.document ∧ n.targets = w.targets n.document := by
  rw [node?_graph]
  constructor
  · intro h
    obtain ⟨d, hd, rfl⟩ := Option.map_eq_some_iff.1 h
    exact ⟨hd, rfl⟩
  · rintro ⟨hd, ht⟩
    rw [hd, Option.map_some, ← ht]

theorem mem_includers {v x : Url} :
    x ∈ w.graph.includers v ↔ ∃ d ∈ w.documents, d.uri = x ∧ v ∈ w.targets d := by
  simp only [Graph.includers, graph, List.mem_map, List.mem_filter, decide_eq_true_eq, Node.uri]
  constructor
  · rintro ⟨n, ⟨⟨d, hd, rfl⟩, hv⟩, rfl⟩
    exact ⟨d, hd, rfl, hv⟩
  · rintro ⟨d, hd, rfl, hv⟩
    exact ⟨⟨d, w.targets d⟩, ⟨⟨d, hd, rfl⟩, hv⟩, rfl⟩

theorem includers_eq (w : Workspace) (v : Url) :
    w.graph.includers v = (w.documents.filter fun d => v ∈ w.targets d).map Document.uri := by
  simp only [Graph.includers, graph, List.filter_map, List.map_map]
  rfl

theorem edge_false_iff {a b : Url} :
    w.graph.Edge false a b ↔ ∃ d, w.get? a = some d ∧ b ∈ w.targets d := by
  constructor
  · rintro ⟨n, hn, hb⟩
    obtain ⟨hd, ht⟩ := node?_graph_eq_some.1 hn
    exact ⟨n.document, hd, ht ▸ hb⟩
  · rintro ⟨d, hd, hb⟩
    exact ⟨⟨d, w.targets d⟩, node?_graph_eq_some.2 ⟨hd, rfl⟩, hb⟩

/-- A walk in both directions goes to what a document includes and to what includes it. -/
theorem edge_true_iff {a b : Url} :
    w.graph.Edge true a b ↔ ∃ d, w.get? a = some d ∧
      (b ∈ w.targets d ∨ ∃ e ∈ w.documents, e.uri = b ∧ a ∈ w.targets e) := by
  have huri {n : Node} (hn : w.graph.node? a = some n) : n.uri = a := (Graph.mem_of_node? hn).2
  constructor
  · rintro ⟨n, hn, hb⟩
    obtain ⟨hd, ht⟩ := node?_graph_eq_some.1 hn
    refine ⟨n.document, hd, ?_⟩
    rcases List.mem_append.1 hb with hb | hb
    · exact Or.inl (ht ▸ hb)
    · rw [huri hn] at hb
      exact Or.inr (mem_includers.1 (List.mem_filter.1 hb).1)
  · rintro ⟨d, hd, hb⟩
    have hn : w.graph.node? a = some ⟨d, w.targets d⟩ := node?_graph_eq_some.2 ⟨hd, rfl⟩
    refine ⟨_, hn, ?_⟩
    by_cases ht : b ∈ w.targets d
    · exact List.mem_append_left _ ht
    · refine List.mem_append_right _ (List.mem_filter.2 ⟨?_, by simpa using ht⟩)
      rw [huri hn]
      exact mem_includers.2 (hb.resolve_left ht)

/-- Every walk from a document stays among the documents. -/
theorem contains_of_reach {undirected : Bool} {a b : Url} (ha : w.contains a = true)
    (h : w.graph.Reach undirected a b) : w.contains b = true := by
  induction h with
  | refl => exact ha
  | tail _ edge _ =>
      cases undirected with
      | false =>
          obtain ⟨d, -, hb⟩ := edge_false_iff.1 edge
          exact contains_of_mem_targets hb
      | true =>
          obtain ⟨d, -, hb⟩ := edge_true_iff.1 edge
          rcases hb with hb | ⟨e, he, rfl, -⟩
          · exact contains_of_mem_targets hb
          · exact contains_iff.2 (List.mem_map_of_mem he)

/-! ## Walks that an edit does not touch -/

/-- **A forward walk that does not come to the document at `uri` is not changed by it.** -/
theorem Extends.traverse_eq (h : Extends uri w w') {origin : Url}
    (apart : ¬ w'.graph.Reach false origin uri) :
    w.graph.traverse false origin = w'.graph.traverse false origin := by
  refine (Graph.traverse_congr fun v hreach => ?_).symm
  have hv : v ≠ uri := fun heq => apart (heq ▸ hreach)
  have htargets : ∀ d, w'.get? v = some d → w.targets d = w'.targets d := fun d hd =>
    h.targets_eq fun hmem => apart (hreach.tail (edge_false_iff.2 ⟨d, hd, hmem⟩))
  constructor
  · rw [node?_graph, node?_graph, h.get?_eq hv]
    cases hd : w'.get? v with
    | none => rfl
    | some d => rw [Option.map_some, Option.map_some, htargets d hd]
  · intro n _
    rfl

/-- What the document at a URL includes, if there is one. -/
def targetsAt (w : Workspace) (v : Url) : Option (List Url) := (w.get? v).map w.targets

section Project

variable {origin : Url}

/-- Documents that are all away from `uri` are found among the others. -/
theorem filter_others {ds : List Document} {p : Document → Bool}
    (away : ∀ d ∈ ds, p d = true → d.uri ≠ uri) :
    (ds.filter (·.uri ≠ uri)).filter p = ds.filter p := by
  rw [List.filter_filter]
  apply List.filter_congr
  intro d hd
  cases hp : p d with
  | true => simp [away d hd hp]
  | false => simp

variable (h : Extends uri w w')
  (kept : ∀ e, w.graph.Reach true origin e → e ≠ uri ∧ w.targetsAt e = w'.targetsAt e)

include h kept

theorem Extends.targets_of_kept {v : Url} {d : Document} (hreach : w.graph.Reach true origin v)
    (hd : w.get? v = some d) : w.targets d = w'.targets d := by
  obtain ⟨hv, ht⟩ := kept v hreach
  rw [targetsAt, targetsAt, ← h.get?_eq hv, hd] at ht
  exact Option.some.inj ht

/-- Every walk of `w` from the origin is a walk of `w'`. -/
theorem Extends.reach_of_kept (nodup : w.uris.Nodup) {v : Url}
    (hreach : w.graph.Reach true origin v) : w'.graph.Reach true origin v := by
  induction hreach with
  | refl => exact .refl
  | tail hb edge ih =>
      rename_i b c
      have hc := kept c (hb.tail edge)
      obtain ⟨d, hd, hmem⟩ := edge_true_iff.1 edge
      refine ih.tail (edge_true_iff.2 ⟨d, h.get?_eq (kept b hb).1 ▸ hd, ?_⟩)
      rcases hmem with hmem | ⟨e, he, rfl, hmem⟩
      · left
        exact h.targets_of_kept kept hb hd ▸ hmem
      · right
        have he' : w.get? e.uri = some e := (get?_eq_some_iff_mem nodup).2 ⟨he, rfl⟩
        rw [h.targets_of_kept kept (hb.tail edge) he'] at hmem
        exact ⟨e, (h.mem_iff hc.1).1 he, rfl, hmem⟩

/-- The same documents include one that the walk comes to, in the same order. -/
theorem Extends.includers_of_kept (nodup : w.uris.Nodup)
    (apart : ¬ w'.graph.Reach true origin uri) {v : Url} {document : Document}
    (hreach : w.graph.Reach true origin v) (hget : w.get? v = some document) :
    w.graph.includers v = w'.graph.includers v := by
  have hv := (kept v hreach).1
  have here : ∀ d ∈ w.documents, v ∈ w.targets d → d.uri ≠ uri ∧ v ∈ w'.targets d := by
    intro d hd hmem
    have hedge : w.graph.Edge true v d.uri :=
      edge_true_iff.2 ⟨document, hget, Or.inr ⟨d, hd, rfl, hmem⟩⟩
    have hd' : w.get? d.uri = some d := (get?_eq_some_iff_mem nodup).2 ⟨hd, rfl⟩
    refine ⟨(kept _ (hreach.tail hedge)).1, ?_⟩
    rwa [← h.targets_of_kept kept (hreach.tail hedge) hd']
  have there : ∀ d ∈ w'.documents, v ∈ w'.targets d → d.uri ≠ uri ∧ v ∈ w.targets d := by
    intro d hd hmem
    have hedge : w'.graph.Edge true v d.uri :=
      edge_true_iff.2 ⟨document, h.get?_eq hv ▸ hget, Or.inr ⟨d, hd, rfl, hmem⟩⟩
    have hreach' := (h.reach_of_kept kept nodup hreach).tail hedge
    have hne : d.uri ≠ uri := by
      intro heq
      exact apart (heq ▸ hreach')
    refine ⟨hne, ?_⟩
    have hd' : d ∈ w.documents := (h.mem_iff hne).2 hd
    have hget' : w'.get? d.uri = some d :=
      h.get?_eq hne ▸ (get?_eq_some_iff_mem nodup).2 ⟨hd', rfl⟩
    have hout : uri ∉ w'.targets d := by
      intro hmem'
      exact apart (hreach'.tail (edge_true_iff.2 ⟨d, hget', Or.inl hmem'⟩))
    rwa [h.targets_eq hout]
  rw [includers_eq, includers_eq]
  calc (w.documents.filter fun d => v ∈ w.targets d).map Document.uri
      = ((w.documents.filter (·.uri ≠ uri)).filter fun d => v ∈ w.targets d).map
          Document.uri := by
        rw [filter_others]
        intro d hd hmem
        exact (here d hd (of_decide_eq_true hmem)).1
    _ = ((w.documents.filter (·.uri ≠ uri)).filter fun d => v ∈ w'.targets d).map
          Document.uri := by
        congr 1
        apply List.filter_congr
        intro d hd
        obtain ⟨hd, hne⟩ := List.mem_filter.1 hd
        have hne : d.uri ≠ uri := by simpa using hne
        rw [decide_eq_decide]
        constructor
        · intro hmem
          exact (here d hd hmem).2
        · intro hmem
          exact (there d ((h.mem_iff hne).1 hd) hmem).2
    _ = (w'.documents.filter fun d => v ∈ w'.targets d).map Document.uri := by
        rw [h.others, filter_others]
        intro d hd hmem
        exact (there d hd (of_decide_eq_true hmem)).1

/-- **A walk in both directions is not changed by the document at `uri` if it comes neither to
it in `w'`, nor in `w` to a document whose includes mean something else in `w'`.** -/
theorem Extends.project_eq (nodup : w.uris.Nodup) (apart : ¬ w'.graph.Reach true origin uri) :
    w.graph.traverse true origin = w'.graph.traverse true origin := by
  apply Graph.traverse_congr
  intro v hreach
  have hnode : w.graph.node? v = w'.graph.node? v := by
    rw [node?_graph, node?_graph, ← h.get?_eq (kept v hreach).1]
    cases hd : w.get? v with
    | none => rfl
    | some d => rw [Option.map_some, Option.map_some, h.targets_of_kept kept hreach hd]
  refine ⟨hnode, ?_⟩
  intro n hn
  have huri : n.uri = v := (Graph.mem_of_node? hn).2
  have hget : w.get? v = some n.document := (node?_graph_eq_some.1 hn).1
  unfold Graph.neighbours
  rw [huri, h.includers_of_kept kept nodup apart hreach hget]

end Project

end Manuscript.Workspace

/-
# Manuscript.Proofs.Workspace.Dependents -- how far a new text reaches

A new text for a document that is there changes no URL of the workspace.  So every
include means what it meant before, and only the document itself includes something
else (`Revised`).

A walk that goes forward comes to the document before it follows any include of it.
Whether it comes there does not depend on those includes (`Revised.reach_iff`), so
the dependents of the document are the same before and after.  Where includes are
followed backwards too, its includes connect it to others, and the new text can add
and cut connections; its dependents before and after are different documents then.

In both modes a document that is a dependent neither before nor after has a walk that
meets no changed include, and keeps the scope that it had (`Revised.scope?_eq`).  All
that is asked about a document is answered from its scope, so what such a document is
asked is answered as before (`update?_frame`).
-/
import Manuscript.Proofs.Workspace.Scope

namespace Manuscript.Workspace

set_option autoImplicit false

variable {w w' : Workspace} {uri : Url}

/-- The workspaces differ in the document at `uri`, which is in both. -/
structure Revised (uri : Url) (w w' : Workspace) : Prop extends Extends uri w w' where
  uris : w.uris = w'.uris

theorem revised_add {d : Document} (h : w.contains d.uri = true) : Revised d.uri w (w.add d) where
  toExtends := extends_add w d
  uris := by rw [uris_add, if_pos (contains_iff.1 h)]

namespace Revised

theorem symm (h : Revised uri w w') : Revised uri w' w where
  options := h.options.symm
  others := h.others.symm
  contains hcontains := by rwa [contains_iff, h.uris, ← contains_iff]
  uris := h.uris.symm

theorem contains_eq (h : Revised uri w w') : w.contains = w'.contains := by
  funext v
  rw [Workspace.contains, Workspace.contains, h.uris]

/-- Every document includes what it includes in the other workspace. -/
theorem targets_eq (h : Revised uri w w') : w.targets = w'.targets :=
  targets_congr h.options h.contains_eq

theorem targetsAt_eq (h : Revised uri w w') {v : Url} (hv : v ≠ uri) :
    w.targetsAt v = w'.targetsAt v := by
  rw [targetsAt, targetsAt, h.get?_eq hv, h.targets_eq]

/-! ## Walks that come to the document -/

/-- Away from the document the steps forward are the same. -/
theorem edge_iff (h : Revised uri w w') {a b : Url} (ha : a ≠ uri) :
    w.graph.Edge false a b ↔ w'.graph.Edge false a b := by
  rw [edge_false_iff, edge_false_iff, h.get?_eq ha, h.targets_eq]

theorem reach_of_reach (h : Revised uri w w') {v : Url} (hreach : w.graph.Reach false v uri) :
    w'.graph.Reach false v uri := by
  induction hreach using Relation.ReflTransGen.head_induction_on with
  | refl => exact .refl
  | @head a b edge _ ih =>
      -- a walk that is at the document already need not go on
      by_cases ha : a = uri
      · rw [ha]
      · exact .head ((h.edge_iff ha).1 edge) ih

/-- **Whether a forward walk comes to a document does not depend on what that includes.** -/
theorem reach_iff (h : Revised uri w w') {v : Url} :
    w.graph.Reach false v uri ↔ w'.graph.Reach false v uri :=
  ⟨h.reach_of_reach, h.symm.reach_of_reach⟩

/-- The same documents depend on the changed one where includes are followed forwards. -/
theorem dependents_eq (h : Revised uri w w') (forward : w.options.followParents = false) :
    w.dependents uri = w'.dependents uri := by
  have hmem : ∀ v, v ∈ w.dependents uri ↔ v ∈ w'.dependents uri := by
    intro v
    rw [mem_dependents_iff, mem_dependents_iff, ← h.options, forward, h.contains_eq, h.reach_iff]
  unfold dependents at hmem ⊢
  rw [← h.uris] at hmem ⊢
  refine List.filter_congr fun v hv => ?_
  simpa only [List.mem_filter, hv, true_and, ← Bool.eq_iff_iff] using hmem v

/-! ## Walks that do not -/

theorem traverse_eq (h : Revised uri w w') (nodup : w.uris.Nodup) {v : Url} {undirected : Bool}
    (before : ¬ w.graph.Reach undirected v uri) (after : ¬ w'.graph.Reach undirected v uri) :
    w.graph.traverse undirected v = w'.graph.traverse undirected v := by
  cases undirected with
  | false => exact h.toExtends.traverse_eq after
  | true =>
      refine h.toExtends.project_eq (fun e hreach => ?_) nodup after
      have he : e ≠ uri := fun heq => before (heq ▸ hreach)
      exact ⟨he, h.targetsAt_eq he⟩

/-- **A document that depends on the changed one neither before nor after keeps its scope.** -/
theorem scope?_eq (h : Revised uri w w') (nodup : w.uris.Nodup) {v : Url}
    (before : v ∉ w.dependents uri) (after : v ∉ w'.dependents uri) :
    w.scope? v = w'.scope? v := by
  unfold scope? reached?
  by_cases hv : w.contains v = true
  · have hv' : w'.contains v = true := h.contains_eq ▸ hv
    have apart : ¬ w.graph.Reach w.options.followParents v uri := fun hreach =>
      before (mem_dependents_iff.2 ⟨hv, hreach⟩)
    have apart' : ¬ w'.graph.Reach w.options.followParents v uri := fun hreach =>
      after (mem_dependents_iff.2 ⟨hv', h.options ▸ hreach⟩)
    rw [if_pos hv, if_pos hv', ← h.options, h.traverse_eq nodup apart apart']
  · rw [if_neg hv, if_neg (h.contains_eq ▸ hv)]

end Revised

/-! ## Answers -/

/-- What is asked about the document at a URL is answered alike in both workspaces. -/
structure SameAnswers (w w' : Workspace) (uri : Url) : Prop where
  scope : w.scope? uri = w'.scope? uri
  problems : ∀ settings, (w.problems? uri >>= Request.answer? settings) =
    (w'.problems? uri >>= Request.answer? settings)
  completion : ∀ settings p, (w.completion? uri p >>= Request.answer? settings) =
    (w'.completion? uri p >>= Request.answer? settings)
  prepare : ∀ p, w.prepareRename? uri p = w'.prepareRename? uri p
  rename : ∀ settings p newName, (w.rename? uri p newName >>= Request.answer? settings) =
    (w'.rename? uri p newName >>= Request.answer? settings)

/-- The answers about a document are computed from its scope. -/
theorem sameAnswers_of_scope (h : w.scope? uri = w'.scope? uri) : SameAnswers w w' uri where
  scope := h
  problems _ := by rw [problems?, problems?, h]
  completion _ _ := by rw [completion?, completion?, h]
  prepare _ := by rw [prepareRename?, prepareRename?, h]
  rename _ _ _ := by rw [rename?, rename?, h]

/-- **A new text changes the answers about its dependents only**, those before and those after;
where includes are followed forwards these are the same documents. -/
theorem update?_frame (nodup : w.uris.Nodup) (hcontains : w.contains uri = true) (text : String) :
    ∃ w', w.update? uri text = .ok w' ∧
      (w'.get? uri).map Document.text = some text ∧
      (∀ v, v ∉ w.dependents uri → v ∉ w'.dependents uri → SameAnswers w w' v) ∧
      (w.options.followParents = false → w.dependents uri = w'.dependents uri) := by
  obtain ⟨d, hd⟩ := contains_iff_get?.1 hcontains
  have huri : uri = (d.withText text).uri := (uri_of_get? hd).symm
  have revised : Revised uri w (w.add (d.withText text)) := by
    rw [huri]
    exact revised_add (huri ▸ hcontains)
  refine ⟨w.add (d.withText text), by rw [update?, hd], ?_, fun v before after => ?_,
    revised.dependents_eq⟩
  · rw [get?_add, if_pos huri, Option.map_some, text_settled]
    rfl
  · exact sameAnswers_of_scope (revised.scope?_eq nodup before after)

namespace Example

/-- A letter with an enclosure that it includes, and no more. -/
def letter : Document := ((Document.create ⟨"file", some ⟨"", "", none⟩, "/letter.tex", none, none⟩
  .latex).withText "\\input{enclosure}\\label{x}").analyzed

def enclosure : Document := ((Document.create ⟨"file", some ⟨"", "", none⟩, "/enclosure.tex", none,
  none⟩ .latex).withText "\\ref{x}").analyzed

def post : Workspace := ((Workspace.empty ⟨none, false⟩).add letter).add enclosure

/-- The walk from the enclosure does not come to the letter. -/
theorem not_mem_dependents_letter : enclosure.uri ∉ post.dependents letter.uri := by
  have hnode : (post.graph.node? letter.uri).isSome := by decide +kernel
  obtain ⟨n, hn⟩ := Option.isSome_iff_exists.1 hnode
  have hwalk : post.graph.visitWithin false 4 [] [enclosure.uri] = some [enclosure] := by
    decide +kernel
  intro h
  exact Graph.not_reach_of_within hwalk hn (by decide +kernel) (mem_dependents_iff.1 h).2

end Example

/-- The letter includes the enclosure no more, and asking about the enclosure is as before. -/
theorem update?_frame_post :
    (Example.post.uris.Nodup ∧ Example.post.contains Example.letter.uri = true ∧
      Example.post.options.followParents = false ∧
      Example.enclosure.uri ∉ Example.post.dependents Example.letter.uri) ∧
    ∃ w', Example.post.update? Example.letter.uri "\\label{y}" = .ok w' ∧
      Example.post.dependents Example.letter.uri = w'.dependents Example.letter.uri ∧
      SameAnswers Example.post w' Example.enclosure.uri := by
  have nodup : Example.post.uris.Nodup := by decide +kernel
  have hcontains : Example.post.contains Example.letter.uri = true := by decide +kernel
  have apart := Example.not_mem_dependents_letter
  obtain ⟨w', hw', -, frame, forward⟩ := update?_frame nodup hcontains "\\label{y}"
  have hsame := forward rfl
  exact ⟨⟨nodup, hcontains, rfl, apart⟩, w', hw', hsame, frame _ apart (hsame ▸ apart)⟩

end Manuscript.Workspace

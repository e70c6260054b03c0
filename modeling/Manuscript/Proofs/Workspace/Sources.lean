/-
# Manuscript.Proofs.Workspace.Sources -- answers depend on the sources alone

However a workspace came about, it has a language and a text at some URLs
(`Workspace.source?`).  Two workspaces that were reached in different ways and have the
same sources have the same documents (`get?_eq`), since documents describe their texts;
they may differ in their order.

An include is resolved by asking which documents are there, so the same documents
include the same documents, in the same order (`targets_eq`), and walks that go forward
are the same lists.  What includes a document is listed in the order of the workspace:
where includes are followed backwards, a walk finds the same documents in an order of its
own (`reached?_perm`).  `Manuscript.Proofs.Query.Order` says what that order decides; all
else is the same (`answer?_of_sources`).
-/
import Manuscript.Proofs.Query.Order
import Manuscript.Proofs.Workspace.Component

namespace Manuscript

set_option autoImplicit false

theorem Document.Settled.eq {d e : Document} (hd : d.Settled) (he : e.Settled)
    (huri : d.uri = e.uri) (hlanguage : d.language = e.language) (htext : d.text = e.text) :
    d = e := by
  have hindex : d.lineIndex = e.lineIndex := by
    rw [hd.lineIndex_eq, he.lineIndex_eq, htext]
  have hcontents : d.contents = e.contents := by
    rw [hd.contents, he.contents, hlanguage, htext]
  have hstale : d.stale = e.stale := hd.fresh.trans he.fresh.symm
  cases d
  cases e
  simp_all

/-- Responses that differ in the order of a scope at most. -/
inductive Response.Reordered : Response → Response → Prop where
  | rename {r s : Rename} : r.Reordered s → Reordered (.rename r) (.rename s)
  | completion {offers offers' : List Completion.Offer} :
      Completion.Reordered offers offers' → Reordered (.completion offers) (.completion offers')

namespace Workspace

/-- The language and the text at a URL. -/
def source? (w : Workspace) (uri : Url) : Option (Language × String) :=
  (w.get? uri).map fun d => (d.language, d.text)

/-- The workspaces have the same sources and the same options. -/
structure Alike (w w' : Workspace) : Prop where
  sound : w.Sound
  sound' : w'.Sound
  options : w.options = w'.options
  source? : ∀ uri, w.source? uri = w'.source? uri

namespace Alike

variable {w w' : Workspace} {uri a b : Url}

/-! ## Documents -/

theorem get?_eq (h : Alike w w') (uri : Url) : w.get? uri = w'.get? uri := by
  have hsource := h.source? uri
  unfold Workspace.source? at hsource
  cases hd : w.get? uri with
  | none =>
      rw [hd, Option.map_none] at hsource
      exact (Option.map_eq_none_iff.1 hsource.symm).symm
  | some d =>
      rw [hd, Option.map_some] at hsource
      obtain ⟨e, he, heq⟩ := Option.map_eq_some_iff.1 hsource.symm
      obtain ⟨hlanguage, htext⟩ := Prod.mk.inj heq
      have huri : d.uri = e.uri := (uri_of_get? hd).trans (uri_of_get? he).symm
      rw [he, (h.sound.settled d (mem_of_get? hd)).eq (h.sound'.settled e (mem_of_get? he))
        huri hlanguage.symm htext.symm]

theorem mem_iff (h : Alike w w') {d : Document} : d ∈ w.documents ↔ d ∈ w'.documents := by
  have hget (w : Workspace) (sound : w.Sound) : d ∈ w.documents ↔ w.get? d.uri = some d := by
    rw [get?_eq_some_iff_mem sound.nodup]
    simp
  rw [hget w h.sound, hget w' h.sound', h.get?_eq]

/-- The documents are the same, in some order. -/
theorem documents_perm (h : Alike w w') : w.documents.Perm w'.documents :=
  (List.perm_ext_iff_of_nodup h.sound.nodup.of_map h.sound'.nodup.of_map).2 fun _ => h.mem_iff

theorem contains_eq (h : Alike w w') : w.contains = w'.contains := by
  funext uri
  rw [Bool.eq_iff_iff, contains_iff_get?, contains_iff_get?, h.get?_eq]

theorem resolve?_eq (h : Alike w w') : w.resolve? = w'.resolve? :=
  resolve?_congr h.options h.contains_eq

theorem targets_eq (h : Alike w w') : w.targets = w'.targets :=
  targets_congr h.options h.contains_eq

/-! ## Walks -/

theorem node?_eq (h : Alike w w') (uri : Url) : w.graph.node? uri = w'.graph.node? uri := by
  rw [node?_graph, node?_graph, h.get?_eq, h.targets_eq]

theorem edge_iff (h : Alike w w') {undirected : Bool} :
    w.graph.Edge undirected a b ↔ w'.graph.Edge undirected a b := by
  cases undirected with
  | false => rw [edge_false_iff, edge_false_iff, h.get?_eq, h.targets_eq]
  | true => simp only [edge_true_iff, h.get?_eq, h.targets_eq, h.mem_iff]

theorem reach_iff (h : Alike w w') {undirected : Bool} :
    w.graph.Reach undirected a b ↔ w'.graph.Reach undirected a b := by
  have hedge : w.graph.Edge undirected = w'.graph.Edge undirected := by
    funext a b
    exact propext h.edge_iff
  unfold Graph.Reach
  rw [hedge]

/-- **Forward walks list the same documents in the same order.** -/
theorem reached?_eq (h : Alike w w') (uri : Url) : w.reached? false uri = w'.reached? false uri := by
  have htraverse : w.graph.traverse false uri = w'.graph.traverse false uri := by
    refine Graph.traverse_congr fun v _ => ⟨h.node?_eq v, fun n _ => ?_⟩
    rfl
  unfold reached?
  rw [h.contains_eq, htraverse]

/-- **Walks in both directions list the same documents.** -/
theorem reached?_perm (h : Alike w w') (undirected : Bool) (uri : Url) :
    Agree List.Perm (w.reached? undirected uri) (w'.reached? undirected uri) := by
  by_cases hcontains : w.contains uri = true
  · obtain ⟨ds, hds⟩ := exists_reached? hcontains undirected
    obtain ⟨es, hes⟩ := exists_reached? (h.contains_eq ▸ hcontains) undirected
    rw [hds, hes]
    refine .ok ((List.perm_ext_iff_of_nodup (nodup_of_reached? hds).of_map
      (nodup_of_reached? hes).of_map).2 fun d => ?_)
    rw [mem_of_reached? hds, mem_of_reached? hes, h.get?_eq, h.reach_iff]
  · have hcontains' : ¬ w'.contains uri = true := h.contains_eq ▸ hcontains
    unfold reached?
    rw [if_neg hcontains, if_neg hcontains']
    exact .error _

theorem scope?_perm (h : Alike w w') (uri : Url) :
    Agree List.Perm (w.scope? uri) (w'.scope? uri) := by
  unfold scope?
  rw [← h.options]
  exact h.reached?_perm _ uri

theorem dependents_perm (h : Alike w w') (uri : Url) :
    (w.dependents uri).Perm (w'.dependents uri) := by
  have huris : w.uris.Perm w'.uris := h.documents_perm.map _
  unfold dependents
  rw [← h.options]
  have hfilter : ∀ v ∈ w'.uris,
      (v = uri ∨ (w.graph.traverse w.options.followParents v).any (fun d => d.uri = uri) = true ↔
        v = uri ∨ (w'.graph.traverse w.options.followParents v).any (fun d => d.uri = uri) = true) := by
    intro v hv
    have hagree := h.reached?_perm w.options.followParents v
    rw [reached?, reached?, h.contains_eq, if_pos (contains_iff.2 hv), if_pos (contains_iff.2 hv)]
      at hagree
    cases hagree with
    | ok hperm => rw [hperm.any_eq]
  rw [← List.filter_congr fun v hv => decide_eq_decide.2 (hfilter v hv)]
  exact huris.filter _

/-! ## Origins -/

/-- Two scopes of a URL have the same origin, or there is none. -/
theorem origin?_eq {ds es : List Document} (h : Alike w w') (hds : w.scope? uri = .ok ds)
    (hes : w'.scope? uri = .ok es) : origin? uri ds = origin? uri es := by
  obtain ⟨d, hd, rfl⟩ := exists_of_scope? hds
  obtain ⟨e, he, rfl⟩ := exists_of_scope? hes
  have hsame : some d = some e := hd.symm.trans ((h.get?_eq uri).trans he)
  rw [origin?_traverse hd, origin?_traverse he, Option.some.inj hsame]

/-- A question about a scope is answered alike if its answer does not mind the order. -/
theorem bind_scope? {α : Type} {r : α → α → Prop} (h : Alike w w') {uri : Url}
    {ask : List Document → Except Error α}
    (hask : ∀ ds es, w.scope? uri = .ok ds → w'.scope? uri = .ok es → ds.Perm es →
      Agree r (ask ds) (ask es)) :
    Agree r (w.scope? uri >>= ask) (w'.scope? uri >>= ask) := by
  have hscope := h.scope?_perm uri
  cases hds : w.scope? uri with
  | error e =>
      rw [hds] at hscope
      cases hes : w'.scope? uri with
      | error e' =>
          rw [hes] at hscope
          cases hscope
          exact .error e
      | ok es =>
          rw [hes] at hscope
          cases hscope
  | ok ds =>
      rw [hds] at hscope
      cases hes : w'.scope? uri with
      | error e =>
          rw [hes] at hscope
          cases hscope
      | ok es =>
          rw [hes] at hscope
          cases hscope with
          | ok hperm => exact hask ds es hds hes hperm

/-- A question about the origin of a scope. -/
theorem bind_origin? {α : Type} {r : α → α → Prop} (h : Alike w w') {uri : Url}
    {ask : Document → List Document → Except Error α}
    (hask : ∀ origin ds es, (ds.map Document.uri).Nodup → ds.Perm es →
      Agree r (ask origin ds) (ask origin es)) :
    Agree r (w.scope? uri >>= fun ds => origin? uri ds >>= fun origin => ask origin ds)
      (w'.scope? uri >>= fun ds => origin? uri ds >>= fun origin => ask origin ds) := by
  refine h.bind_scope? fun ds es hds hes hperm => ?_
  rw [h.origin?_eq hds hes]
  cases origin? uri es with
  | error e => exact .error e
  | ok origin => exact hask origin ds es (h.sound.of_scope? hds).1 hperm

end Alike

/-! ## Answers -/

section Answers

variable {w w' : Workspace} (settings : Settings) (uri : Url) (p : Position)

theorem answer?_problems : (w.problems? uri >>= Request.answer? settings) =
    w.scope? uri >>= fun ds => origin? uri ds >>= fun origin =>
      .ok (.problems (Problem.all settings.diagnostics origin ds)) := by
  unfold problems?
  rw [bind_assoc]
  rfl

theorem answer?_completion : (w.completion? uri p >>= Request.answer? settings) =
    w.scope? uri >>= fun ds => origin? uri ds >>= fun origin =>
      .ok (.completion (Completion.offers settings.matcher origin ds p)) := by
  unfold completion?
  rw [bind_assoc]
  rfl

theorem answer?_rename (newName : String) :
    (w.rename? uri p newName >>= Request.answer? settings) =
      w.scope? uri >>= fun ds => origin? uri ds >>= fun origin =>
        Response.rename <$> Rename.run? origin ds p newName := by
  unfold rename?
  rw [bind_assoc]
  rfl

theorem answer?_links : (w.links? uri >>= Request.answer? settings) =
    (w.find? uri).map fun d => Response.links (Link.all w d) := by
  unfold links? find?
  cases hd : w.get? uri with
  | none => rfl
  | some d =>
      show Request.answer? settings (.links w uri) = .ok (.links (Link.all w d))
      simp only [Request.answer?, hd]
      rfl

variable (h : Alike w w')

include h

theorem Alike.find?_eq : w.find? uri = w'.find? uri := by
  unfold find?
  rw [h.get?_eq]

theorem Alike.problems_eq : (w.problems? uri >>= Request.answer? settings) =
    (w'.problems? uri >>= Request.answer? settings) := by
  rw [answer?_problems, answer?_problems]
  refine (h.bind_origin? fun origin ds es _ hperm => .ok ?_).eq
  rw [Problem.all_perm settings.diagnostics origin hperm]

theorem Alike.prepareRename?_eq : w.prepareRename? uri p = w'.prepareRename? uri p := by
  let ask := fun (origin : Document) (_ : List Document) => Rename.prepare? origin p
  refine (@Alike.bind_origin? _ _ _ _ h _ ask fun origin ds _ _ _ => ?_).eq
  cases ask origin ds with
  | ok found => exact .ok rfl
  | error e => exact .error e

theorem Alike.links_eq : (w.links? uri >>= Request.answer? settings) =
    (w'.links? uri >>= Request.answer? settings) := by
  have hlinks : Link.all w = Link.all w' := by
    funext d
    unfold Link.all
    rw [h.resolve?_eq]
  rw [answer?_links, answer?_links, h.find?_eq, hlinks]

theorem Alike.folding_eq : (w.folding? uri >>= Request.answer? settings) =
    (w'.folding? uri >>= Request.answer? settings) := by
  unfold folding?
  rw [h.find?_eq]

theorem Alike.rename_reordered (newName : String) :
    Agree Response.Reordered (w.rename? uri p newName >>= Request.answer? settings)
      (w'.rename? uri p newName >>= Request.answer? settings) := by
  rw [answer?_rename, answer?_rename]
  exact h.bind_origin? fun origin _ _ nodup hperm =>
    (Rename.run?_perm origin p newName hperm nodup).map fun _ _ hchanges => .rename hchanges

theorem Alike.completion_reordered :
    Agree Response.Reordered (w.completion? uri p >>= Request.answer? settings)
      (w'.completion? uri p >>= Request.answer? settings) := by
  rw [answer?_completion, answer?_completion]
  exact h.bind_origin? fun origin _ _ _ hperm =>
    .ok (.completion (Completion.offers_perm settings.matcher origin p hperm))

end Answers

/-- **Two ways to the same sources lead to the same answers.**  Where includes are followed
backwards too, scopes have the same documents in an order of their own, and so have the changes
of a rename and the candidates for completion. -/
theorem answer?_of_sources {w w' : Workspace} (hw : w.Reached) (hw' : w'.Reached)
    (options : w.options = w'.options) (sources : ∀ uri, w.source? uri = w'.source? uri)
    (settings : Settings) (uri : Url) (p : Position) (newName : String) :
    ((w.problems? uri >>= Request.answer? settings) =
        (w'.problems? uri >>= Request.answer? settings) ∧
      (w.links? uri >>= Request.answer? settings) =
        (w'.links? uri >>= Request.answer? settings) ∧
      (w.folding? uri >>= Request.answer? settings) =
        (w'.folding? uri >>= Request.answer? settings) ∧
      w.prepareRename? uri p = w'.prepareRename? uri p) ∧
    (w.options.followParents = false →
      w.scope? uri = w'.scope? uri ∧
      (w.completion? uri p >>= Request.answer? settings) =
        (w'.completion? uri p >>= Request.answer? settings) ∧
      (w.rename? uri p newName >>= Request.answer? settings) =
        (w'.rename? uri p newName >>= Request.answer? settings)) ∧
    (w.options.followParents = true →
      Agree List.Perm (w.scope? uri) (w'.scope? uri) ∧
      Agree Response.Reordered (w.completion? uri p >>= Request.answer? settings)
        (w'.completion? uri p >>= Request.answer? settings) ∧
      Agree Response.Reordered (w.rename? uri p newName >>= Request.answer? settings)
        (w'.rename? uri p newName >>= Request.answer? settings)) ∧
    w.documents.Perm w'.documents ∧ (w.dependents uri).Perm (w'.dependents uri) := by
  have h : Alike w w' := ⟨hw.sound, hw'.sound, options, sources⟩
  refine ⟨⟨h.problems_eq settings uri, h.links_eq settings uri, h.folding_eq settings uri,
    h.prepareRename?_eq uri p⟩, fun hforward => ?_, fun _ => ?_, h.documents_perm,
    h.dependents_perm uri⟩
  · have hscope : w.scope? uri = w'.scope? uri := by
      rw [scope?, scope?, ← options, hforward]
      exact h.reached?_eq uri
    refine ⟨hscope, ?_, ?_⟩
    · unfold completion?
      rw [hscope]
    · unfold rename?
      rw [hscope]
  · exact ⟨h.scope?_perm uri, h.completion_reordered settings uri p,
      h.rename_reordered settings uri p newName⟩

namespace Example

def page (path text : String) : Document :=
  ((Document.create ⟨"file", some ⟨"", "", none⟩, path, none, none⟩ .latex).withText text).analyzed

/-- A part that two books include. -/
def part : Document := page "/part.tex" "\\ref{x}"

def first : Document := page "/first.tex" "\\label{x}\\input{part}"

def second : Document := page "/second.tex" "\\input{part}"

def draft : Document := page "/draft.tex" "\\input{first}"

def shared : Workspace := (((Workspace.empty ⟨none, true⟩).add part).add first).add second

/-- The same files after another history: one was opened with another text, and one that is not
there any more came first. -/
def sharedLater : Workspace :=
  ((((((Workspace.empty ⟨none, true⟩).add draft).add (page "/second.tex" "")).add first).remove
    draft.uri).add second).add part

theorem made_page (path text : String) : (page path text).Made :=
  .analyzed (.withText text (.created _ _))

theorem reached_shared : shared.Reached :=
  (((Reached.empty _).add (made_page _ _)).add (made_page _ _)).add (made_page _ _)

theorem reached_sharedLater : sharedLater.Reached :=
  (((((Reached.empty _).add (made_page _ _)).add (made_page _ _)).add (made_page _ _)).remove
    _ |>.add (made_page _ _)).add (made_page _ _)

theorem source?_shared (uri : Url) : shared.source? uri = sharedLater.source? uri := by
  have huri : first.uri ≠ draft.uri ∧ part.uri ≠ second.uri ∧ part.uri ≠ first.uri ∧
      second.uri ≠ first.uri ∧ (page "/second.tex" "").uri = second.uri := by decide
  obtain ⟨hfirst, hsecond, hpart, hsecond', hdraft⟩ := huri
  unfold source? shared sharedLater
  congr 1
  simp only [get?_add, get?_remove, hdraft]
  by_cases h : uri = part.uri
  · simp [h, hsecond, hpart]
  by_cases h' : uri = second.uri
  · simp [h', hsecond.symm]
  by_cases h'' : uri = first.uri
  · simp [h'', hsecond'.symm, hpart.symm, hfirst]
  · rw [if_neg h, if_neg h, if_neg h', if_neg h', if_neg h'', if_neg h'', if_neg h']
    split <;> rfl

end Example

theorem answer?_of_sources_shared :
    ((Example.shared.Reached ∧ Example.sharedLater.Reached) ∧
      Example.shared.options = Example.sharedLater.options ∧
      ∀ uri, Example.shared.source? uri = Example.sharedLater.source? uri) ∧
    Example.shared.uris ≠ Example.sharedLater.uris ∧
    (Example.shared.problems? Example.part.uri >>= Request.answer? Settings.default) =
      (Example.sharedLater.problems? Example.part.uri >>= Request.answer? Settings.default) ∧
    Agree List.Perm (Example.shared.scope? Example.part.uri)
      (Example.sharedLater.scope? Example.part.uri) := by
  obtain ⟨⟨hproblems, -⟩, -, hfollow, -⟩ :=
    answer?_of_sources Example.reached_shared Example.reached_sharedLater rfl
      Example.source?_shared Settings.default Example.part.uri ⟨0, 5⟩ "y"
  exact ⟨⟨⟨Example.reached_shared, Example.reached_sharedLater⟩, rfl, Example.source?_shared⟩,
    by decide +kernel, hproblems, (hfollow rfl).1⟩

end Workspace

end Manuscript

/-
# Manuscript.Proofs.Workspace.Component -- the documents of one project

Followed in both directions, includes join documents into projects.  An include is
resolved once, from the document it is written in, and the documents that include one
are looked up among these very targets; so each step of a walk can be taken back
(`edge_symm`), and being in the project of a document is an equivalence
(`project?_equivalence`).  Any two documents of a project have the same project, up to
the order in which a walk from them lists it, and the projects are a partition of the
workspace.

What a document includes is a part of its project, since a forward step is also a step
of the walk in both directions (`edge_mono`).  Where questions consider the whole
project, the documents that may depend on one are those it may depend on.
-/
import Manuscript.Proofs.Workspace.Scope
import Mathlib.Data.Setoid.Partition

namespace Manuscript.Workspace

set_option autoImplicit false

variable {w : Workspace} {a b : Url}

/-! ## Steps -/

/-- A step forward is a step of the walk in both directions. -/
theorem edge_mono (h : w.graph.Edge false a b) : w.graph.Edge true a b := by
  obtain ⟨d, hd, hb⟩ := edge_false_iff.1 h
  exact edge_true_iff.2 ⟨d, hd, Or.inl hb⟩

/-- A step of the walk in both directions can be taken back. -/
theorem edge_symm (nodup : w.uris.Nodup) (h : w.graph.Edge true a b) :
    w.graph.Edge true b a := by
  obtain ⟨d, hd, hb⟩ := edge_true_iff.1 h
  rcases hb with hb | ⟨e, he, rfl, ha⟩
  · obtain ⟨e, he⟩ := contains_iff_get?.1 (contains_of_mem_targets hb)
    exact edge_true_iff.2 ⟨e, he, Or.inr ⟨d, mem_of_get? hd, uri_of_get? hd, hb⟩⟩
  · -- the document that includes `a` is the one its URL names, since URLs are different
    have hget : w.get? e.uri = some e := (get?_eq_some_iff_mem nodup).2 ⟨he, rfl⟩
    exact edge_true_iff.2 ⟨e, hget, Or.inl ha⟩

theorem reach_symm (nodup : w.uris.Nodup) (h : w.graph.Reach true a b) :
    w.graph.Reach true b a := by
  induction h with
  | refl => exact .refl
  | tail _ edge ih => exact .head (edge_symm nodup edge) ih

theorem reach_mono (h : w.graph.Reach false a b) : w.graph.Reach true a b :=
  Relation.ReflTransGen.mono (fun _ _ edge => edge_mono edge) a b h

/-! ## Walks -/

theorem reached?_eq_ok_iff {undirected : Bool} {ds : List Document} :
    w.reached? undirected a = .ok ds ↔
      w.contains a = true ∧ ds = w.graph.traverse undirected a := by
  unfold reached?
  split
  · rename_i h
    simp only [h, Except.ok.injEq, true_and]
    exact eq_comm
  · rename_i h
    simp [h]

theorem exists_reached? (h : w.contains a = true) (undirected : Bool) :
    ∃ ds, w.reached? undirected a = .ok ds := ⟨_, reached?_eq_ok_iff.2 ⟨h, rfl⟩⟩

/-- A walk lists the documents that are where it goes. -/
theorem mem_of_reached? {undirected : Bool} {ds : List Document}
    (h : w.reached? undirected a = .ok ds) {d : Document} :
    d ∈ ds ↔ w.get? d.uri = some d ∧ w.graph.Reach undirected a d.uri := by
  obtain ⟨-, rfl⟩ := reached?_eq_ok_iff.1 h
  rw [Graph.mem_traverse_iff]
  constructor
  · rintro ⟨n, hn, rfl, hreach⟩
    exact ⟨(node?_graph_eq_some.1 hn).1, hreach⟩
  · rintro ⟨hd, hreach⟩
    exact ⟨_, node?_of_get? hd, rfl, hreach⟩

theorem mem_uris_of_reached? {undirected : Bool} {ds : List Document}
    (h : w.reached? undirected a = .ok ds) :
    b ∈ ds.map Document.uri ↔ w.graph.Reach undirected a b := by
  constructor
  · intro hb
    obtain ⟨d, hd, rfl⟩ := List.mem_map.1 hb
    exact ((mem_of_reached? h).1 hd).2
  · intro hreach
    obtain ⟨d, hd⟩ :=
      contains_iff_get?.1 (contains_of_reach (reached?_eq_ok_iff.1 h).1 hreach)
    have huri := uri_of_get? hd
    exact List.mem_map.2 ⟨d, (mem_of_reached? h).2 ⟨huri ▸ hd, huri ▸ hreach⟩, huri⟩

theorem nodup_of_reached? {undirected : Bool} {ds : List Document}
    (h : w.reached? undirected a = .ok ds) : (ds.map Document.uri).Nodup := by
  obtain ⟨-, rfl⟩ := reached?_eq_ok_iff.1 h
  exact Graph.nodup_traverse a

/-! ## Projects -/

/-- The document at `b` is in the project of the one at `a`. -/
def Joined (w : Workspace) (a b : Url) : Prop :=
  ∃ ds, w.project? a = .ok ds ∧ b ∈ ds.map Document.uri

theorem joined_iff (ha : w.contains a = true) : w.Joined a b ↔ w.graph.Reach true a b := by
  obtain ⟨ds, hds⟩ := exists_reached? ha true
  constructor
  · rintro ⟨ds', hds', hb⟩
    exact (mem_uris_of_reached? hds').1 hb
  · intro hreach
    exact ⟨ds, hds, (mem_uris_of_reached? hds).2 hreach⟩

/-- The project of each document, as a set of documents of the workspace. -/
def projects (w : Workspace) : Set (Set {d // d ∈ w.documents}) :=
  {project | ∃ uri ds, w.project? uri = .ok ds ∧ project = {d | d.1 ∈ ds}}

/-- The documents of a project have the same documents in their projects. -/
theorem project?_perm (nodup : w.uris.Nodup) {as bs : List Document}
    (has : w.project? a = .ok as) (hbs : w.project? b = .ok bs)
    (hb : b ∈ as.map Document.uri) : as.Perm bs := by
  have hreach : w.graph.Reach true a b := (mem_uris_of_reached? has).1 hb
  refine (List.perm_ext_iff_of_nodup (nodup_of_reached? has).of_map
    (nodup_of_reached? hbs).of_map).2 fun d => ?_
  rw [mem_of_reached? has, mem_of_reached? hbs]
  exact ⟨fun h => ⟨h.1, (reach_symm nodup hreach).trans h.2⟩,
    fun h => ⟨h.1, hreach.trans h.2⟩⟩

theorem isPartition_projects (nodup : w.uris.Nodup) : Setoid.IsPartition w.projects := by
  constructor
  · -- a project has its origin
    rintro ⟨uri, ds, hds, hempty⟩
    obtain ⟨d, hd⟩ := contains_iff_get?.1 (reached?_eq_ok_iff.1 hds).1
    have huri := uri_of_get? hd
    have hmem : d ∈ ds := (mem_of_reached? hds).2 ⟨huri ▸ hd, huri ▸ .refl⟩
    have : (⟨d, mem_of_get? hd⟩ : {d // d ∈ w.documents}) ∈ (∅ : Set _) := hempty ▸ hmem
    exact this
  · rintro ⟨d, hd⟩
    have hget : w.get? d.uri = some d := (get?_eq_some_iff_mem nodup).2 ⟨hd, rfl⟩
    obtain ⟨ds, hds⟩ := exists_reached? (contains_iff_get?.2 ⟨d, hget⟩) true
    refine ⟨{e | e.1 ∈ ds}, ⟨⟨d.uri, ds, hds, rfl⟩, (mem_of_reached? hds).2 ⟨hget, .refl⟩⟩, ?_⟩
    rintro project ⟨⟨uri, es, hes, rfl⟩, hmem⟩
    have hperm : es.Perm ds := project?_perm nodup hes hds (List.mem_map_of_mem hmem)
    exact Set.ext fun e => hperm.mem_iff

/-- Where questions consider projects, what may depend on a document is what it may depend on. -/
theorem dependents_perm (nodup : w.uris.Nodup) (hfollow : w.options.followParents = true)
    {scope : List Document} (hscope : w.scope? a = .ok scope) :
    (w.dependents a).Perm (scope.map Document.uri) := by
  unfold scope? at hscope
  rw [hfollow] at hscope
  refine (List.perm_ext_iff_of_nodup (nodup.filter _) (nodup_of_reached? hscope)).2 fun b => ?_
  have ha := (reached?_eq_ok_iff.1 hscope).1
  rw [mem_uris_of_reached? hscope]
  refine mem_dependents_iff.trans ?_
  rw [hfollow]
  exact ⟨fun h => reach_symm nodup h.2,
    fun hreach => ⟨contains_of_reach ha hreach, reach_symm nodup hreach⟩⟩

/-- **Being in the project of a document is an equivalence, and the projects are a partition of
the workspace.**  A project has all that its documents include; where questions consider
projects, it is also what depends on any of its documents. -/
theorem project?_equivalence (nodup : w.uris.Nodup) :
    Equivalence (fun a b : {uri // w.contains uri = true} => w.Joined a b) ∧
      (∀ a, w.contains a = true → ∃ as, w.project? a = .ok as ∧ ∀ b ∈ as.map Document.uri,
        ∃ bs, w.project? b = .ok bs ∧ a ∈ bs.map Document.uri ∧ as.Perm bs) ∧
      Setoid.IsPartition w.projects ∧
      (∀ a, w.contains a = true → ∃ rs as, w.related? a = .ok rs ∧ w.project? a = .ok as ∧
        rs ⊆ as) ∧
      (w.options.followParents = true → ∀ a, w.contains a = true → ∃ scope,
        w.scope? a = .ok scope ∧ (w.dependents a).Perm (scope.map Document.uri)) := by
  refine ⟨⟨fun a => ?_, fun {a b} hab => ?_, fun {a b c} hab hbc => ?_⟩, fun a ha => ?_,
    isPartition_projects nodup, fun a ha => ?_, fun hfollow a ha => ?_⟩
  · exact (joined_iff a.2).2 .refl
  · exact (joined_iff b.2).2 (reach_symm nodup ((joined_iff a.2).1 hab))
  · exact (joined_iff a.2).2 (((joined_iff a.2).1 hab).trans ((joined_iff b.2).1 hbc))
  · obtain ⟨as, has⟩ := exists_reached? ha true
    refine ⟨as, has, fun b hb => ?_⟩
    have hreach : w.graph.Reach true a b := (mem_uris_of_reached? has).1 hb
    obtain ⟨bs, hbs⟩ := exists_reached? (contains_of_reach ha hreach) true
    exact ⟨bs, hbs, (mem_uris_of_reached? hbs).2 (reach_symm nodup hreach),
      project?_perm nodup has hbs hb⟩
  · obtain ⟨rs, hrs⟩ := exists_reached? ha false
    obtain ⟨as, has⟩ := exists_reached? ha true
    refine ⟨rs, as, hrs, has, fun d hd => (mem_of_reached? has).2 ?_⟩
    have := (mem_of_reached? hrs).1 hd
    exact ⟨this.1, reach_mono this.2⟩
  · obtain ⟨scope, hscope⟩ := exists_reached? ha w.options.followParents
    exact ⟨scope, hscope, dependents_perm nodup hfollow hscope⟩

namespace Example

/-- A book and a chapter it includes, in a workspace that follows includes backwards. -/
def binding : Workspace :=
  let document (path text : String) : Document :=
    ((Document.create ⟨"file", some ⟨"", "", none⟩, path, none, none⟩ .latex).withText text).analyzed
  ((Workspace.empty ⟨none, true⟩).add (document "/book.tex" "\\include{chapter}")).add
    (document "/chapter.tex" "\\section{One}")

def bindingBook : Url := ⟨"file", some ⟨"", "", none⟩, "/book.tex", none, none⟩

def bindingChapter : Url := ⟨"file", some ⟨"", "", none⟩, "/chapter.tex", none, none⟩

end Example

theorem project?_equivalence_binding :
    Example.binding.uris.Nodup ∧ Example.binding.options.followParents = true ∧
      Example.binding.contains Example.bindingChapter = true ∧
      ∃ scope, Example.binding.scope? Example.bindingChapter = .ok scope ∧
        scope.map Document.uri = [Example.bindingChapter, Example.bindingBook] ∧
        (Example.binding.dependents Example.bindingChapter).Perm (scope.map Document.uri) := by
  have nodup : Example.binding.uris.Nodup := by decide +kernel
  have hfollow : Example.binding.options.followParents = true := rfl
  have hcontains : Example.binding.contains Example.bindingChapter = true := by decide +kernel
  obtain ⟨-, -, -, -, hdependents⟩ := project?_equivalence nodup
  obtain ⟨scope, hscope, hperm⟩ := hdependents hfollow _ hcontains
  have hwalk : (Example.binding.graph.visitWithin true 4 [] [Example.bindingChapter]).map
      (List.map Document.uri) = some [Example.bindingChapter, Example.bindingBook] := by
    decide +kernel
  have huris : scope.map Document.uri = [Example.bindingChapter, Example.bindingBook] := by
    rw [← Graph.map_traverse_of_within hwalk, (reached?_eq_ok_iff.1 hscope).2]
    rfl
  exact ⟨nodup, hfollow, hcontains, scope, hscope, huris, hperm⟩

end Manuscript.Workspace

/-
# Manuscript.Proofs.Completion.Inclusion -- a path that is offered is resolved again

The path of a file that could be included is the reference to it from the origin, without
the extension that the include implies (`withoutExtension_cases`).  Resolving an include
tries its path with that extension first and then as it is, next to the origin before
anywhere else.  So where the reference leads back to the file, a path that lost its extension
is found at the first attempt, and one that kept its end at the second: only a file that has
the extension once more comes before it (`resolve?_of_join`).
-/
import Manuscript.Proofs.Workspace.Scope
import Manuscript.Proofs.Workspace.Walk
import Manuscript.Completion.Candidate

namespace Manuscript

set_option autoImplicit false

open Latex (Include IncludeKind)

/-! ## Resolving -/

namespace Workspace

variable {w : Workspace} {base uri : Url} {i : Include}

/-- What an include may mean next to the including document comes first. -/
theorem resolve?_eq_or : w.resolve? base i =
    ((candidates base i).find? w.contains).or
      (((w.options.rootDir.map Url.directory).toList.flatMap fun root =>
        candidates root i).find? w.contains) := by
  rw [resolve?, bases, List.flatMap_cons, List.find?_append]

theorem resolve?_of_join_extension
    (h : base.join? (i.path ++ "." ++ i.kind.extension) = some uri)
    (hcontains : w.contains uri = true) : w.resolve? base i = some uri := by
  rw [resolve?_eq_or, candidates, List.filterMap_cons_some h,
    List.find?_cons_of_pos hcontains, Option.some_or]

/-- A path that leads to a document as it is written means that document, unless there is
one with the extension. -/
theorem resolve?_of_join (h : base.join? i.path = some uri) (hcontains : w.contains uri = true) :
    w.resolve? base i =
      ((base.join? (i.path ++ "." ++ i.kind.extension)).filter w.contains).or (some uri) := by
  have hplain : [i.path].filterMap base.join? = [uri] := by
    rw [List.filterMap_cons_some h, List.filterMap_nil]
  rw [resolve?_eq_or, candidates]
  cases hextended : base.join? (i.path ++ "." ++ i.kind.extension) with
  | none =>
      rw [List.filterMap_cons_none hextended, hplain, List.find?_cons_of_pos hcontains]
      rfl
  | some extended =>
      rw [List.filterMap_cons_some hextended, hplain]
      by_cases hthere : w.contains extended = true
      · rw [List.find?_cons_of_pos hthere, Option.filter_some_pos hthere]
        rfl
      · rw [List.find?_cons_of_neg hthere, List.find?_cons_of_pos hcontains,
          Option.filter_some_neg (eq_false_of_ne_true hthere)]
        rfl

/-- A scope holds documents of the workspace. -/
theorem contains_of_mem_scope {scope : List Document} (hscope : w.scope? uri = .ok scope)
    {d : Document} (hd : d ∈ scope) : w.contains d.uri = true := by
  obtain ⟨origin, -, rfl⟩ := exists_of_scope? hscope
  obtain ⟨n, hn, rfl, -⟩ := Graph.mem_traverse_iff.1 hd
  exact contains_iff_get?.2 ⟨_, (node?_graph_eq_some.1 hn).1⟩

end Workspace

/-! ## Offering -/

namespace Completion

/-- A path loses the extension, or it has none to lose. -/
theorem withoutExtension_cases (kind : IncludeKind) (path : String) :
    path = Candidate.withoutExtension kind path ++ "." ++ kind.extension ∨
      Candidate.withoutExtension kind path = path ∧
        ¬ ("." ++ kind.extension).toList <:+ path.toList := by
  unfold Candidate.withoutExtension
  dsimp only
  split
  · rename_i hsuffix
    obtain ⟨front, hfront⟩ := List.isSuffixOf_iff_suffix.1 hsuffix
    left
    rw [← hfront, List.length_append, Nat.add_sub_cancel, List.take_left]
    apply String.toList_inj.1
    rw [← hfront]
    simp
  · rename_i hsuffix
    exact .inr ⟨rfl, mt List.isSuffixOf_iff_suffix.2 hsuffix⟩

/-- The paths of files are offered document by document. -/
theorem files_eq_flatMap (origin : Document) (related : List Document) (kind : IncludeKind) :
    Candidate.files origin related kind =
      related.flatMap fun d => Candidate.files origin [d] kind := by
  induction related with
  | nil => rfl
  | cons d ds ih =>
      rw [List.flatMap_cons, ← ih]
      exact @List.filterMap_append _ _ [d] ds _

/-- What is offered for a document is the reference to it, without the extension. -/
theorem of_mem_files {origin d : Document} {kind : IncludeKind} {c : Candidate}
    (h : c ∈ Candidate.files origin [d] kind) : ∃ path,
      origin.uri.makeRelative? d.uri = some path ∧
        c = ⟨Candidate.withoutExtension kind path, .file, path⟩ := by
  obtain ⟨d', hd', hfile⟩ := List.mem_filterMap.1 h
  obtain rfl := List.mem_singleton.1 hd'
  split at hfile
  · obtain ⟨path, hpath, rfl⟩ := Option.map_eq_some_iff.1 hfile
    exact ⟨path, hpath, rfl⟩
  · cases hfile

/-- How an include that was completed to the path of a document is resolved. -/
inductive Resolves (w : Workspace) (origin : Url) (kind : IncludeKind) (c : Candidate)
    (uri : Url) : Prop where
  /-- The path lost its extension and means the document. -/
  | stripped : c.detail = c.name ++ "." ++ kind.extension →
      (∀ span, w.resolve? origin ⟨kind, c.name, span⟩ = some uri) → Resolves w origin kind c uri
  /-- The path kept its end and means the document with one more extension, if there is one. -/
  | kept : c.detail = c.name → ¬ ("." ++ kind.extension).toList <:+ c.name.toList →
      (∀ span, w.resolve? origin ⟨kind, c.name, span⟩ =
        ((origin.join? (c.name ++ "." ++ kind.extension)).filter w.contains).or (some uri)) →
      Resolves w origin kind c uri

/-- **A path that is offered for a document is resolved to that document**, where references
lead back to what they are made from. -/
theorem files_resolve {w : Workspace} {origin : Document} {scope : List Document}
    (hscope : w.scope? origin.uri = .ok scope)
    (hinverse : ∀ d ∈ scope, ∀ path, origin.uri.makeRelative? d.uri = some path →
      origin.uri.join? path = some d.uri) (kind : IncludeKind) :
    Candidate.files origin scope kind =
        scope.flatMap (fun d => Candidate.files origin [d] kind) ∧
      ∀ d ∈ scope, ∀ c ∈ Candidate.files origin [d] kind,
        Resolves w origin.uri kind c d.uri := by
  refine ⟨files_eq_flatMap origin scope kind, fun d hd c hc => ?_⟩
  have hcontains := Workspace.contains_of_mem_scope hscope hd
  obtain ⟨path, hpath, rfl⟩ := of_mem_files hc
  have hjoin := hinverse d hd path hpath
  rcases withoutExtension_cases kind path with hextension | ⟨hsame, hsuffix⟩
  · refine .stripped hextension fun span => ?_
    exact Workspace.resolve?_of_join_extension (hextension ▸ hjoin) hcontains
  · rw [hsame]
    exact .kept rfl hsuffix fun span => Workspace.resolve?_of_join hjoin hcontains

namespace Example

/-- A document that uses a style file and includes a part whose name only adds an extension. -/
def essay : Document := ((Document.create ⟨"file", some ⟨"", "", none⟩, "/a/essay.tex", none, none⟩
  .latex).withText "\\usepackage\x7b../b/own\x7d\\input\x7b../b/own.sty\x7d").analyzed

def style : Document :=
  .create ⟨"file", some ⟨"", "", none⟩, "/b/own.sty", none, none⟩ .latex

def part : Document :=
  .create ⟨"file", some ⟨"", "", none⟩, "/b/own.sty.tex", none, none⟩ .latex

/-- They are in different directories, and the root directory is another one. -/
def shelf : Workspace := (((Workspace.empty
  ⟨some ⟨"file", some ⟨"", "", none⟩, "/b", none, none⟩, false⟩).add essay).add style).add part

theorem scope_essay : shelf.scope? essay.uri = .ok [essay, style, part] := by
  have hget : shelf.get? essay.uri = some essay := by decide +kernel
  have hwalk : shelf.graph.visitWithin false 6 [] [essay.uri] = some [essay, style, part] := by
    decide +kernel
  exact Workspace.scope?_of_within hget hwalk

end Example

/-- The style file and the part are offered by one path, which means the part. -/
theorem files_resolve_shelf :
    (Example.shelf.scope? Example.essay.uri = .ok [Example.essay, Example.style, Example.part] ∧
      ∀ d ∈ [Example.essay, Example.style, Example.part], ∀ path,
        Example.essay.uri.makeRelative? d.uri = some path →
          Example.essay.uri.join? path = some d.uri) ∧
    Resolves Example.shelf Example.essay.uri .latex ⟨"../b/own.sty", .file, "../b/own.sty"⟩
      Example.style.uri ∧
    Resolves Example.shelf Example.essay.uri .latex ⟨"../b/own.sty", .file, "../b/own.sty.tex"⟩
      Example.part.uri := by
  have hinverse : ∀ d ∈ [Example.essay, Example.style, Example.part], ∀ path,
      Example.essay.uri.makeRelative? d.uri = some path →
        Example.essay.uri.join? path = some d.uri := by
    intro d hd path hpath
    have hall : [Example.essay, Example.style, Example.part].all (fun d =>
        ((Example.essay.uri.makeRelative? d.uri).bind Example.essay.uri.join?) = some d.uri) := by
      decide +kernel
    have hd := of_decide_eq_true (List.all_eq_true.1 hall d hd)
    rwa [hpath] at hd
  have hresolve := (files_resolve Example.scope_essay hinverse .latex).2
  refine ⟨⟨Example.scope_essay, hinverse⟩, ?_, ?_⟩
  · exact hresolve Example.style (by simp) _ (by decide +kernel)
  · exact hresolve Example.part (by simp) _ (by decide +kernel)

end Completion

end Manuscript

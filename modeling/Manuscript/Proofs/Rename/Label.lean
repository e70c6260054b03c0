/-
# Manuscript.Proofs.Rename.Label -- renaming a label keeps the rest, and can be undone

A label gets a plain name that is nobody else's in its scope.  After the edits were applied
and the documents read again, they define and refer to the same labels under the new name,
and hold the same includes, citations, environments, definitions, commands and problems
(`Document.Relabelled`).  Since includes stay, so does the scope.

Renaming the same symbol back gives the workspace from before, text by text: the new name
stands exactly where the old one stood, so both renames fill one form for each document
(`exists_relabelled`).
-/
import Manuscript.Proofs.Rename.Application

namespace Manuscript

set_option autoImplicit false

open Text Text.Form

/-! ## What a rename keeps -/

/-- A name after a label was renamed. -/
def relabel (oldName newName name : String) : String := if name = oldName then newName else name

/-- The labels with one name have another, and everything else is as it was. -/
structure Latex.Structure.Relabelled (oldName newName : String) (s s' : Latex.Structure) :
    Prop where
  labelDefinitions : s'.labelDefinitions.map Symbol.name =
    (s.labelDefinitions.map Symbol.name).map (relabel oldName newName)
  labelReferences : s'.labelReferences.map Symbol.name =
    (s.labelReferences.map Symbol.name).map (relabel oldName newName)
  includes : (s'.includes.map fun i => (i.kind, i.path)) = s.includes.map fun i => (i.kind, i.path)
  citations : s'.citations.map Symbol.name = s.citations.map Symbol.name
  environments : s'.environments.map Environment.name = s.environments.map Environment.name
  commandDefinitions : s'.commandDefinitions.map Symbol.name = s.commandDefinitions.map Symbol.name
  commands : s'.commands = s.commands
  diagnostics : (s'.diagnostics.map fun d => (d.severity, d.code, d.message)) =
    s.diagnostics.map fun d => (d.severity, d.code, d.message)

/-- Bibliographies hold no labels. -/
inductive Structure.Relabelled (oldName newName : String) : Structure → Structure → Prop where
  | latex {s s' : Latex.Structure} : s.Relabelled oldName newName s' →
      Relabelled oldName newName (.latex s) (.latex s')
  | bibtex (s : Bibtex.Structure) : Relabelled oldName newName (.bibtex s) (.bibtex s)

/-- The document has a new text, and its structure is that of the old one up to a label. -/
structure Document.Relabelled (oldName newName : String) (d d' : Document) : Prop where
  uri : d'.uri = d.uri
  settled : d'.Settled
  contents : d.contents.Relabelled oldName newName d'.contents

theorem map_eq_of_forall₂ {α β γ : Type} {R : α → β → Prop} {f : α → γ} {g : β → γ}
    (h : ∀ a b, R a b → g b = f a) {as : List α} {bs : List β} (hall : List.Forall₂ R as bs) :
    bs.map g = as.map f := by
  induction hall with
  | nil => rfl
  | cons hab _ ih => rw [List.map_cons, List.map_cons, h _ _ hab, ih]

theorem respell_toList (oldName newName name : String) :
    respell oldName.toList newName.toList name = relabel oldName newName name := by
  rw [respell, String.ofList_toList, String.ofList_toList, relabel]

theorem relabelled_of_respelt {oldName newName : String} {same : Nat → Nat → Prop}
    {s s' : Latex.Structure} (h : s.Respelt .label oldName.toList newName.toList same s') :
    s.Relabelled oldName newName s' where
  labelDefinitions := by
    rw [List.map_map]
    exact map_eq_of_forall₂ (fun _ _ hs => hs.name.trans (respell_toList _ _ _)) h.labelDefinitions
  labelReferences := by
    rw [List.map_map]
    exact map_eq_of_forall₂ (fun _ _ hs => hs.name.trans (respell_toList _ _ _)) h.labelReferences
  includes := map_eq_of_forall₂ (fun _ _ hi => by rw [hi.1, hi.2]) h.includes
  citations := map_eq_of_forall₂ (fun _ _ hc => hc.symm) h.citations
  environments := h.environments.symm
  commandDefinitions := map_eq_of_forall₂ (fun _ _ hc => hc.symm) h.commandDefinitions
  commands := h.commands.symm
  diagnostics := map_eq_of_forall₂ (fun _ _ hd => by rw [hd.severity, hd.code, hd.message])
    h.diagnostics

namespace Rename

variable {oldName newName : String}

/-! ## One document -/

/-- **The edits of a document relabel it, and those of the way back restore its text.** -/
theorem exists_relabelled {d : Document} (hd : d.Settled) (hold : Plain oldName.toList)
    (hnew : Plain newName.toList)
    (hfresh : ∀ s ∈ occurrences .label d.contents, s.name ≠ newName) :
    ∃ text, d.edited? (edits .label oldName newName d) = some text ∧
      d.Relabelled oldName newName (d.withText text).analyzed ∧
      (d.withText text).analyzed.edited? (edits .label newName oldName (d.withText text).analyzed) =
        some d.text := by
  cases hlanguage : d.language with
  | bibtex =>
      have hnone (oldName newName : String) {d : Document} (hd : d.Settled)
          (hlanguage : d.language = .bibtex) : edits .label oldName newName d = [] := by
        rw [edits_eq_nil_iff .label _ _ hd, hd.contents, hlanguage]
        rfl
      refine ⟨d.text, ?_, ⟨rfl, Document.settled_analyzed _, ?_⟩, ?_⟩
      · rw [hnone _ _ hd hlanguage, Document.edited?_nil]
      · rw [hd.analyzed_withText, hd.contents, hlanguage]
        exact .bibtex _
      · rw [hd.analyzed_withText, hnone _ _ hd hlanguage, Document.edited?_nil]
  | latex =>
      obtain ⟨F, hfill, hholes, hevents, hrespelt⟩ :=
        @Latex.exists_form_analyze .label _ _ hold.inert hnew.inert nofun d.text
      have hedited := edited?_edits hd .label hfill
        (by rw [inOrder_latex hlanguage]; exact hholes) newName.toList
      rw [String.ofList_toList, String.ofList_toList] at hedited
      have hsettled := Document.settled_analyzed
        (d.withText (String.ofList (fill newName.toList F)))
      refine ⟨_, hedited, ⟨rfl, hsettled, ?_⟩, ?_⟩
      · rw [hd.contents_latex hlanguage, hsettled.contents_latex hlanguage]
        exact .latex (relabelled_of_respelt hrespelt)
      · -- the way back fills the same form again
        have hback := Latex.holes_eq_nameSpans hold.inert hnew.inert hholes hevents fun s hs => by
          rw [String.ofList_toList]
          refine hfresh s ((perm_inOrder .label hd).mem_iff.2 ?_)
          rwa [inOrder_latex hlanguage]
        have hfill' : fill newName.toList F =
            ((d.withText (String.ofList (fill newName.toList F))).analyzed).text.toList :=
          String.toList_ofList.symm
        have hlanguage' : (d.withText (String.ofList (fill newName.toList F))).analyzed.language =
            .latex := hlanguage
        have hrestored := edited?_edits hsettled .label hfill'
          (by rw [inOrder_latex hlanguage']; exact hback) oldName.toList
        rwa [String.ofList_toList, String.ofList_toList, hfill, String.ofList_toList] at hrestored

/-! ## Labels of a document -/

theorem count_relabel {names : List String} (h : newName ∉ names) :
    (names.map (relabel oldName newName)).count newName = names.count oldName := by
  induction names with
  | nil => rfl
  | cons name names ih =>
      rw [List.mem_cons, not_or] at h
      rw [List.map_cons, List.count_cons, List.count_cons, ih h.2]
      congr 1
      by_cases hname : name = oldName
      · simp [relabel, hname]
      · simp [relabel, hname, Ne.symm h.1]

theorem length_named (name : String) (symbols : List Symbol) :
    (named name symbols).length = (symbols.map Symbol.name).count name := by
  rw [named, ← List.countP_eq_length_filter, List.count, List.countP_map]
  rfl

/-- The names of the labels of a document, defined first. -/
theorem names_relabelled {d d' : Document} (h : d.Relabelled oldName newName d') :
    (definitions .label d'.contents).map Symbol.name =
        ((definitions .label d.contents).map Symbol.name).map (relabel oldName newName) ∧
      (occurrences .label d'.contents).map Symbol.name =
        ((occurrences .label d.contents).map Symbol.name).map (relabel oldName newName) := by
  have hcontents := h.contents
  generalize d.contents = contents at hcontents
  generalize d'.contents = contents' at hcontents
  cases hcontents with
  | latex hs =>
      refine ⟨hs.labelDefinitions, ?_⟩
      simp only [occurrences, List.map_append]
      rw [hs.labelDefinitions, hs.labelReferences]
  | bibtex s => exact ⟨rfl, rfl⟩

/-- As often as the old name was defined, the new one is. -/
theorem definitionCount_relabelled {related related' : List Document}
    (h : List.Forall₂ (Document.Relabelled oldName newName) related related')
    (hfresh : ∀ d ∈ related, ∀ s ∈ occurrences .label d.contents, s.name ≠ newName) :
    definitionCount .label newName related' = definitionCount .label oldName related := by
  induction h with
  | nil => rfl
  | cons hd _ ih =>
      rename_i d d' related related' _
      have ih := ih fun e he => hfresh e (List.mem_cons_of_mem d he)
      have hnames : newName ∉ (definitions .label d.contents).map Symbol.name := by
        intro hmem
        obtain ⟨s, hs, hname⟩ := List.mem_map.1 hmem
        refine hfresh d List.mem_cons_self s ?_ hname
        generalize d.contents = contents at hs
        cases contents with
        | latex contents => exact List.mem_append_left _ hs
        | bibtex contents => cases hs
      unfold definitionCount at ih ⊢
      rw [List.foldr_cons, List.foldr_cons, ih, length_named, length_named,
        (names_relabelled hd).1, count_relabel hnames]

/-- The symbol at the start of a label is that label. -/
theorem symbolAt?_start {d : Document} (hd : d.Settled) {s : Symbol}
    (hs : s ∈ occurrences .label d.contents) :
    symbolAt? d (d.position s.span.start) = .ok (s, .label) := by
  have hplaced := placed_inOrder .label d
  have hmem := (perm_inOrder .label hd).mem_iff.1 hs
  have hlt := hplaced.start_lt_stop (fun _ h => h.nonempty) hmem
  have hoffset : d.offset? (d.position s.span.start) = some s.span.start := by
    rw [offset?_eq hd, position_eq hd, hplaced.offset?_start hmem]
  have htouches : s.span.touches s.span.start = true := by
    simp only [Span.touches, Bool.and_eq_true, decide_eq_true_eq]
    omega
  exact symbolAt?_touched hd hs hoffset htouches

end Rename

namespace Workspace

open Rename

variable {w : Workspace} {settings : Settings} {uri : Url} {p : Position} {newName : String}
  {r : Rename} {scope : List Document} {origin : Document}

theorem includes_of_relabelled {oldName newName : String} {d d' : Document}
    (h : d.Relabelled oldName newName d') : d'.includes = d.includes := by
  have hcontents := h.contents
  unfold Document.includes
  generalize d.contents = contents at hcontents
  generalize d'.contents = contents' at hcontents
  cases hcontents with
  | latex hs => exact hs.includes
  | bibtex s => rfl

/-- A change of the documents of a scope relabels them, keeps the others and can be undone. -/
structure Relabels (oldName newName : String) (w : Workspace) (scope : List Document)
    (f : Document → Document) : Prop where
  keeps : ∀ d ∈ w.documents, d.Keeps f
  outside : ∀ d ∈ w.documents, d.uri ∉ scope.map Document.uri → f d = d
  relabelled : ∀ d ∈ scope, d.Relabelled oldName newName (f d)
  back : ∀ d ∈ scope, (f d).edited? (edits .label newName oldName (f d)) = some d.text
  restored : ∀ d ∈ scope, ((f d).withText d.text).analyzed = d

/-- **The edits of a label are such a change.** -/
theorem edited?_relabels (sound : w.Sound) (hscope : w.scope? uri = .ok scope) {oldName : String}
    (hold : Plain oldName.toList) (hnew : Plain newName.toList)
    (hfresh : ∀ d ∈ scope, ∀ s ∈ occurrences .label d.contents, s.name ≠ newName) :
    ∃ f, w.edited? (changesIn .label oldName newName scope) = some (w.map f) ∧
      Relabels oldName newName w scope f := by
  have hdocuments := (sound.of_scope? hscope).2
  obtain ⟨f, hedited, hkeeps, houtside, hf⟩ := exists_edited (R := fun d d' =>
      d.Relabelled oldName newName d' ∧
        d'.edited? (edits .label newName oldName d') = some d.text ∧
        (d'.withText d.text).analyzed = d) sound hscope
    (fun _ _ h => includes_of_relabelled h.1) fun d hd => by
      have hsettled := (hdocuments d hd).2.2
      obtain ⟨text, htext, hrelabelled, hback⟩ :=
        exists_relabelled hsettled hold hnew (hfresh d hd)
      exact ⟨text, htext, hrelabelled, hback, hsettled.analyzed_withText⟩
  exact ⟨f, hedited, hkeeps, houtside, fun d hd => (hf d hd).1, fun d hd => (hf d hd).2.1,
    fun d hd => (hf d hd).2.2⟩

namespace Relabels

variable {oldName : String} {f : Document → Document} (h : Relabels oldName newName w scope f)

include h

theorem forall₂ : List.Forall₂ (Document.Relabelled oldName newName) scope (scope.map f) := by
  rw [List.forall₂_map_right_iff, List.forall₂_same]
  exact h.relabelled

theorem uris_scope : (scope.map f).map Document.uri = scope.map Document.uri :=
  map_eq_of_forall₂ (fun _ _ hd => hd.uri) h.forall₂

theorem get?_eq (huri : w.get? uri = some origin) : (w.map f).get? uri = some (f origin) := by
  rw [get?_map fun d hd => (h.keeps d hd).uri, huri, Option.map_some]

/-- The edits of the way back give the workspace from before. -/
theorem edited?_eq (sound : w.Sound) (hscope : w.scope? uri = .ok scope)
    (sound' : (w.map f).Sound) :
    (w.map f).edited? (changesIn .label newName oldName (scope.map f)) = some w := by
  have hscope' := scope?_map h.keeps hscope
  have hnodup := (sound'.of_scope? hscope').1
  have hback : w.documents.map (applied (changesIn .label newName oldName (scope.map f)) ∘ f) =
      w.documents.map id := by
    apply List.map_congr_left
    intro d hd
    show applied _ (f d) = d
    by_cases hmem : d.uri ∈ scope.map Document.uri
    · have hd := mem_scope_of_uri sound hscope hd hmem
      rw [applied_changesIn hnodup (List.mem_map_of_mem hd) (h.relabelled d hd).settled
        (h.back d hd), h.restored d hd]
    · have hout : (f d).uri ∉ (scope.map f).map Document.uri := by
        rwa [(h.keeps d hd).uri, h.uris_scope]
      rw [applied_of_notMem hnodup hout, h.outside d hd hmem]
  rw [edited?_changesIn sound' hscope' fun d' hd' => ?_]
  · simp only [map, List.map_map]
    rw [hback, List.map_id]
  · obtain ⟨d, hd, rfl⟩ := List.mem_map.1 hd'
    exact ⟨d.text, h.back d hd⟩

end Relabels

theorem isValidName_of_plain {name : String} (h : Plain name.toList) : isValidName name = true := by
  have hne : name ≠ "" := by
    rintro rfl
    exact h.nonempty rfl
  have hplain : ∀ c ∈ name.toList, breaksName c = false := by
    intro c hc
    have hc := h.plain c hc
    simp only [isPlain, Bool.and_eq_true, Bool.not_eq_true', decide_eq_true_eq] at hc
    simp only [breaksName, hc.1, Bool.false_or, decide_eq_false_iff_not]
    exact fun hmem => hc.2 (by simp only [List.mem_cons] at hmem ⊢; tauto)
  simp only [isValidName, Bool.and_eq_true, bne_iff_ne, Bool.not_eq_true', List.any_eq_false]
  exact ⟨hne, fun c hc => by rw [hplain c hc]; exact Bool.false_ne_true⟩

/-- **Renaming a label keeps the rest of the analysis, and renaming it back restores the
workspace.** -/
theorem rename_label (reached : w.Reached) {symbol : Symbol}
    (hscope : w.scope? uri = .ok scope) (horigin : w.get? uri = some origin)
    (hsymbol : symbolAt? origin p = .ok (symbol, .label))
    (h : (w.rename? uri p newName >>= Request.answer? settings) = .ok (.rename r))
    (hold : Plain r.oldName.toList) (hnew : Plain newName.toList)
    (hfresh : ∀ d ∈ scope, ∀ s ∈ occurrences .label d.contents, s.name ≠ newName) :
    ∃ w', w.edited? r.changes = some w' ∧ w'.Reached ∧
      (∃ scope', w'.scope? uri = .ok scope' ∧
        scope'.map Document.uri = scope.map Document.uri ∧
        List.Forall₂ (Document.Relabelled r.oldName newName) scope scope') ∧
      ∃ (origin' : Document) (symbol' : Symbol) (i : Nat), w'.get? uri = some origin' ∧
        (occurrences .label origin.contents)[i]? = some symbol ∧
        (occurrences .label origin'.contents)[i]? = some symbol' ∧
        symbolAt? origin' (origin'.position symbol'.span.start) = .ok (symbol', .label) ∧
        ∀ p', symbolAt? origin' p' = .ok (symbol', .label) →
          ∃ r', (w'.rename? uri p' r.oldName >>= Request.answer? settings) = .ok (.rename r') ∧
            w'.edited? r'.changes = some w := by
  obtain ⟨scope₁, origin₁, hscope₁, horigin₁, hrun⟩ := rename?_eq_ok_iff.1 h
  obtain rfl : scope = scope₁ := Except.ok.inj (hscope.symm.trans hscope₁)
  obtain rfl : origin = origin₁ := Option.some.inj (horigin.symm.trans horigin₁)
  obtain ⟨symbol₁, sort, hsymbol₁, -, hcount, rfl⟩ := run?_eq_ok_iff.1 hrun
  cases hsymbol.symm.trans hsymbol₁
  obtain ⟨f, hedited, hf⟩ := edited?_relabels reached.sound hscope hold hnew hfresh
  have hreached := reached.edited hedited
  have hscope' := scope?_map hf.keeps hscope
  have horigin' := hf.get?_eq horigin
  -- the symbol that stands at the same place of the list of labels
  obtain ⟨i, hi⟩ := List.mem_iff_getElem?.1 (mem_occurrences_of_symbolAt? hsymbol).1
  have hrelabelled := hf.relabelled origin (mem_scope_of_get? horigin hscope)
  have hname := congrArg (·[i]?) (names_relabelled hrelabelled).2
  simp only [List.getElem?_map, hi, Option.map_some, relabel, if_pos] at hname
  obtain ⟨symbol', hi', hname'⟩ := Option.map_eq_some_iff.1 hname
  refine ⟨w.map f, hedited, hreached, ⟨_, hscope', hf.uris_scope, hf.forall₂⟩, f origin, symbol', i,
    horigin', hi, hi', symbolAt?_start hrelabelled.settled (List.mem_iff_getElem?.2 ⟨i, hi'⟩),
    fun p' hp' => ?_⟩
  refine ⟨_, rename?_eq_ok_iff.2 ⟨_, _, hscope', horigin', run?_eq_ok_iff.2 ⟨symbol', .label, hp',
    isValidName_of_plain hold, ?_, rfl⟩⟩, ?_⟩
  · rw [hname', definitionCount_relabelled hf.forall₂ hfresh]
    exact hcount
  · rw [hname']
    exact hf.edited?_eq reached.sound hscope hreached.sound

theorem rename_label_book :
    (Example.shelf.scope? Example.book.uri = .ok [Example.book, Example.chapter] ∧
      symbolAt? Example.book ⟨0, 7⟩ = .ok (⟨"x", ⟨7, 8⟩⟩, .label) ∧
      (Example.shelf.rename? Example.book.uri ⟨0, 7⟩ "new" >>= Request.answer? Settings.default) =
        .ok (.rename Example.renamed) ∧
      Plain "x".toList ∧ Plain "new".toList ∧
      ∀ d ∈ [Example.book, Example.chapter], ∀ s ∈ occurrences .label d.contents, s.name ≠ "new") ∧
    ∃ w', Example.shelf.edited? Example.renamed.changes = some w' ∧
      ∃ scope', w'.scope? Example.book.uri = .ok scope' ∧
        List.Forall₂ (Document.Relabelled "x" "new") [Example.book, Example.chapter] scope' := by
  have hsymbol : symbolAt? Example.book ⟨0, 7⟩ = .ok (⟨"x", ⟨7, 8⟩⟩, .label) := by decide +kernel
  have hget : Example.shelf.get? Example.book.uri = some Example.book := by decide +kernel
  have hold : Plain "x".toList := plain_of_all (by decide) (by decide)
  have hnew : Plain "new".toList := plain_of_all (by decide) (by decide)
  have hfresh : ∀ d ∈ [Example.book, Example.chapter], ∀ s ∈ occurrences .label d.contents,
      s.name ≠ "new" := by decide +kernel
  obtain ⟨w', hedited, -, ⟨scope', hscope', -, hrelabelled⟩, -⟩ :=
    rename_label Example.reached_shelf Example.scope_book hget hsymbol Example.rename_book hold hnew
      hfresh
  exact ⟨⟨Example.scope_book, hsymbol, Example.rename_book, hold, hnew, hfresh⟩, w', hedited,
    scope', hscope', hrelabelled⟩

end Workspace

end Manuscript

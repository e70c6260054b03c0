/-
# Manuscript.Proofs.Query.Reference -- a label that is defined can be referred to

A label is named by all that its group holds, and a reference by what its group holds between
commas.  So a reference to a name with commas means other labels.  Any other name is read from
the group of a reference as it was read from the group of its label, if the brace behind it
closes that group (`Latex.analyze_reference`).

A reference in front of a text leaves the labels of the text where they are, and the document is
in its own scope.  So the name is defined there, and no problem says that it is not
(`Workspace.label_referable`).
-/
import Manuscript.Proofs.Latex.Regrouping
import Manuscript.Proofs.Query.Labels

namespace Manuscript

set_option autoImplicit false

open Text

/-- Only documents of the one language hold what is read from it. -/
theorem Document.Settled.language_eq_latex {d : Document} {s : Latex.Structure} (h : d.Settled)
    (hlatex : d.contents = .latex s) : d.language = .latex := by
  have hcontents := h.contents
  rw [hlatex] at hcontents
  cases hlanguage : d.language with
  | latex => rfl
  | bibtex => rw [hlanguage] at hcontents; cases hcontents

/-! ## Undefined labels -/

/-- The settings may hide problems, and add none. -/
theorem Problem.mem_of_mem_all {settings : DiagnosticsSettings} {origin : Document}
    {related : List Document} {p : Problem} (h : p ∈ Problem.all settings origin related) :
    p ∈ origin.contents.diagnostics.map (Problem.ofDiagnostic origin) ∨
      p ∈ Rule.problems settings origin related :=
  List.mem_append.1 (List.mem_filter.1 (List.mem_mergeSort.1 h)).1

/-- A label is reported undefined at a reference to it, and only if it is. -/
theorem Problem.of_undefined {settings : DiagnosticsSettings} {origin : Document}
    {s : Latex.Structure} (horigin : origin.Settled) (hlatex : origin.contents = .latex s)
    {related : List Document} {p : Problem} (h : p ∈ Problem.all settings origin related)
    (hcode : p.code = some "REF001") : ∃ reference ∈ s.labelReferences,
      p.range = origin.range reference.span ∧ reference.name ∉ Rule.labelNames related := by
  rcases Problem.mem_of_mem_all h with h | h
  · obtain ⟨d, hd, rfl⟩ := List.mem_map.1 h
    rw [hlatex, horigin.eq_analyze hlatex] at hd
    have hown := Latex.code_mem_of_mem_diagnostics hd
    rw [show d.code = some "REF001" from hcode] at hown
    exact absurd hown (by decide)
  · have hother {severity : RuleSeverity} {code : String} {symbols : List Symbol}
        {message? : String → Option String} (hne : code ≠ "REF001")
        (hp : p ∈ Rule.violations origin severity code symbols message?) : False :=
      hne (Option.some.inj ((Rule.code_of_mem_violations hp).symm.trans hcode))
    unfold Rule.problems at h
    rw [hlatex] at h
    simp only [Structure.latex?, List.mem_append] at h
    rcases h with (h | h) | h
    · unfold Rule.violations at h
      split at h
      · cases h
      · obtain ⟨reference, hreference, hp⟩ := List.mem_filterMap.1 h
        obtain ⟨message, hmessage, rfl⟩ := Option.map_eq_some_iff.1 hp
        refine ⟨reference, hreference, rfl, fun hmem => ?_⟩
        rw [Rule.undefinedLabel?, if_pos hmem] at hmessage
        cases hmessage
    · exact (hother (by decide) h).elim
    · exact (hother (by decide) h).elim

/-- No problem says of a label that is defined in the scope that it is undefined. -/
theorem Problem.not_undefined {settings : DiagnosticsSettings} {origin : Document}
    {s : Latex.Structure} {symbol : Symbol} (horigin : origin.Settled)
    (hlatex : origin.contents = .latex s) (hsymbol : symbol ∈ s.labelReferences)
    {related : List Document} (hdefined : symbol.name ∈ Rule.labelNames related) {p : Problem}
    (h : p ∈ Problem.all settings origin related) :
    p.reports "REF001" (origin.range symbol.span) = false := by
  refine eq_false_of_ne_true fun hreports => ?_
  obtain ⟨hcode, hrange⟩ := Problem.reports_iff.1 hreports
  obtain ⟨reference, hreference, hat, hundefined⟩ :=
    Problem.of_undefined horigin hlatex h hcode
  obtain rfl := Rename.eq_of_range_eq_latex horigin hlatex (List.mem_append_right _ hsymbol)
    (List.mem_append_right _ hreference) (hat.symm.trans hrange)
  exact hundefined hdefined

/-! ## A reference in front of a text -/

/-- A document with a reference to one of its labels in front of the text. -/
theorem Document.Settled.analyzed_reference {d : Document} {s : Latex.Structure} {label : Symbol}
    (h : d.Settled) (hlatex : d.contents = .latex s) (hlabel : label ∈ s.labelDefinitions)
    (hcomma : ',' ∉ label.name.toList) (hclosable : Latex.Closable label.name.toList) :
    let size := utf8Length label.name.toList + 7
    ∃ s', (d.withText ("\\ref\x7b" ++ label.name ++ "\x7d\n" ++ d.text)).analyzed.contents =
        .latex s' ∧
      s'.labelReferences = ⟨label.name, ⟨5, 5 + utf8Length label.name.toList⟩⟩ ::
        s.labelReferences.map (.shift size) ∧
      s'.labelDefinitions = s.labelDefinitions.map (.shift size) := by
  obtain rfl := h.eq_analyze hlatex
  exact ⟨_, congrArg (analyze · _) (h.language_eq_latex hlatex), Latex.analyze_reference
    (Latex.groupable_of_mem_labelDefinitions hlabel) hclosable hcomma d.text⟩

namespace Workspace

variable {w : Workspace} {uri : Url} {d : Document} {s : Latex.Structure} {label : Symbol}

/-- A document with another text, as the workspace stores it. -/
theorem update?_of_get? (hget : w.get? uri = some d) (text : String) :
    w.update? uri text = .ok (w.add (d.withText text)) ∧
      (w.add (d.withText text)).get? uri = some (d.withText text).analyzed := by
  refine ⟨by rw [update?, hget], ?_⟩
  rw [get?_add]
  exact if_pos (uri_of_get? hget).symm

/-- The problems of a document are told from the documents in its scope. -/
theorem answer?_problems_of_get? {settings : Settings} (hget : w.get? uri = some d) :
    (w.problems? uri >>= Request.answer? settings) = .ok (.problems
      (Problem.all settings.diagnostics d (w.graph.traverse w.options.followParents uri))) := by
  rw [answer?_problems, scope?_of_get? hget]
  show (origin? uri _ >>= _) = _
  rw [origin?_traverse hget]
  rfl

/-- **A label can be referred to by its name**, unless there is a comma in the name or the name
takes the brace behind it away. -/
theorem label_referable (reached : w.Reached) (hget : w.get? uri = some d)
    (hlatex : d.contents = .latex s) (hlabel : label ∈ s.labelDefinitions)
    (hcomma : ',' ∉ label.name.toList) (hclosable : Latex.Closable label.name.toList) :
    let reference : Symbol := ⟨label.name, ⟨5, 5 + utf8Length label.name.toList⟩⟩
    let size := utf8Length label.name.toList + 7
    ∃ w' d' s', w.update? uri ("\\ref\x7b" ++ label.name ++ "\x7d\n" ++ d.text) = .ok w' ∧
      w'.get? uri = some d' ∧ d'.contents = .latex s' ∧
      s'.labelReferences = reference :: s.labelReferences.map (.shift size) ∧
      s'.labelDefinitions = s.labelDefinitions.map (.shift size) ∧
      ∀ settings, ∃ problems,
        (w'.problems? uri >>= Request.answer? settings) = .ok (.problems problems) ∧
        ∀ p ∈ problems, p.reports "REF001" (d'.range reference.span) = false := by
  intro reference size
  have hsettled := reached.sound.settled d (mem_of_get? hget)
  obtain ⟨hupdate, hget'⟩ :=
    update?_of_get? hget ("\\ref\x7b" ++ label.name ++ "\x7d\n" ++ d.text)
  obtain ⟨s', hlatex', hreferences, hdefinitions⟩ :=
    hsettled.analyzed_reference hlatex hlabel hcomma hclosable
  generalize (d.withText ("\\ref\x7b" ++ label.name ++ "\x7d\n" ++ d.text)).analyzed = d'
    at hget' hlatex'
  have hsettled' := (reached.update hupdate).sound.settled d' (mem_of_get? hget')
  refine ⟨_, d', s', hupdate, hget', hlatex', hreferences, hdefinitions, fun settings => ?_⟩
  refine ⟨_, answer?_problems_of_get? hget',
    fun p hp => Problem.not_undefined hsettled' hlatex' ?_ ?_ hp⟩
  · rw [hreferences]
    exact List.mem_cons_self
  · -- the label is defined in the document itself
    rw [Rule.labelNames_eq]
    refine List.mem_map.2 ⟨label.shift size, List.mem_flatMap.2 ⟨d', ?_, ?_⟩, rfl⟩
    · exact mem_scope_of_get? hget' (scope?_of_get? hget')
    · rw [Document.labels, hlatex']
      show label.shift size ∈ s'.labelDefinitions
      rw [hdefinitions]
      exact List.mem_map_of_mem hlabel

namespace Example

/-- A document with one label, whose name has a group and a command in it. -/
def essay : Document := ((Document.create ⟨"file", some ⟨"", "", none⟩, "/essay.tex", none, none⟩
  .latex).withText "\\label\x7b a\x7bb\x7d\\c \x7d").analyzed

/-- A document with labels that cannot be referred to. -/
def riddle : Document := ((Document.create ⟨"file", some ⟨"", "", none⟩, "/riddle.tex", none, none⟩
  .latex).withText
    "\\label\x7ba,b\x7d\n\\label\x7ba\\ \x7d\n\\label\x7b\x7ba\x7d%\n\x7d").analyzed

def pile : Workspace := ((Workspace.empty ⟨none, false⟩).add essay).add riddle

theorem reached_pile : pile.Reached :=
  ((Reached.empty _).add (.analyzed (.withText _ (.created _ _)))).add
    (.analyzed (.withText _ (.created _ _)))

end Example

theorem label_referable_essay :
    (Example.pile.Reached ∧ Example.pile.get? Example.essay.uri = some Example.essay ∧
      Example.essay.contents = .latex (Latex.analyze Example.essay.text) ∧
      ⟨"a\x7bb\x7d\\c", ⟨8, 14⟩⟩ ∈ (Latex.analyze Example.essay.text).labelDefinitions ∧
      ',' ∉ "a\x7bb\x7d\\c".toList ∧ Latex.Closable "a\x7bb\x7d\\c".toList) ∧
    ∃ w' d' s', Example.pile.update? Example.essay.uri
        "\\ref\x7ba\x7bb\x7d\\c\x7d\n\\label\x7b a\x7bb\x7d\\c \x7d" = .ok w' ∧
      w'.get? Example.essay.uri = some d' ∧ d'.contents = .latex s' ∧
      s'.labelReferences = [⟨"a\x7bb\x7d\\c", ⟨5, 11⟩⟩] ∧
      s'.labelDefinitions = [⟨"a\x7bb\x7d\\c", ⟨21, 27⟩⟩] ∧
      ∃ problems, (w'.problems? Example.essay.uri >>= Request.answer? Settings.default) =
          .ok (.problems problems) ∧
        ∀ p ∈ problems, p.reports "REF001" (d'.range ⟨5, 11⟩) = false := by
  have hget : Example.pile.get? Example.essay.uri = some Example.essay := by decide +kernel
  have hlatex : Example.essay.contents = .latex (Latex.analyze Example.essay.text) := rfl
  have hlabel : ⟨"a\x7bb\x7d\\c", ⟨8, 14⟩⟩ ∈
      (Latex.analyze Example.essay.text).labelDefinitions := by decide +kernel
  have hcomma : ',' ∉ "a\x7bb\x7d\\c".toList := by decide +kernel
  have hclosable : Latex.Closable "a\x7bb\x7d\\c".toList := by decide +kernel
  obtain ⟨w', d', s', hupdate, hget', hlatex', hreferences, hdefinitions, hproblems⟩ :=
    label_referable Example.reached_pile hget hlatex hlabel hcomma hclosable
  have hold : (Latex.analyze Example.essay.text).labelReferences = [] := by decide +kernel
  have hdefined : (Latex.analyze Example.essay.text).labelDefinitions =
      [⟨"a\x7bb\x7d\\c", ⟨8, 14⟩⟩] := by decide +kernel
  rw [hold] at hreferences
  rw [hdefined] at hdefinitions
  exact ⟨⟨Example.reached_pile, hget, hlatex, hlabel, hcomma, hclosable⟩, w', d', s', hupdate, hget',
    hlatex', hreferences, hdefinitions, hproblems Settings.default⟩

/-- A comma in the name of a label makes a list of a reference to it, and a name without the blanks
behind it may take the closing brace of a reference away. -/
theorem first_reference_riddle :
    (Example.pile.Reached ∧ Example.pile.get? Example.riddle.uri = some Example.riddle ∧
      Example.riddle.contents = .latex (Latex.analyze Example.riddle.text) ∧
      (Latex.analyze Example.riddle.text).labelDefinitions.map Symbol.name =
        ["a,b", "a\\", "\x7ba\x7d%"]) ∧
    ∀ label ∈ (Latex.analyze Example.riddle.text).labelDefinitions,
      ∃ w' d' s', Example.pile.update? Example.riddle.uri
          ("\\ref\x7b" ++ label.name ++ "\x7d\n" ++ Example.riddle.text) = .ok w' ∧
        w'.get? Example.riddle.uri = some d' ∧ d'.contents = .latex s' ∧
        s'.labelReferences.head?.map Symbol.name ≠ some label.name := by
  have hget : Example.pile.get? Example.riddle.uri = some Example.riddle := by decide +kernel
  have hnames : (Latex.analyze Example.riddle.text).labelDefinitions.map Symbol.name =
      ["a,b", "a\\", "\x7ba\x7d%"] := by decide +kernel
  refine ⟨⟨Example.reached_pile, hget, rfl, hnames⟩, fun label hlabel => ?_⟩
  obtain ⟨hupdate, hget'⟩ := update?_of_get? hget
    ("\\ref\x7b" ++ label.name ++ "\x7d\n" ++ Example.riddle.text)
  refine ⟨_, _, _, hupdate, hget', rfl, ?_⟩
  have hfirst : ∀ name ∈ ["a,b", "a\\", "\x7ba\x7d%"],
      (Latex.analyze ("\\ref\x7b" ++ name ++ "\x7d\n" ++ Example.riddle.text)
        ).labelReferences.head?.map Symbol.name ≠ some name := by decide +kernel
  exact hfirst label.name (hnames ▸ List.mem_map_of_mem hlabel)

end Workspace

end Manuscript

/-
# Manuscript.Proofs.Query.Labels -- one number of definitions for every question

Three questions about a document count the definitions of a label in its scope, each in
its own way: the problems compare a list of names, a rename adds up the definitions of
one document after the other, and completion offers every name once.  `labelsNamed` is
the list of definitions itself, and each of the three counts is its length
(`Rule.count_labelNames`, `Rename.definitionCount_label`,
`Completion.count_firstByName_labels`).

A problem and a rename are about the symbol at a range or under a cursor.  The keys of a
text lie apart, so a range or a cursor belongs to one symbol at most
(`Rename.eq_of_range_eq`, `Rename.symbolAt?_touched`), and the analysis of a text reports
under codes of its own (`Latex.code_mem_of_mem_diagnostics`).  So what the
three questions say about one symbol is decided by one number
(`Workspace.labels_agree`).
-/
import Manuscript.Proofs.Latex.Faithful
import Manuscript.Proofs.Workspace.Sources

namespace Manuscript

set_option autoImplicit false

open Text

/-! ## The definitions of a label -/

/-- The labels that a document defines. -/
def Document.labels (d : Document) : List Symbol :=
  match d.contents.latex? with
  | some s => s.labelDefinitions
  | none => []

/-- The definitions of a label in some documents. -/
def labelsNamed (name : String) (scope : List Document) : List Symbol :=
  Rename.named name (scope.flatMap Document.labels)

theorem Rule.labelNames_eq (scope : List Document) :
    labelNames scope = (scope.flatMap Document.labels).map Symbol.name := by
  unfold labelNames
  rw [List.map_flatMap]
  congr 1
  funext d
  unfold Document.labels
  cases d.contents.latex? <;> rfl

/-- The problems count a name among all names. -/
theorem Rule.count_labelNames (name : String) (scope : List Document) :
    (labelNames scope).count name = (labelsNamed name scope).length := by
  rw [labelNames_eq, List.count, List.countP_map, List.countP_eq_length_filter]
  rfl

/-- A rename adds up the definitions in each document. -/
theorem Rename.definitionCount_label (name : String) (scope : List Document) :
    definitionCount .label name scope = (labelsNamed name scope).length := by
  induction scope with
  | nil => rfl
  | cons d scope ih =>
      have hd : definitions .label d.contents = d.labels := by
        unfold Document.labels
        cases d.contents <;> rfl
      unfold definitionCount at ih ⊢
      rw [List.foldr_cons, ih, hd]
      unfold labelsNamed named
      rw [List.flatMap_cons, List.filter_append, List.length_append]

/-- Completion offers a name once if there is a definition, and else never. -/
theorem Completion.count_firstByName_labels (name : String) (scope : List Document) :
    ((firstByName (Candidate.labels scope)).map Candidate.name).count name =
      if 0 < (labelsNamed name scope).length then 1 else 0 := by
  have hnames : (Candidate.labels scope).map Candidate.name = Rule.labelNames scope := by
    unfold Candidate.labels Rule.labelNames
    rw [List.map_flatMap]
    congr 1
    funext d
    cases d.contents.latex? with
    | none => rfl
    | some s => exact List.map_map
  have hmem : name ∈ (firstByName (Candidate.labels scope)).map Candidate.name ↔
      0 < (labelsNamed name scope).length := by
    rw [← Rule.count_labelNames, List.count_pos_iff, ← hnames]
    exact mem_firstByNameFrom.trans (and_iff_left List.not_mem_nil)
  split
  · rename_i hpos
    exact List.count_eq_one_of_mem (nodup_firstByNameFrom [] _) (hmem.2 hpos)
  · rename_i hnone
    exact List.count_eq_zero_of_not_mem fun h => hnone (hmem.1 h)

/-! ## The problems of the analysis -/

namespace Latex

/-- What holds of the faults of a scan, and of all that is found wrong with braces and
environments, holds of every problem of a structure. -/
theorem forall_mem_diagnostics {P : Diagnostic → Prop} {events : List Event}
    (hfault : ∀ d, .fault d ∈ events → P d) (hunmatched : ∀ offset, P (unmatchedBrace offset))
    (hmissing : ∀ offset, P (missingBrace offset)) (hend : ∀ name span, P (unmatchedEnd name span))
    (hunclosed : ∀ name span, P (unclosedEnvironment name span)) :
    ∀ d ∈ (Structure.ofEvents events).diagnostics, P d := by
  have hopen : ∀ environments, ∀ d ∈ Pending.unclosed environments, P d := by
    intro environments d hd
    obtain ⟨e, -, rfl⟩ := List.mem_map.1 hd
    exact hunclosed e.1 e.2
  have hstep : ∀ p e, e ∈ events → (∀ d ∈ p.diagnostics, P d) →
      ∀ d ∈ (Pending.step p e).diagnostics, P d := by
    intro p e he hp
    cases e with
    | braceClosed offset =>
        obtain ⟨braces, environments, matched, diagnostics⟩ := p
        cases braces with
        | nil => exact Pending.forall_mem_concat hp (hunmatched offset)
        | cons _ _ => exact hp
    | environmentClosed name span =>
        rcases Pending.close_cases p name span with ⟨inner, opening, outer, -, hclose⟩ | hclose
        · simp only [Pending.step, hclose]
          exact List.forall_mem_append.2 ⟨hp, hopen inner⟩
        · simp only [Pending.step, hclose]
          exact Pending.forall_mem_concat hp (hend name span)
    | fault d => exact Pending.forall_mem_concat hp (hfault d he)
    | _ => exact hp
  have hfold : ∀ d ∈ (events.foldl Pending.step .start).diagnostics, P d :=
    List.foldlRecOn events Pending.step (motive := fun p => ∀ d ∈ p.diagnostics, P d)
      (fun d hd => by cases hd) fun p hp e he => hstep p e he hp
  intro d hd
  rcases List.mem_append.1 (List.mem_mergeSort.1 hd) with hd | hd
  · rcases List.mem_append.1 hd with hd | hd
    · exact hfold d hd
    · obtain ⟨offset, -, rfl⟩ := List.mem_map.1 hd
      exact hmissing offset
  · exact hopen _ d hd

/-- The analysis of a text reports under codes of its own. -/
theorem code_mem_of_mem_diagnostics {text : String} {d : Diagnostic}
    (h : d ∈ (analyze text).diagnostics) :
    d.code ∈ [some "TEX001", some "TEX002", some "TEX003", some "TEX004"] := by
  refine forall_mem_diagnostics (P := fun d =>
    d.code ∈ [some "TEX001", some "TEX002", some "TEX003", some "TEX004"]) (fun d hd => ?_)
    (fun _ => ?_) (fun _ => ?_) (fun _ _ => ?_) (fun _ _ => ?_) d h
  · cases told_scan _ _ hd with
    | key hkey => cases hkey
    | missingBrace _ => simp [missingBrace]
    | unclosed _ => simp [unclosedEnvironment]
  · simp [unmatchedBrace]
  · simp [missingBrace]
  · simp [unmatchedEnd]
  · simp [unclosedEnvironment]

end Latex

/-! ## One symbol at a range and under a cursor -/

namespace Rename

variable {d : Document} {s t : Symbol}

/-- A range of a text is that of one label at most. -/
theorem eq_of_range_eq (hd : d.Settled) (hs : s ∈ occurrences .label d.contents)
    (ht : t ∈ occurrences .label d.contents) (h : d.range t.span = d.range s.span) : t = s := by
  have hplaced := placed_inOrder .label d
  have hs := (perm_inOrder .label hd).mem_iff.1 hs
  have ht := (perm_inOrder .label hd).mem_iff.1 ht
  have hstart : d.offset? (d.position t.span.start) = d.offset? (d.position s.span.start) :=
    congrArg (fun r : Range => d.offset? r.start) h
  simp only [offset?_eq hd, position_eq hd, hplaced.offset?_start hs, hplaced.offset?_start ht,
    Option.some.injEq] at hstart
  have hnonempty : ∀ name, Solid isAsciiBlank name → name ≠ [] := fun _ hname => hname.nonempty
  have hslt := hplaced.start_lt_stop hnonempty hs
  have htlt := hplaced.start_lt_stop hnonempty ht
  refine hplaced.eq_of_touches ht hs (o := s.span.start) ?_ ?_ <;>
    simp only [Span.touches, Bool.and_eq_true, decide_eq_true_eq] <;> omega

end Rename

/-! ## Problems at a range -/

/-- The problem of a code at this range. -/
def Problem.reports (code : String) (range : Range) (p : Problem) : Bool :=
  p.code == some code && p.range == range

theorem Problem.reports_iff {code : String} {range : Range} {p : Problem} :
    p.reports code range = true ↔ p.code = some code ∧ p.range = range := by
  simp [reports]

namespace Rule

variable {origin : Document} {severity : RuleSeverity} {code : String} {symbols : List Symbol}
  {symbol : Symbol} {message? : String → Option String}

theorem code_of_mem_violations {p : Problem}
    (h : p ∈ violations origin severity code symbols message?) : p.code = some code := by
  unfold violations at h
  split at h
  · cases h
  · obtain ⟨s, -, hs⟩ := List.mem_filterMap.1 h
    obtain ⟨message, -, rfl⟩ := Option.map_eq_some_iff.1 hs
    rfl

/-- A rule reports nothing under the code of another. -/
theorem reports_violations_ne {other : String} (h : code ≠ other) (range : Range) :
    (violations origin severity code symbols message?).filter (Problem.reports other range) =
      [] := by
  refine List.filter_eq_nil_iff.2 fun p hp hreports => h ?_
  have hcode := (Problem.reports_iff.1 hreports).1
  exact Option.some.inj ((code_of_mem_violations hp).symm.trans hcode)

/-- A rule reports at the range of a symbol what it reports of the symbol, and that once. -/
theorem reports_violations {reported : Severity} (hseverity : severity.severity? = some reported)
    (hnodup : symbols.Nodup)
    (hunique : ∀ s ∈ symbols, origin.range s.span = origin.range symbol.span → s = symbol) :
    (violations origin severity code symbols message?).filter
        (Problem.reports code (origin.range symbol.span)) =
      if symbol ∈ symbols then ((message? symbol.name).map fun message =>
        ⟨origin.range symbol.span, reported, some code, message⟩).toList else [] := by
  unfold violations
  rw [hseverity]
  dsimp only
  induction symbols with
  | nil => rfl
  | cons s symbols ih =>
      have ih := ih (List.nodup_cons.1 hnodup).2 fun t ht =>
        hunique t (List.mem_cons_of_mem s ht)
      by_cases hs : s = symbol
      · -- the other symbols have other ranges
        subst hs
        rw [if_neg (List.nodup_cons.1 hnodup).1] at ih
        rw [if_pos List.mem_cons_self]
        cases hmessage : message? s.name <;>
          simp only [List.filterMap_cons, hmessage, Option.map_none, Option.map_some, ih] <;>
          simp [Problem.reports, ih]
      · have hrange : origin.range s.span ≠ origin.range symbol.span := fun h =>
          hs (hunique s List.mem_cons_self h)
        have hmem : symbol ∈ s :: symbols ↔ symbol ∈ symbols := by simp [Ne.symm hs]
        simp only [hmem]
        rw [← ih]
        cases hmessage : message? s.name <;> simp [hmessage, Problem.reports, hrange]

end Rule

/-- Without message patterns the problems are those of the analysis and of the rules. -/
theorem Problem.perm_all {settings : DiagnosticsSettings} (hallowed : settings.allowedPatterns = [])
    (hignored : settings.ignoredPatterns = []) (origin : Document) (related : List Document) :
    (Problem.all settings origin related).Perm
      (origin.contents.diagnostics.map (Problem.ofDiagnostic origin) ++
        Rule.problems settings origin related) := by
  have hkeeps : ∀ p : Problem, (Filter.ofSettings settings).keeps p.message = true := by
    intro p
    simp [Filter.keeps, Filter.ofSettings, hallowed, hignored]
  unfold Problem.all Problem.sorted
  dsimp only
  rw [List.filter_eq_self.2 fun p _ => hkeeps p]
  exact List.mergeSort_perm _ _

/-- What a document holds was read from its text. -/
theorem Document.Settled.eq_analyze {d : Document} (h : d.Settled) {s : Latex.Structure}
    (hlatex : d.contents = .latex s) : s = Latex.analyze d.text := by
  have hcontents := h.contents
  rw [hlatex] at hcontents
  cases hlanguage : d.language <;> rw [hlanguage] at hcontents <;> cases hcontents
  rfl

/-- Under a code of the rules only they report. -/
theorem Problem.filter_all {settings : DiagnosticsSettings}
    (hallowed : settings.allowedPatterns = []) (hignored : settings.ignoredPatterns = [])
    {origin : Document} (horigin : origin.Settled) {s : Latex.Structure}
    (hlatex : origin.contents = .latex s) {related : List Document} {code : String}
    (hcode : some code ∉ [some "TEX001", some "TEX002", some "TEX003", some "TEX004"])
    {range : Range} {expected : Option Problem}
    (h : (Rule.problems settings origin related).filter (Problem.reports code range) =
      expected.toList) :
    (Problem.all settings origin related).filter (Problem.reports code range) =
      expected.toList := by
  have hown : (origin.contents.diagnostics.map (Problem.ofDiagnostic origin)).filter
      (Problem.reports code range) = [] := by
    refine List.filter_eq_nil_iff.2 fun p hp hreports => hcode ?_
    obtain ⟨d, hd, rfl⟩ := List.mem_map.1 hp
    rw [hlatex, horigin.eq_analyze hlatex] at hd
    rw [← (Problem.reports_iff.1 hreports).1]
    exact Latex.code_mem_of_mem_diagnostics hd
  have hperm := (Problem.perm_all hallowed hignored origin related).filter
    (Problem.reports code range)
  rw [List.filter_append, hown, List.nil_append, h] at hperm
  cases expected with
  | none => exact List.perm_nil.1 hperm
  | some p => exact List.perm_singleton.1 hperm

/-! ## The problems, a rename and the completions of a label -/

section Label

variable {settings : DiagnosticsSettings} {origin : Document} {s : Latex.Structure} {symbol : Symbol}
  (horigin : origin.Settled) (hlatex : origin.contents = .latex s)
  (hsymbol : symbol ∈ s.labelDefinitions ++ s.labelReferences)

include horigin hlatex hsymbol

/-- A range belongs to one label of a text. -/
theorem Rename.eq_of_range_eq_latex {t : Symbol} (ht : t ∈ s.labelDefinitions ++ s.labelReferences)
    (h : origin.range t.span = origin.range symbol.span) : t = symbol := by
  refine eq_of_range_eq horigin ?_ ?_ h <;> rw [hlatex] <;> assumption

/-- A label is reported undefined where it is referred to and there is no definition. -/
theorem Problem.filter_undefined {severity : Severity} (hallowed : settings.allowedPatterns = [])
    (hignored : settings.ignoredPatterns = [])
    (hseverity : settings.undefinedLabels.severity? = some severity) (scope : List Document) :
    (Problem.all settings origin scope).filter
        (Problem.reports "REF001" (origin.range symbol.span)) =
      if symbol ∈ s.labelReferences ∧ (labelsNamed symbol.name scope).length = 0 then
        [⟨origin.range symbol.span, severity, some "REF001",
          "Undefined label '" ++ symbol.name ++ "'"⟩]
      else [] := by
  have hnodup : s.labelReferences.Nodup := by
    rw [horigin.eq_analyze hlatex]
    exact nodup_of_increasing (Latex.keys_increasing (.ofString origin.text)
      Latex.Event.reference? fun e s hs => by cases e <;> cases hs; rfl)
  have hunique : ∀ t ∈ s.labelReferences, origin.range t.span = origin.range symbol.span →
      t = symbol := fun t ht =>
    Rename.eq_of_range_eq_latex horigin hlatex hsymbol (List.mem_append_right _ ht)
  have hmem : symbol.name ∈ Rule.labelNames scope ↔
      ¬ (labelsNamed symbol.name scope).length = 0 := by
    rw [← Rule.count_labelNames, ← List.count_pos_iff]
    omega
  have hrule : (Rule.problems settings origin scope).filter
      (Problem.reports "REF001" (origin.range symbol.span)) =
        (if symbol ∈ s.labelReferences ∧ (labelsNamed symbol.name scope).length = 0 then
          some ⟨origin.range symbol.span, severity, some "REF001",
            "Undefined label '" ++ symbol.name ++ "'"⟩ else none : Option Problem).toList := by
    unfold Rule.problems
    rw [hlatex]
    simp only [Structure.latex?, List.filter_append]
    rw [Rule.reports_violations hseverity hnodup hunique,
      Rule.reports_violations_ne (show "REF002" ≠ "REF001" by decide),
      Rule.reports_violations_ne (show "REF003" ≠ "REF001" by decide), List.append_nil,
      List.append_nil]
    unfold Rule.undefinedLabel?
    by_cases href : symbol ∈ s.labelReferences
    · by_cases hnone : (labelsNamed symbol.name scope).length = 0
      · simp [href, hnone, hmem]
      · simp [href, hnone, hmem]
    · simp [href]
  rw [Problem.filter_all hallowed hignored horigin hlatex (by decide) hrule]
  split <;> rfl

/-- A label is reported with the number of its definitions where one of several stands. -/
theorem Problem.filter_duplicate {severity : Severity} (hallowed : settings.allowedPatterns = [])
    (hignored : settings.ignoredPatterns = [])
    (hseverity : settings.duplicateLabels.severity? = some severity) (scope : List Document) :
    (Problem.all settings origin scope).filter
        (Problem.reports "REF003" (origin.range symbol.span)) =
      if symbol ∈ s.labelDefinitions ∧ 1 < (labelsNamed symbol.name scope).length then
        [⟨origin.range symbol.span, severity, some "REF003", "Label '" ++ symbol.name ++
          "' is defined " ++ toString (labelsNamed symbol.name scope).length ++ " times"⟩]
      else [] := by
  have hnodup : s.labelDefinitions.Nodup := by
    rw [horigin.eq_analyze hlatex]
    exact nodup_of_increasing (Latex.keys_increasing (.ofString origin.text)
      Latex.Event.label? fun e s hs => by cases e <;> cases hs; rfl)
  have hunique : ∀ t ∈ s.labelDefinitions, origin.range t.span = origin.range symbol.span →
      t = symbol := fun t ht =>
    Rename.eq_of_range_eq_latex horigin hlatex hsymbol (List.mem_append_left _ ht)
  have hrule : (Rule.problems settings origin scope).filter
      (Problem.reports "REF003" (origin.range symbol.span)) =
        (if symbol ∈ s.labelDefinitions ∧ 1 < (labelsNamed symbol.name scope).length then
          some ⟨origin.range symbol.span, severity, some "REF003", "Label '" ++ symbol.name ++
            "' is defined " ++ toString (labelsNamed symbol.name scope).length ++ " times"⟩
          else none : Option Problem).toList := by
    unfold Rule.problems
    rw [hlatex]
    simp only [Structure.latex?, List.filter_append]
    rw [Rule.reports_violations_ne (show "REF001" ≠ "REF003" by decide),
      Rule.reports_violations_ne (show "REF002" ≠ "REF003" by decide), List.nil_append,
      List.nil_append, Rule.reports_violations hseverity hnodup hunique]
    unfold Rule.duplicateLabel?
    rw [Rule.count_labelNames]
    by_cases hdef : symbol ∈ s.labelDefinitions
    · by_cases hmany : 1 < (labelsNamed symbol.name scope).length
      · simp [hdef, hmany]
      · simp [hdef, hmany]
    · simp [hdef]
  rw [Problem.filter_all hallowed hignored horigin hlatex (by decide) hrule]
  split <;> rfl

/-- A rename from a label is refused for as many definitions as there are, or it succeeds. -/
theorem Rename.run?_label {p : Position} {offset : Nat} {newName : String}
    (hoffset : origin.offset? p = some offset) (htouches : symbol.span.touches offset = true)
    (hvalid : isValidName newName = true) (scope : List Document) :
    run? origin scope p newName =
      if 1 < (labelsNamed symbol.name scope).length then
        .error (.ambiguousSymbol symbol.name (labelsNamed symbol.name scope).length)
      else .ok ⟨symbol.name, newName, changesIn .label symbol.name newName scope⟩ := by
  have hat : symbolAt? origin p = .ok (symbol, .label) := by
    refine symbolAt?_touched horigin ?_ hoffset htouches
    rw [hlatex]
    exact hsymbol
  unfold run?
  rw [hat, ← definitionCount_label]
  by_cases hmany : 1 < definitionCount .label symbol.name scope <;>
    simp [hvalid, hmany, bind, Except.bind, pure, Except.pure, throw, throwThe,
      MonadExceptOf.throw]

end Label

/-- Where a label may be written and nothing is typed, a name is offered once if it is defined. -/
theorem Completion.count_offers_labels (matcher : Matcher) {origin : Document} {p : Position}
    {offset : Nat} (hlanguage : origin.language = .latex) (hoffset : origin.offset? p = some offset)
    (hcontext : Context.ofLine? (lineBefore origin p.line offset) = some ⟨.label, []⟩)
    (name : String) (scope : List Document) :
    ((offers matcher origin scope p).map (·.candidate.name)).count name =
      if 0 < (labelsNamed name scope).length then 1 else 0 := by
  have haccepts : ∀ candidate, matcher.accepts candidate [] = true := by
    intro candidate
    cases matcher with
    | exact => rfl
    | ignoreCase => simp [Matcher.accepts, takeBytes?, sameLetters]
  rw [← count_firstByName_labels]
  unfold offers
  simp only [hlanguage, hoffset, hcontext, ne_eq, not_true_eq_false, if_false, haccepts,
    List.filter_true, List.map_map]
  rfl

namespace Workspace

variable {w : Workspace} {settings : Settings} {uri : Url} {origin : Document} {s : Latex.Structure}
  {symbol : Symbol} {undefined duplicate : Severity}

/-- **Problems, completions and renames count the definitions of a label alike.** -/
theorem labels_agree (reached : w.Reached) (horigin : w.get? uri = some origin)
    (hlatex : origin.contents = .latex s)
    (hsymbol : symbol ∈ s.labelDefinitions ++ s.labelReferences)
    (hundefined : settings.diagnostics.undefinedLabels.severity? = some undefined)
    (hduplicate : settings.diagnostics.duplicateLabels.severity? = some duplicate)
    (hallowed : settings.diagnostics.allowedPatterns = [])
    (hignored : settings.diagnostics.ignoredPatterns = []) :
    ∃ scope n, w.scope? uri = .ok scope ∧ n = (labelsNamed symbol.name scope).length ∧
      (∃ problems, (w.problems? uri >>= Request.answer? settings) = .ok (.problems problems) ∧
        problems.filter (Problem.reports "REF001" (origin.range symbol.span)) =
          (if symbol ∈ s.labelReferences ∧ n = 0 then
            [⟨origin.range symbol.span, undefined, some "REF001",
              "Undefined label '" ++ symbol.name ++ "'"⟩] else []) ∧
        problems.filter (Problem.reports "REF003" (origin.range symbol.span)) =
          (if symbol ∈ s.labelDefinitions ∧ 1 < n then
            [⟨origin.range symbol.span, duplicate, some "REF003",
              "Label '" ++ symbol.name ++ "' is defined " ++ toString n ++ " times"⟩] else [])) ∧
      (∀ p offset, origin.offset? p = some offset →
        Completion.Context.ofLine? (Completion.lineBefore origin p.line offset) =
          some ⟨.label, []⟩ →
        ∃ offers, (w.completion? uri p >>= Request.answer? settings) = .ok (.completion offers) ∧
          (offers.map (·.candidate.name)).count symbol.name = if 0 < n then 1 else 0) ∧
      ∀ p offset newName, origin.offset? p = some offset → symbol.span.touches offset = true →
        Rename.isValidName newName = true →
        (1 < n → (w.rename? uri p newName >>= Request.answer? settings) =
          .error (.ambiguousSymbol symbol.name n)) ∧
        (n ≤ 1 → ∃ r, (w.rename? uri p newName >>= Request.answer? settings) =
          .ok (.rename r) ∧ r.oldName = symbol.name ∧ r.newName = newName) := by
  have hsettled := reached.sound.settled origin (mem_of_get? horigin)
  have hscope := scope?_of_get? horigin
  have hfound := origin?_traverse horigin w.options.followParents
  have hlanguage : origin.language = .latex := by
    have hcontents := hsettled.contents
    rw [hlatex] at hcontents
    cases hlanguage : origin.language with
    | latex => rfl
    | bibtex => rw [hlanguage] at hcontents; cases hcontents
  refine ⟨_, _, hscope, rfl, ⟨_, ?_, Problem.filter_undefined hsettled hlatex hsymbol hallowed
    hignored hundefined _, Problem.filter_duplicate hsettled hlatex hsymbol hallowed hignored
    hduplicate _⟩, fun p offset hoffset hcontext => ?_,
    fun p offset newName hoffset htouches hvalid => ?_⟩
  · rw [answer?_problems, hscope]
    show (origin? uri _ >>= _) = _
    rw [hfound]
    rfl
  · refine ⟨_, ?_, Completion.count_offers_labels settings.matcher hlanguage hoffset hcontext _ _⟩
    rw [answer?_completion, hscope]
    show (origin? uri _ >>= _) = _
    rw [hfound]
    rfl
  · have hanswer : (w.rename? uri p newName >>= Request.answer? settings) = Response.rename <$>
        Rename.run? origin (w.graph.traverse w.options.followParents uri) p newName := by
      rw [answer?_rename, hscope]
      show (origin? uri _ >>= _) = _
      rw [hfound]
      rfl
    rw [hanswer, Rename.run?_label hsettled hlatex hsymbol hoffset htouches hvalid]
    refine ⟨fun hmany => by rw [if_pos hmany]; rfl, fun hfew => ?_⟩
    rw [if_neg (Nat.not_lt.2 hfew)]
    exact ⟨_, rfl, rfl, rfl⟩

namespace Example

/-- A document and the part that it includes, which define one label twice. -/
def front : Document := ((Document.create ⟨"file", some ⟨"", "", none⟩, "/front.tex", none, none⟩
  .latex).withText "\\label{x}\\input{back}\\ref{y}").analyzed

def back : Document := ((Document.create ⟨"file", some ⟨"", "", none⟩, "/back.tex", none, none⟩
  .latex).withText "\\label{x}").analyzed

def binder : Workspace := ((Workspace.empty ⟨none, false⟩).add front).add back

theorem reached_binder : binder.Reached :=
  ((Reached.empty _).add (.analyzed (.withText _ (.created _ _)))).add
    (.analyzed (.withText _ (.created _ _)))

theorem scope_front : binder.scope? front.uri = .ok [front, back] := by
  have hget : binder.get? front.uri = some front := by decide +kernel
  have hwalk : binder.graph.visitWithin false 4 [] [front.uri] = some [front, back] := by
    decide +kernel
  exact scope?_of_within hget hwalk

end Example

theorem labels_agree_binder :
    (Example.binder.Reached ∧ Example.binder.get? Example.front.uri = some Example.front ∧
      Example.front.contents = .latex (Latex.analyze Example.front.text) ∧
      ⟨"x", ⟨7, 8⟩⟩ ∈ (Latex.analyze Example.front.text).labelDefinitions ++
        (Latex.analyze Example.front.text).labelReferences ∧
      Settings.default.diagnostics.undefinedLabels.severity? = some .warning ∧
      Settings.default.diagnostics.duplicateLabels.severity? = some .error ∧
      Settings.default.diagnostics.allowedPatterns = [] ∧
      Settings.default.diagnostics.ignoredPatterns = [] ∧
      Example.front.offset? ⟨0, 26⟩ = some 26 ∧ Completion.Context.ofLine?
        (Completion.lineBefore Example.front 0 26) = some ⟨.label, []⟩) ∧
    (∃ problems, (Example.binder.problems? Example.front.uri >>=
        Request.answer? Settings.default) = .ok (.problems problems) ∧
      problems.filter (Problem.reports "REF003" ⟨⟨0, 7⟩, ⟨0, 8⟩⟩) =
        [⟨⟨⟨0, 7⟩, ⟨0, 8⟩⟩, .error, some "REF003", "Label 'x' is defined 2 times"⟩]) ∧
    (∃ offers, (Example.binder.completion? Example.front.uri ⟨0, 26⟩ >>=
        Request.answer? Settings.default) = .ok (.completion offers) ∧
      (offers.map (·.candidate.name)).count "x" = 1) ∧
    (Example.binder.rename? Example.front.uri ⟨0, 8⟩ "z" >>= Request.answer? Settings.default) =
      .error (.ambiguousSymbol "x" 2) := by
  have hget : Example.binder.get? Example.front.uri = some Example.front := by decide +kernel
  have hsymbol : ⟨"x", ⟨7, 8⟩⟩ ∈ (Latex.analyze Example.front.text).labelDefinitions ++
      (Latex.analyze Example.front.text).labelReferences := by decide +kernel
  have hoffset : Example.front.offset? ⟨0, 26⟩ = some 26 := by decide +kernel
  have hcontext : Completion.Context.ofLine? (Completion.lineBefore Example.front 0 26) =
      some ⟨.label, []⟩ := by
    have hline : Completion.lineBefore Example.front 0 26 =
        "\\label\x7bx\x7d\\input\x7bback\x7d\\ref\x7b".toList := by decide +kernel
    rw [hline]
    decide +kernel
  obtain ⟨scope, n, hscope, rfl, ⟨problems, hproblems, -, hduplicate⟩, hcompletion, hrename⟩ :=
    labels_agree Example.reached_binder hget rfl hsymbol
      (show Settings.default.diagnostics.undefinedLabels.severity? = _ from rfl) rfl rfl rfl
  rw [Example.scope_front] at hscope
  cases hscope
  have hcount : (labelsNamed "x" [Example.front, Example.back]).length = 2 := by decide +kernel
  obtain ⟨offers, hoffers, honce⟩ := hcompletion ⟨0, 26⟩ 26 hoffset hcontext
  have hambiguous := (hrename ⟨0, 8⟩ 8 "z" (by decide +kernel) (by decide) (by decide)).1
  rw [hcount] at hduplicate honce hambiguous
  refine ⟨⟨Example.reached_binder, hget, rfl, hsymbol, rfl, rfl, rfl, rfl, hoffset, hcontext⟩,
    ⟨problems, hproblems, ?_⟩, ⟨offers, hoffers, honce⟩, hambiguous (by decide)⟩
  have hrange : Example.front.range ⟨7, 8⟩ = ⟨⟨0, 7⟩, ⟨0, 8⟩⟩ := by decide +kernel
  have hdefined : ⟨"x", ⟨7, 8⟩⟩ ∈ (Latex.analyze Example.front.text).labelDefinitions := by
    decide +kernel
  rw [hrange, if_pos ⟨hdefined, by decide⟩] at hduplicate
  exact hduplicate

end Workspace

end Manuscript

/-
# Manuscript.Proofs.Bytewise.Answer -- nothing that is asked goes wrong

The answers to all questions with every access checked, and the main result of these
modules: the analysis of a text, the conversions between offsets and places, and every
answer about a workspace are what the library says they are, so no access on the way
fails and every loop comes to its end (`safe_of_reached`).

What an answer needs of a document is that its line index is that of its text.  Spans
need not be spans of the text: a diagnostic may end inside a character, and every offset
has a place.  The body of an environment is measured only where an offset is inside it,
so the subtraction does not go below zero.
-/
import Manuscript.Proofs.Bytewise.Block
import Manuscript.Proofs.Bytewise.Completion
import Manuscript.Proofs.Workspace.Scope

namespace Manuscript.Bytewise

set_option autoImplicit false

open Text

/-- The structure of a text, every access checked. -/
def analyze (language : Language) (text : String) : Checked Structure :=
  match language with
  | .latex => .latex <$> analyzeLatex text
  | .bibtex => .bibtex <$> analyzeBibtex text

theorem analyze_eq (language : Language) (text : String) :
    analyze language text = .ok (Manuscript.analyze language text) := by
  cases language with
  | latex =>
      rw [analyze, analyzeLatex_eq]
      rfl
  | bibtex =>
      rw [analyze, analyzeBibtex_eq]
      rfl

/-! ## Folds -/

section

open Latex (Section Environment)

/-- The environment with the shortest body, the first one of those, and the length of its body. -/
def innermost? : List Environment → Checked (Option (Environment × Nat))
  | [] => pure none
  | e :: es => do
      let length ← minus e.closing.start e.opening.stop
      match ← innermost? es with
      | none => pure (some (e, length))
      | some (f, shortest) => pure (some (if shortest < length then (f, shortest) else (e, length)))

def enclosing? (environments : List Environment) (i : Nat) :
    Checked (Option (Environment × Nat)) :=
  innermost? (environments.filter fun e => e.opening.stop ≤ i && i < e.closing.start)

variable (d : Document) (environments : List Environment)

def bounded (i line : Nat) : Checked Nat := do
  match ← enclosing? environments i with
  | some (e, _) => pure (min line ((← lineOf d e.closing.start) - 1))
  | none => pure line

def foldOfSection (line : Nat) (s : Section) : Checked Fold := do
  pure ⟨← lineOf d s.span.start, ← bounded d environments s.span.start line⟩

/-- The folds of sections, with the stack of the open ones. -/
def foldsFrom : List Section → List Section → Checked (List Fold)
  | opened, [] => do
      let last ← lastLine d
      opened.reverse.mapM (foldOfSection d environments last)
  | opened, s :: ss => do
      let line ← lineOf d s.span.start
      let closed ← (opened.takeWhile fun o => s.level ≤ o.level).mapM
        (foldOfSection d environments (line - 1))
      let later ← foldsFrom (s :: opened.dropWhile fun o => s.level ≤ o.level) ss
      pure (closed ++ later)

def foldOfEnvironment (e : Environment) : Checked Fold := do
  pure ⟨← lineOf d e.opening.start, ← lineOf d e.closing.start⟩

def foldOfEntry (e : Bibtex.Entry) : Checked Fold := do
  pure ⟨← lineOf d e.span.start, ← lineOf d (e.span.stop - 1)⟩

def foldsOf : Structure → Checked (List Fold)
  | .latex s => do
      let sections ← foldsFrom d s.environments [] s.sections
      let environments ← s.environments.mapM (foldOfEnvironment d)
      pure (sections ++ environments)
  | .bibtex s => s.entries.mapM (foldOfEntry d)

def folds : Checked (List Fold) := do
  pure (((← foldsOf d d.contents).filter fun f => f.first < f.last).mergeSort Fold.atOrBefore)

end

section

open Latex (Section Environment)

theorem innermost?_eq {environments : List Environment}
    (h : ∀ e ∈ environments, e.opening.stop ≤ e.closing.start) :
    innermost? environments =
      .ok ((Fold.innermost? environments).map fun e => (e, Fold.bodyLength e)) := by
  induction environments with
  | nil => rfl
  | cons e es ih =>
      rw [innermost?, minus_eq_ok (h e List.mem_cons_self),
        ih fun f hf => h f (List.mem_cons_of_mem e hf), Fold.innermost?]
      cases Fold.innermost? es with
      | none => rfl
      | some f =>
          have hbody : e.closing.start - e.opening.stop = Fold.bodyLength e := rfl
          by_cases hlt : Fold.bodyLength f < Fold.bodyLength e <;> simp [hbody, hlt]

theorem enclosing?_eq (environments : List Environment) (i : Nat) :
    enclosing? environments i =
      .ok ((Fold.enclosing? environments i).map fun e => (e, Fold.bodyLength e)) := by
  refine innermost?_eq fun e he => ?_
  obtain ⟨hstart, hstop⟩ := Bool.and_eq_true_iff.1 (List.mem_filter.1 he).2
  exact Nat.le_trans (of_decide_eq_true hstart) (Nat.le_of_lt (of_decide_eq_true hstop))

variable {d : Document} (h : d.Sound)

include h

theorem bounded_eq (environments : List Environment) (i line : Nat) :
    bounded d environments i line = .ok (Fold.bounded d environments i line) := by
  rw [bounded, enclosing?_eq, ok_bind, Fold.bounded]
  cases Fold.enclosing? environments i with
  | none => rfl
  | some e => simp only [Option.map_some, lineOf_eq h, ok_bind, pure_eq_ok]

theorem foldOfSection_eq (environments : List Environment) (line : Nat) (s : Section) :
    foldOfSection d environments line s = .ok (Fold.ofSection d environments line s) := by
  rw [foldOfSection, lineOf_eq h, bounded_eq h]
  rfl

theorem foldsFrom_eq (environments : List Environment) (opened sections : List Section) :
    foldsFrom d environments opened sections =
      .ok (Fold.sectionsFrom d environments opened sections) := by
  have hmap (line : Nat) (ss : List Section) :
      ss.mapM (foldOfSection d environments line) =
        .ok (ss.map (Fold.ofSection d environments line)) :=
    mapM_eq_ok fun s _ => foldOfSection_eq h environments line s
  induction sections generalizing opened with
  | nil =>
      rw [foldsFrom, lastLine_eq, ok_bind, hmap]
      rfl
  | cons s ss ih =>
      rw [foldsFrom, lineOf_eq h, ok_bind, hmap, ok_bind, ih]
      rfl

theorem folds_eq : folds d = .ok (Fold.all d) := by
  have hcontents : foldsOf d d.contents = .ok (Fold.ofContents d) := by
    rw [Fold.ofContents]
    cases d.contents with
    | latex s =>
        have henvironments : s.environments.mapM (foldOfEnvironment d) =
            .ok (s.environments.map (Fold.ofEnvironment d)) := mapM_eq_ok fun e _ => by
          rw [foldOfEnvironment, lineOf_eq h, lineOf_eq h]
          rfl
        rw [foldsOf, foldsFrom_eq h, ok_bind, henvironments]
        rfl
    | bibtex s =>
        refine mapM_eq_ok fun e _ => ?_
        rw [foldOfEntry, lineOf_eq h, lineOf_eq h]
        rfl
  rw [folds, hcontents]
  rfl

end

/-! ## Problems and links -/

section

variable (d : Document)

def problemOf (diagnostic : Diagnostic) : Checked Problem := do
  pure ⟨← rangeOf d diagnostic.span, diagnostic.severity, diagnostic.code, diagnostic.message⟩

/-- One problem for each symbol that violates a rule. -/
def violations (severity : RuleSeverity) (code : String) (symbols : List Symbol)
    (message? : String → Option String) : Checked (List Problem) :=
  match severity.severity? with
  | none => pure []
  | some severity =>
      (symbols.filterMap fun symbol => (message? symbol.name).map (symbol, ·)).mapM fun violation =>
        do pure ⟨← rangeOf d violation.1.span, severity, some code, violation.2⟩

def ruleProblems (settings : DiagnosticsSettings) (related : List Document) :
    Checked (List Problem) :=
  match d.contents.latex? with
  | none => pure []
  | some s => do
      let labels := Rule.labelNames related
      let keys := Rule.citationKeys? related
      let labelless ← violations d settings.undefinedLabels "REF001" s.labelReferences
        (Rule.undefinedLabel? labels)
      let keyless ← violations d settings.undefinedCitations "REF002" s.citations
        (Rule.undefinedCitation? keys)
      let doubled ← violations d settings.duplicateLabels "REF003" s.labelDefinitions
        (Rule.duplicateLabel? labels)
      pure (labelless ++ keyless ++ doubled)

/-- The problems to show in a document. -/
def problems (settings : DiagnosticsSettings) (related : List Document) :
    Checked (List Problem) := do
  let own ← d.contents.diagnostics.mapM (problemOf d)
  let rules ← ruleProblems d settings related
  pure (Problem.sorted ((own ++ rules).filter fun p =>
    (Filter.ofSettings settings).keeps p.message))

def links (w : Workspace) : Checked (List Link) :=
  match d.contents.latex? with
  | some s => s.includes.mapM fun i => do pure ⟨← rangeOf d i.span, w.resolve? d.uri i⟩
  | none => pure []

end

section

variable {d : Document} (h : d.Sound)

include h

theorem violations_eq (severity : RuleSeverity) (code : String) (symbols : List Symbol)
    (message? : String → Option String) :
    violations d severity code symbols message? =
      .ok (Rule.violations d severity code symbols message?) := by
  rw [violations, Rule.violations]
  cases severity.severity? with
  | none => rfl
  | some severity =>
      dsimp only
      rw [mapM_eq_ok (g := fun violation => ⟨d.range violation.1.span, severity, some code,
        violation.2⟩) fun violation _ => by rw [rangeOf_eq h]; rfl]
      simp [List.map_filterMap, Function.comp_def]

theorem ruleProblems_eq (settings : DiagnosticsSettings) (related : List Document) :
    ruleProblems d settings related = .ok (Rule.problems settings d related) := by
  rw [ruleProblems, Rule.problems]
  cases d.contents.latex? with
  | none => rfl
  | some s => simp only [violations_eq h, ok_bind, pure_eq_ok]

theorem problems_eq (settings : DiagnosticsSettings) (related : List Document) :
    problems d settings related = .ok (Problem.all settings d related) := by
  have hown : d.contents.diagnostics.mapM (problemOf d) =
      .ok (d.contents.diagnostics.map (Problem.ofDiagnostic d)) := mapM_eq_ok fun diagnostic _ => by
    rw [problemOf, rangeOf_eq h]
    rfl
  rw [problems, hown, ok_bind, ruleProblems_eq h]
  rfl

theorem links_eq (w : Workspace) : links d w = .ok (Link.all w d) := by
  rw [links, Link.all]
  cases d.contents.latex? with
  | none => rfl
  | some s =>
      refine mapM_eq_ok fun i _ => ?_
      rw [rangeOf_eq h]
      rfl

end

/-! ## Renames -/

section

open Rename (target? named occurrences)

/-- The symbol under the cursor. -/
def symbolAt? (origin : Document) (p : Position) : Checked (Except Error (Symbol × NameSort)) := do
  match (← offsetOf origin p) >>= target? origin.contents with
  | some found => pure (.ok found)
  | none => pure (.error (.symbolNotFound p))

def edits (sort : NameSort) (oldName newName : String) (d : Document) : Checked (List Edit) :=
  let spans := (named oldName (occurrences sort d.contents)).map Symbol.span
  (spans.mergeSort fun a b => a.start ≤ b.start).mapM fun span => do
    pure ⟨← rangeOf d span, newName⟩

def changesIn (sort : NameSort) (oldName newName : String) (related : List Document) :
    Checked (List (Url × List Edit)) := do
  let changes ← related.mapM fun d => do pure (d.uri, ← edits sort oldName newName d)
  pure ((changes.filter fun change => change.2 ≠ []).foldl Rename.putChange [])

/-- The rename of the symbol at a place of the origin in the related documents. -/
def rename? (origin : Document) (related : List Document) (p : Position) (newName : String) :
    Checked (Except Error Rename) := do
  match ← symbolAt? origin p with
  | .error e => pure (.error e)
  | .ok (symbol, sort) =>
      let count := Rename.definitionCount sort symbol.name related
      if !Rename.isValidName newName then pure (.error (.invalidName newName))
      else if 1 < count then pure (.error (.ambiguousSymbol symbol.name count))
      else do
        let changes ← changesIn sort symbol.name newName related
        pure (.ok ⟨symbol.name, newName, changes⟩)

/-- The range and the name that a rename at a place would replace. -/
def prepare? (origin : Document) (p : Position) : Checked (Except Error (Range × String)) := do
  match ← symbolAt? origin p with
  | .error e => pure (.error e)
  | .ok (symbol, _) => do pure (.ok (← rangeOf origin symbol.span, symbol.name))

end

section

variable {origin : Document} (h : origin.Sound)

theorem edits_eq (h : origin.Sound) (sort : NameSort) (oldName newName : String) :
    edits sort oldName newName origin = .ok (Rename.edits sort oldName newName origin) := by
  refine mapM_eq_ok fun span _ => ?_
  rw [rangeOf_eq h]
  rfl

theorem changesIn_eq {related : List Document} (h : ∀ d ∈ related, d.Sound) (sort : NameSort)
    (oldName newName : String) :
    changesIn sort oldName newName related =
      .ok (Rename.changesIn sort oldName newName related) := by
  have hedits : (related.mapM fun d => do pure (d.uri, ← edits sort oldName newName d)) =
      (.ok (related.map fun d => (d.uri, Rename.edits sort oldName newName d)) :
        Checked (List (Url × List Edit))) := mapM_eq_ok fun d hd => by
    rw [edits_eq (h d hd)]
    rfl
  rw [changesIn, hedits]
  rfl

include h

theorem symbolAt?_eq (p : Position) : symbolAt? origin p = .ok (Rename.symbolAt? origin p) := by
  rw [symbolAt?, offsetOf_eq h, ok_bind, Rename.symbolAt?]
  cases origin.offset? p >>= Rename.target? origin.contents <;> rfl

theorem rename?_eq {related : List Document} (hrelated : ∀ d ∈ related, d.Sound) (p : Position)
    (newName : String) :
    rename? origin related p newName = .ok (Rename.run? origin related p newName) := by
  rw [rename?, symbolAt?_eq h, ok_bind, Rename.run?]
  cases Rename.symbolAt? origin p with
  | error e => rfl
  | ok found =>
      obtain ⟨symbol, sort⟩ := found
      simp only [changesIn_eq hrelated]
      cases Rename.isValidName newName with
      | false => rfl
      | true =>
          by_cases hcount : 1 < Rename.definitionCount sort symbol.name related
          · simp [hcount]
            rfl
          · simp [hcount]
            rfl

theorem prepare?_eq (p : Position) : prepare? origin p = .ok (Rename.prepare? origin p) := by
  rw [prepare?, symbolAt?_eq h, ok_bind, Rename.prepare?]
  cases Rename.symbolAt? origin p with
  | error e => rfl
  | ok found =>
      simp only [rangeOf_eq h]
      rfl

end

/-! ## Requests -/

/-- The answer to a request, every access checked. -/
def answer? (settings : Settings) : Request → Checked (Except Error Response)
  | .completion uri related p =>
      match origin? uri related with
      | .ok origin => do pure (.ok (.completion (← offers settings.matcher origin related p)))
      | .error e => pure (.error e)
  | .problems uri related =>
      match origin? uri related with
      | .ok origin => do pure (.ok (.problems (← problems origin settings.diagnostics related)))
      | .error e => pure (.error e)
  | .folding d => do pure (.ok (.folding (← folds d)))
  | .links w uri =>
      match w.get? uri with
      | some d => do pure (.ok (.links (← links d w)))
      | none => pure (.error (.documentNotFound uri))
  | .rename uri related p newName =>
      match origin? uri related with
      | .ok origin => do pure (Response.rename <$> (← rename? origin related p newName))
      | .error e => pure (.error e)

/-- The documents that the answer to a request is about. -/
def documents : Request → List Document
  | .completion _ related _ => related
  | .problems _ related => related
  | .folding d => [d]
  | .links w _ => w.documents
  | .rename _ related _ _ => related

theorem mem_of_origin? {uri : Url} {related : List Document} {origin : Document}
    (h : origin? uri related = .ok origin) : origin ∈ related := by
  rw [origin?] at h
  split at h
  · rename_i d hd
    cases h
    exact List.mem_of_find?_eq_some hd
  · cases h

/-- **The checked answer to a request is its answer.** -/
theorem answer?_eq (settings : Settings) {r : Request} (h : ∀ d ∈ documents r, d.Sound) :
    answer? settings r = .ok (r.answer? settings) := by
  cases r with
  | completion uri related p =>
      rw [answer?, Request.answer?]
      cases horigin : origin? uri related with
      | error e => rfl
      | ok origin =>
          simp only [offers_eq settings.matcher (h origin (mem_of_origin? horigin)), ok_bind]
          rfl
  | problems uri related =>
      rw [answer?, Request.answer?]
      cases horigin : origin? uri related with
      | error e => rfl
      | ok origin =>
          simp only [problems_eq (h origin (mem_of_origin? horigin)), ok_bind]
          rfl
  | folding d =>
      rw [answer?, folds_eq (h d List.mem_cons_self)]
      rfl
  | links w uri =>
      rw [answer?, Request.answer?]
      cases hd : w.get? uri with
      | none => rfl
      | some d =>
          simp only [links_eq (h d (Workspace.mem_of_get? hd)), ok_bind]
          rfl
  | rename uri related p newName =>
      rw [answer?, Request.answer?]
      cases horigin : origin? uri related with
      | error e => rfl
      | ok origin =>
          have hrelated : ∀ d ∈ related, d.Sound := h
          simp only [rename?_eq (hrelated origin (mem_of_origin? horigin)) hrelated, ok_bind]
          rfl

/-! ## Workspaces -/

/-- The answer to a request that a workspace makes, or why it makes none. -/
def ask (settings : Settings) : Except Error Request → Checked (Except Error Response)
  | .ok r => answer? settings r
  | .error e => pure (.error e)

/-- The range and the name that a rename at a place would replace. -/
def prepareRename? (w : Workspace) (uri : Url) (p : Position) :
    Checked (Except Error (Range × String)) :=
  match w.scope? uri >>= origin? uri with
  | .ok origin => prepare? origin p
  | .error e => pure (.error e)

theorem ask_eq (settings : Settings) {request : Except Error Request}
    (h : ∀ r, request = .ok r → ∀ d ∈ documents r, d.Sound) :
    ask settings request = .ok (request >>= Request.answer? settings) := by
  cases request with
  | error e => rfl
  | ok r => exact answer?_eq settings (h r rfl)

/-- A request about a scope is about documents that describe their texts. -/
theorem ask_scope {w : Workspace} (sound : w.Sound) (settings : Settings) (uri : Url)
    {request : List Document → Request}
    (hrequest : ∀ related, documents (request related) = related) :
    ask settings (request <$> w.scope? uri) =
      .ok (request <$> w.scope? uri >>= Request.answer? settings) := by
  refine ask_eq settings fun r hr d hd => ?_
  cases hscope : w.scope? uri with
  | error e =>
      rw [hscope] at hr
      cases hr
  | ok related =>
      rw [hscope] at hr
      cases hr
      rw [hrequest] at hd
      exact ((sound.of_scope? hscope).2 d hd).2.2.toSound

/-- Whatever is read and asked, no access fails and every loop ends: the checked reading is the
answer of the library. -/
structure Safe (w : Workspace) : Prop where
  analysis : ∀ language text, analyze language text = .ok (Manuscript.analyze language text)
  /-- Every offset of every text has a place, past the end and inside characters too. -/
  place : ∀ text i, position text (.ofText text) i = .ok ((LineIndex.ofText text).position text i)
  offset : ∀ text p, offset text (.ofText text) p = .ok ((LineIndex.ofText text).offset? text p)
  completion : ∀ settings uri p, ask settings (w.completion? uri p) =
    .ok (w.completion? uri p >>= Request.answer? settings)
  problems : ∀ settings uri, ask settings (w.problems? uri) =
    .ok (w.problems? uri >>= Request.answer? settings)
  folding : ∀ settings uri, ask settings (w.folding? uri) =
    .ok (w.folding? uri >>= Request.answer? settings)
  links : ∀ settings uri, ask settings (w.links? uri) =
    .ok (w.links? uri >>= Request.answer? settings)
  rename : ∀ settings uri p newName, ask settings (w.rename? uri p newName) =
    .ok (w.rename? uri p newName >>= Request.answer? settings)
  prepareRename : ∀ uri p, prepareRename? w uri p = .ok (w.prepareRename? uri p)

/-- **Nothing that is asked of a workspace goes wrong.** -/
theorem safe_of_reached {w : Workspace} (h : w.Reached) : Safe w := by
  have sound := h.sound
  have hsound (d : Document) (hd : d ∈ w.documents) : d.Sound := (sound.settled d hd).toSound
  constructor
  case analysis => exact analyze_eq
  case place => exact position_eq
  case offset => exact offset_eq
  case completion =>
    intro settings uri p
    exact @ask_scope w sound settings uri (.completion uri · p) fun _ => rfl
  case problems =>
    intro settings uri
    exact @ask_scope w sound settings uri (.problems uri) fun _ => rfl
  case rename =>
    intro settings uri p newName
    exact @ask_scope w sound settings uri (.rename uri · p newName) fun _ => rfl
  case folding =>
    intro settings uri
    refine ask_eq settings fun r hr d hd => ?_
    cases hget : w.get? uri with
    | none => simp [Workspace.folding?, Workspace.find?, hget] at hr
    | some origin =>
        obtain rfl : .folding origin = r := by
          simpa [Workspace.folding?, Workspace.find?, hget] using hr
        obtain rfl := List.mem_singleton.1 hd
        exact hsound d (Workspace.mem_of_get? hget)
  case links =>
    intro settings uri
    refine ask_eq settings fun r hr d hd => ?_
    cases hget : w.get? uri with
    | none => simp [Workspace.links?, Workspace.find?, hget] at hr
    | some origin =>
        obtain rfl : .links w uri = r := by
          simpa [Workspace.links?, Workspace.find?, hget] using hr
        exact hsound d hd
  case prepareRename =>
    intro uri p
    rw [prepareRename?, Workspace.prepareRename?]
    cases hscope : w.scope? uri with
    | error e => rfl
    | ok related =>
        cases horigin : origin? uri related with
        | error e =>
            simp only [ok_bind, horigin]
            rfl
        | ok origin =>
            have hmem := (sound.of_scope? hscope).2 origin (mem_of_origin? horigin)
            simp only [ok_bind, horigin, prepare?_eq hmem.2.2.toSound]

namespace Example

/-- A citation that is being typed, behind a character of two bytes and one of two units. -/
def draft : Document :=
  ((Document.create ⟨"file", some ⟨"", "", none⟩, "/draft.tex", none, none⟩ .latex).withText
    "\\cite\x7bé𝒳").analyzed

def desk : Workspace := (Workspace.empty ⟨none, true⟩).add draft

theorem reached_desk : desk.Reached :=
  (Workspace.Reached.empty _).add (.analyzed (.withText _ (.created _ _)))

end Example

/-- Completion inside the surrogate pair of a character. -/
theorem safe_of_reached_desk : Example.desk.Reached ∧
    ask Settings.default (Example.desk.completion? Example.draft.uri ⟨0, 8⟩) =
      .ok (Example.desk.completion? Example.draft.uri ⟨0, 8⟩ >>=
        Request.answer? Settings.default) :=
  ⟨Example.reached_desk, (safe_of_reached Example.reached_desk).completion _ _ _⟩

end Manuscript.Bytewise

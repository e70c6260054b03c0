/-
# Manuscript.Proofs.Completion.Offers -- what is offered, and what choosing it does

The names of the offers at a place are those that the documents declare for the topic and
that go with what is typed, each once, in the order in which they are declared
(`map_firstByName`, `map_all`).  An offer is the first candidate of its name.

What is typed is the end of the line before the cursor, whichever pattern has found it
(`typed_suffix_of_ofLine?`).  The places of a line are cuts of the line, so the range of
an offer is what is typed, and choosing the offer puts its name there and leaves the rest
(`edited?_offer`).
-/
import Manuscript.Proofs.Completion.Context
import Manuscript.Proofs.Query.Order
import Manuscript.Proofs.Rename.Application
import Manuscript.Proofs.Text.Column
import Manuscript.Proofs.Workspace.Sources

namespace Manuscript

set_option autoImplicit false

open Text

namespace Completion

/-! ## Names -/

/-- What is kept is the first candidate of its name. -/
theorem find?_of_mem_firstByNameFrom {seen : List String} {cs : List Candidate} {c : Candidate}
    (h : c ∈ firstByNameFrom seen cs) :
    c.name ∉ seen ∧ cs.find? (·.name = c.name) = some c := by
  induction cs generalizing seen with
  | nil => cases h
  | cons d cs ih =>
      rw [firstByNameFrom] at h
      by_cases hseen : d.name ∈ seen
      · rw [if_pos hseen] at h
        obtain ⟨hnew, hfirst⟩ := ih h
        have hother : d.name ≠ c.name := fun heq => hnew (heq ▸ hseen)
        exact ⟨hnew, by rw [List.find?_cons_of_neg (by simpa using hother), hfirst]⟩
      · rw [if_neg hseen] at h
        rcases List.mem_cons.1 h with rfl | h
        · exact ⟨hseen, List.find?_cons_of_pos (by simp)⟩
        · obtain ⟨hnew, hfirst⟩ := ih h
          rw [List.mem_cons, not_or] at hnew
          exact ⟨hnew.2, by rw [List.find?_cons_of_neg (by simpa using Ne.symm hnew.1), hfirst]⟩

/-- Whether a name is left out does not matter for the candidates of other names. -/
theorem find?_of_mem_firstByName_filter {cs : List Candidate} {c : Candidate}
    (accepts : String → Bool) (h : c ∈ firstByName (cs.filter fun d => accepts d.name)) :
    cs.find? (·.name = c.name) = some c := by
  obtain ⟨-, hfirst⟩ := find?_of_mem_firstByNameFrom h
  have hmem := List.mem_of_find?_eq_some hfirst
  have haccepts : accepts c.name = true := (List.mem_filter.1 hmem).2
  have hsame : (fun d : Candidate =>
      decide (accepts d.name = true ∧ decide (d.name = c.name) = true)) =
        fun d => decide (d.name = c.name) := by
    funext d
    by_cases hname : d.name = c.name <;> simp [hname, haccepts]
  rwa [List.find?_filter, hsame] at hfirst

/-! ## What is declared -/

/-- Names from the structure of a LaTeX document. -/
def ofLatex (names : Latex.Structure → List String) (d : Document) : List String :=
  if d.language = .latex then names (Latex.analyze d.text) else []

/-- The names that a document declares for a topic, in the order of its text.  A file declares
its path from the origin. -/
def declaredIn (origin : Document) : Topic → Document → List String
  | .label => ofLatex fun s => s.labelDefinitions.map Symbol.name
  | .citation => fun d =>
      if d.language = .bibtex then (Bibtex.analyze d.text).keys.map Symbol.name else []
  | .environment => ofLatex fun s => s.environments.map Latex.Environment.name
  | .inclusion kind => fun d =>
      if d.uri ≠ origin.uri ∧ d.language = Candidate.includedLanguage kind then
        ((origin.uri.makeRelative? d.uri).map (Candidate.withoutExtension kind)).toList
      else []
  | .command => ofLatex fun s => s.commandDefinitions.map Symbol.name

/-- The names of a topic that every document may use. -/
def builtIns : Topic → List String
  | .environment => Latex.Command.builtinEnvironments
  | .command => Latex.Command.builtinCommands
  | .label | .citation | .inclusion _ => []

def declared (origin : Document) (scope : List Document) (topic : Topic) : List String :=
  scope.flatMap (declaredIn origin topic) ++ builtIns topic

theorem map_builtIn (kind : NameKind) (names : List String) :
    (Candidate.builtIn kind names).map Candidate.name = names := by
  rw [Candidate.builtIn, List.map_map]
  exact List.map_id names

/-- Candidates from the structures of LaTeX documents have the names found there. -/
theorem map_flatMap_latex {α : Type} {scope : List Document} (h : ∀ d ∈ scope, d.Settled)
    (items : Latex.Structure → List α) (name : α → String)
    {candidate : Document → Latex.Structure → α → Candidate}
    (hname : ∀ d s x, (candidate d s x).name = name x) :
    (scope.flatMap fun d =>
      match d.contents.latex? with
      | some s => (items s).map (candidate d s)
      | none => []).map Candidate.name =
        scope.flatMap (ofLatex fun s => (items s).map name) := by
  rw [List.map_flatMap]
  refine List.flatMap_congr fun d hd => ?_
  rw [(h d hd).contents, ofLatex]
  cases d.language with
  | latex =>
      show ((items _).map _).map _ = _
      rw [List.map_map, if_pos rfl]
      exact List.map_congr_left fun x _ => hname d _ x
  | bibtex => rfl

/-- **The names of the candidates are those that the documents declare.** -/
theorem map_all (origin : Document) {scope : List Document} (h : ∀ d ∈ scope, d.Settled)
    (topic : Topic) : (Candidate.all origin scope topic).map Candidate.name =
      declared origin scope topic := by
  cases topic with
  | label =>
      rw [declared, builtIns, List.append_nil]
      exact map_flatMap_latex h Latex.Structure.labelDefinitions Symbol.name fun _ _ _ => rfl
  | citation =>
      rw [declared, builtIns, List.append_nil, Candidate.all, Candidate.citationKeys,
        List.map_flatMap]
      refine List.flatMap_congr fun d hd => ?_
      rw [(h d hd).contents]
      dsimp only [declaredIn]
      cases d.language with
      | latex => rfl
      | bibtex =>
          show ((Bibtex.analyze d.text).entries.filterMap _).map Candidate.name = _
          rw [if_pos rfl, Bibtex.Structure.keys, List.map_filterMap, List.map_filterMap]
          refine List.filterMap_congr fun e _ => ?_
          rw [Option.map_map]
          rfl
  | environment =>
      rw [declared, Candidate.all, Candidate.environments, List.map_append, map_builtIn]
      exact congrArg (· ++ _) (map_flatMap_latex h Latex.Structure.environments
        Latex.Environment.name fun _ _ _ => rfl)
  | inclusion kind =>
      rw [declared, builtIns, List.append_nil, Candidate.all, Candidate.files, List.map_filterMap,
        List.filterMap_eq_flatMap_toList]
      refine List.flatMap_congr fun d _ => ?_
      dsimp only [declaredIn]
      split
      · rw [Option.map_map]
        rfl
      · rfl
  | command =>
      rw [declared, Candidate.all, Candidate.commands, List.map_append, map_builtIn]
      exact congrArg (· ++ _) (map_flatMap_latex h Latex.Structure.commandDefinitions
        Symbol.name fun _ _ _ => rfl)

end Completion

/-! ## Places on a line -/

namespace Document

variable {d : Document} {number : Nat} {front read rest : List Char}

theorem offset?_of_isLine (h : d.Sound)
    (hline : IsLine d.text.toList number front (read ++ rest)) :
    d.offset? ⟨number, utf16Length read⟩ = some (utf8Length (front ++ read)) := by
  have hindex : d.lineIndex = .ofText d.text.toList := h.lineIndex_eq
  rw [offset?, hindex, LineIndex.offset?_eq hline, LineIndex.bytesBefore_append,
    utf8Length_append]

theorem position_of_isLine (h : d.Sound)
    (hline : IsLine d.text.toList number front (read ++ rest)) :
    d.position (utf8Length (front ++ read)) = ⟨number, utf16Length read⟩ := by
  have hindex : d.lineIndex = .ofText d.text.toList := h.lineIndex_eq
  rw [position, hindex, LineIndex.position_of_isLine hline]

theorem lineBefore_of_isLine (h : d.Sound)
    (hline : IsLine d.text.toList number front (read ++ rest)) :
    Completion.lineBefore d number (utf8Length (front ++ read)) = read := by
  have hindex : d.lineIndex = .ofText d.text.toList := h.lineIndex_eq
  obtain ⟨after, htext⟩ := LineIndex.exists_append_of_isLine hline
  have hslice : slice? d.text.toList ⟨utf8Length front, utf8Length (front ++ read)⟩ = some read :=
    slice?_eq_some.2 ⟨front, after, by rw [htext, List.append_assoc], rfl, utf8Length_append _ _⟩
  rw [Completion.lineBefore, hindex, LineIndex.lineStart?_eq hline, Option.getD_some, hslice,
    Option.getD_some]

/-- **An edit between two places of a line puts its text there, and leaves the rest.** -/
theorem edited?_of_isLine {kept typed after : List Char} (h : d.Sound)
    (hline : IsLine d.text.toList number front (kept ++ typed ++ rest))
    (htext : d.text.toList = front ++ (kept ++ typed) ++ after) (name : String) :
    d.edited?
        [⟨⟨⟨number, utf16Length kept⟩, ⟨number, utf16Length (kept ++ typed)⟩⟩, name⟩] =
      some (String.ofList (front ++ kept ++ (name.toList ++ after))) := by
  have hstop := offset?_of_isLine h hline
  rw [List.append_assoc] at hline
  have hstart := offset?_of_isLine h hline
  have hspan : Edit.span? d
      ⟨⟨⟨number, utf16Length kept⟩, ⟨number, utf16Length (kept ++ typed)⟩⟩, name⟩ =
        some ⟨utf8Length (front ++ kept), utf8Length (front ++ (kept ++ typed))⟩ := by
    simp only [Edit.span?, hstart, hstop]
    rfl
  have hsplice : splice? 0 d.text.toList
      [(⟨utf8Length (front ++ kept), utf8Length (front ++ (kept ++ typed))⟩, name.toList)] =
        some (front ++ kept ++ (name.toList ++ after)) := by
    have htake : takeBytes? (utf8Length (front ++ kept) - 0) d.text.toList =
        some (front ++ kept) := by
      rw [Nat.sub_zero, htext, ← List.append_assoc, List.append_assoc (front ++ kept),
        takeBytes?_append]
    have hdrop : dropBytes? (utf8Length (front ++ (kept ++ typed)) - 0) d.text.toList =
        some after := by
      rw [Nat.sub_zero, htext, dropBytes?_append]
    have hle : utf8Length (front ++ kept) ≤ utf8Length (front ++ (kept ++ typed)) := by
      simp only [utf8Length_append]
      omega
    rw [splice?, if_pos ⟨Nat.zero_le _, hle⟩]
    simp only [htake, hdrop, splice?]
    rfl
  have hcuts : List.mapM (fun e : Edit => (e.span? d).map fun s => (s, e.text.toList))
      [⟨⟨⟨number, utf16Length kept⟩, ⟨number, utf16Length (kept ++ typed)⟩⟩, name⟩] =
        some [(⟨utf8Length (front ++ kept), utf8Length (front ++ (kept ++ typed))⟩,
          name.toList)] := by
    rw [List.mapM_cons, hspan]
    rfl
  rw [edited?, hcuts, Option.bind_eq_bind, Option.bind_some, hsplice]
  rfl

end Document

/-! ## Offers -/

namespace Completion

/-- What is offered behind `read`, on the line of the origin that starts behind `front`. -/
structure Exact (matcher : Matcher) (origin : Document) (scope : List Document) (number : Nat)
    (front read : List Char) (context : Context) (offers : List Offer) : Prop where
  /-- The declared names that go with what is typed, each once. -/
  names : offers.map (·.candidate.name) =
    ((declared origin scope context.topic).filter fun name =>
      matcher.accepts name.toList context.typed).eraseDups
  /-- An offer is the first candidate of its name. -/
  first : ∀ o ∈ offers, (Candidate.all origin scope context.topic).find?
    (·.name = o.candidate.name) = some o.candidate
  /-- An offer replaces what is typed, up to the cursor. -/
  replaces : ∃ kept after, read = kept ++ context.typed ∧
    origin.text.toList = front ++ read ++ after ∧ ∀ o ∈ offers,
      o.range = ⟨⟨number, utf16Length kept⟩, ⟨number, utf16Length read⟩⟩ ∧
      origin.edited? [⟨o.range, o.candidate.name⟩] =
        some (String.ofList (front ++ kept ++ (o.candidate.name.toList ++ after)))

variable {origin : Document} {scope : List Document} {number : Nat}
  {front read rest kept : List Char} {context : Context}

/-- The offers behind what was read of a line. -/
theorem offers_of_isLine (matcher : Matcher) (h : origin.Sound)
    (hlanguage : origin.language = .latex)
    (hline : IsLine origin.text.toList number front (read ++ rest))
    (hcontext : Context.ofLine? read = some context) (hread : read = kept ++ context.typed) :
    offers matcher origin scope ⟨number, utf16Length read⟩ =
      (firstByName ((Candidate.all origin scope context.topic).filter fun c =>
        matcher.accepts c.name.toList context.typed)).map
          (⟨·, ⟨⟨number, utf16Length kept⟩, ⟨number, utf16Length read⟩⟩⟩) := by
  have hkept : IsLine origin.text.toList number front (kept ++ (context.typed ++ rest)) := by
    rw [← List.append_assoc, ← hread]
    exact hline
  have hrange : origin.range ⟨utf8Length (front ++ read) - utf8Length context.typed,
      utf8Length (front ++ read)⟩ = ⟨⟨number, utf16Length kept⟩, ⟨number, utf16Length read⟩⟩ := by
    have hstart : utf8Length (front ++ read) - utf8Length context.typed =
        utf8Length (front ++ kept) := by
      rw [hread]
      simp only [utf8Length_append]
      omega
    rw [hstart, Document.range, Document.position_of_isLine h hkept,
      Document.position_of_isLine h hline]
  rw [offers, if_neg (not_not.2 hlanguage), Document.offset?_of_isLine h hline]
  dsimp only
  rw [Document.lineBefore_of_isLine h hline, hcontext]
  dsimp only
  rw [hrange]

/-- Where there is no context, nothing is offered. -/
theorem offers_eq_nil (matcher : Matcher) (h : origin.Sound)
    (hline : IsLine origin.text.toList number front (read ++ rest))
    (hcontext : Context.ofLine? read = none) :
    offers matcher origin scope ⟨number, utf16Length read⟩ = [] := by
  rw [offers, Document.offset?_of_isLine h hline]
  dsimp only
  rw [Document.lineBefore_of_isLine h hline, hcontext]
  exact ite_self _

/-- **The offers are the declared names that go with what is typed, and replace it.** -/
theorem exact_offers (matcher : Matcher) (h : origin.Sound) (hlanguage : origin.language = .latex)
    (hscope : ∀ d ∈ scope, d.Settled)
    (hline : IsLine origin.text.toList number front (read ++ rest))
    (hcontext : Context.ofLine? read = some context) :
    Exact matcher origin scope number front read context
      (offers matcher origin scope ⟨number, utf16Length read⟩) := by
  obtain ⟨kept, hread⟩ := Context.suffix_of_ofLine? hcontext
  obtain ⟨after, htext⟩ := LineIndex.exists_append_of_isLine hline
  rw [offers_of_isLine matcher h hlanguage hline hcontext hread.symm]
  constructor
  case names =>
    rw [List.map_map, ← map_all origin hscope, List.filter_map]
    exact map_firstByName _
  case first =>
    intro o ho
    obtain ⟨c, hc, rfl⟩ := List.mem_map.1 ho
    exact find?_of_mem_firstByName_filter (fun name => matcher.accepts name.toList context.typed) hc
  case replaces =>
    refine ⟨kept, after, hread.symm, htext, fun o ho => ?_⟩
    obtain ⟨c, -, rfl⟩ := List.mem_map.1 ho
    refine ⟨rfl, ?_⟩
    subst hread
    exact Document.edited?_of_isLine h hline htext c.name

end Completion

namespace Workspace

/-- **Completion offers the declared names that go with what is typed, and replaces it.** -/
theorem completion_exact {w : Workspace} (hw : w.Reached) (settings : Settings) {uri : Url}
    {origin : Document} (hget : w.get? uri = some origin) (hlanguage : origin.language = .latex)
    {p : Position} {front line : List Char}
    (hline : IsLine origin.text.toList p.line front line) (hcolumn : p.column ≤ utf16Length line)
    (hpair : ¬ SplitsPair line p.column) :
    ∃ others offers read rest, w.scope? uri = .ok (origin :: others) ∧
      (w.completion? uri p >>= Request.answer? settings) = .ok (.completion offers) ∧
      line = read ++ rest ∧ p.column = utf16Length read ∧
      (∀ context, Completion.Context.ofLine? read = some context → Completion.Exact
        settings.matcher origin (origin :: others) p.line front read context offers) ∧
      (Completion.Context.ofLine? read = none → offers = []) := by
  obtain ⟨read, rest, rfl, hread⟩ := LineIndex.exists_of_not_splitsPair hcolumn hpair
  obtain ⟨others, hothers⟩ := @Graph.traverse_eq_cons w.graph w.options.followParents uri _
    (node?_of_get? hget)
  have hscope : w.scope? uri = .ok (origin :: others) := by
    rw [scope?_of_get? hget, hothers]
  have horigin : origin? uri (origin :: others) = .ok origin := by
    have h := origin?_traverse hget w.options.followParents
    rw [hothers] at h
    exact h
  have hsettled : ∀ d ∈ origin :: others, d.Settled :=
    fun d hd => ((hw.sound.of_scope? hscope).2 d hd).2.2
  have hsound : origin.Sound := (hsettled origin List.mem_cons_self).toSound
  have hp : p = ⟨p.line, utf16Length read⟩ := by rw [← hread]
  refine ⟨others, Completion.offers settings.matcher origin (origin :: others) p, read, rest,
    hscope, ?_, rfl, hread, fun context hcontext => ?_, fun hnone => ?_⟩
  · rw [answer?_completion, hscope]
    show (origin? uri (origin :: others) >>= _) = _
    rw [horigin]
    rfl
  · rw [hp]
    exact Completion.exact_offers settings.matcher hsound hlanguage hsettled hline hcontext
  · rw [hp]
    exact Completion.offers_eq_nil settings.matcher hsound hline hnone

namespace Example

/-- A document with a reference that is being typed, and a part that it includes. -/
def sheet : Document := ((Document.create ⟨"file", some ⟨"", "", none⟩, "/sheet.tex", none, none⟩
  .latex).withText "\\label{éa}\\input{annex}\n\\ref\x7bé").analyzed

def annex : Document := ((Document.create ⟨"file", some ⟨"", "", none⟩, "/annex.tex", none, none⟩
  .latex).withText "\\label{b}\\label{éa}\\label{éc}").analyzed

def bureau : Workspace := ((Workspace.empty ⟨none, false⟩).add sheet).add annex

theorem scope_sheet : bureau.scope? sheet.uri = .ok [sheet, annex] := by
  have hget : bureau.get? sheet.uri = some sheet := by decide +kernel
  have hwalk : bureau.graph.visitWithin false 4 [] [sheet.uri] = some [sheet, annex] := by
    decide +kernel
  exact scope?_of_within hget hwalk

end Example

theorem completion_exact_sheet :
    (Example.bureau.Reached ∧ Example.bureau.get? Example.sheet.uri = some Example.sheet ∧
      Example.sheet.language = .latex ∧
      IsLine Example.sheet.text.toList 1 "\\label{éa}\\input{annex}\n".toList
        "\\ref\x7bé".toList ∧
      6 ≤ utf16Length "\\ref\x7bé".toList ∧ ¬ SplitsPair "\\ref\x7bé".toList 6) ∧
    ∃ offers, (Example.bureau.completion? Example.sheet.uri ⟨1, 6⟩ >>=
        Request.answer? .default) = .ok (.completion offers) ∧
      offers.map (·.candidate.name) = ["éa", "éc"] ∧
      ∀ o ∈ offers, o.range = ⟨⟨1, 5⟩, ⟨1, 6⟩⟩ := by
  have hreached : Example.bureau.Reached :=
    ((Reached.empty _).add (.analyzed (.withText _ (.created _ _)))).add
      (.analyzed (.withText _ (.created _ _)))
  have hget : Example.bureau.get? Example.sheet.uri = some Example.sheet := by decide +kernel
  have hline : IsLine Example.sheet.text.toList 1 "\\label{éa}\\input{annex}\n".toList
      "\\ref\x7bé".toList :=
    ⟨.inr ⟨"\\label{éa}\\input{annex}".toList, by decide +kernel⟩, by decide +kernel,
      by decide +kernel, .inl (by decide +kernel)⟩
  have hunits : utf16Length "\\ref\x7bé".toList = 6 := by decide
  have hpair : ¬ SplitsPair "\\ref\x7bé".toList 6 := by
    rintro ⟨read, c, rest, hsplit, hsize, -⟩
    have hone : ("\\ref\x7bé".toList.all fun c => utf16Size c = 1) = true := by decide
    have hc := List.all_eq_true.1 hone c (by rw [hsplit]; simp)
    simp [hsize] at hc
  obtain ⟨others, offers, read, rest, hscope, hanswer, hread, hcolumn, hexact, -⟩ :=
    completion_exact hreached .default hget rfl (p := ⟨1, 6⟩) hline (Nat.le_of_eq hunits.symm)
      hpair
  have hothers : Example.sheet :: others = [Example.sheet, Example.annex] :=
    Except.ok.inj (hscope.symm.trans Example.scope_sheet)
  have hrest : rest = [] := by
    cases rest with
    | nil => rfl
    | cons c rest =>
        have hpos := utf16Size_pos c
        change 6 = utf16Length read at hcolumn
        rw [hread, utf16Length_append, utf16Length_cons] at hunits
        omega
  have hcontext : Completion.Context.ofLine? read = some ⟨.label, ['é']⟩ := by
    rw [hrest, List.append_nil] at hread
    rw [← hread]
    decide +kernel
  have hoffers := hexact _ hcontext
  rw [hothers] at hoffers
  refine ⟨⟨hreached, hget, rfl, hline, Nat.le_of_eq hunits.symm, hpair⟩, offers, hanswer, ?_,
    fun o ho => ?_⟩
  · rw [hoffers.names]
    decide +kernel
  · obtain ⟨kept, after, hkept, -, hreplaces⟩ := hoffers.replaces
    rw [hrest, List.append_nil] at hread
    obtain rfl : kept = "\\ref\x7b".toList := by
      refine List.append_cancel_right (hkept.symm.trans (hread.symm.trans ?_))
      decide +kernel
    rw [(hreplaces o ho).1, ← hcolumn]
    decide +kernel

end Workspace

end Manuscript

/-
# Manuscript.Proofs.Rename.Citation -- renaming a citation renames what is read

A new name is refused if it has a character that ends a name between braces.  It is written
into other places as well: an entry may stand in parentheses, and a LaTeX text looks for
brackets and reads no star.  `Document.Takes` says what a document asks of the names.  With
it, after the edits were applied and the documents read again, every document of the scope has
its citations and keys under the new name, and the scope is the same
(`Workspace.rename_citation`).  Without it, a key can be cut short
(`Workspace.not_recited_parenthesis`).
-/
import Manuscript.Proofs.Bibtex.Respelling
import Manuscript.Proofs.Rename.Label

namespace Manuscript

set_option autoImplicit false

open Text Text.Form

/-! ## What a document asks of the names -/

namespace Document

/-- The character that a key of a bibliography stands behind, blanks aside. -/
def opener? (d : Document) (s : Symbol) : Option Char :=
  takeBytes? s.span.start d.text.toList >>= Bibtex.opener?

/-- The document reads a valid new name wherever it has the old one.  The look-aheads of a LaTeX
text pass inert names, and its star stands for all entries.  A bibliography looks for the end
of a text in braces or quotes, where a backslash at the end of the old key escapes what comes
after it, and a key in parentheses ends at the closing one. -/
def Takes (oldName newName : String) (d : Document) : Prop :=
  match d.language with
  | .latex => (∀ c ∈ oldName.toList, isInert c = true) ∧
      '[' ∉ newName.toList ∧ ']' ∉ newName.toList ∧ newName ≠ "*"
  | .bibtex => oldName.toList.getLast? ≠ some '\\' ∧
      ∀ s ∈ Rename.named oldName (Rename.occurrences .citation d.contents),
        d.opener? s = some '(' → ')' ∉ newName.toList ∧ '"' ∉ newName.toList

/-- The document has a new text, with the citations and keys of the old one up to a name. -/
structure Recited (oldName newName : String) (d d' : Document) : Prop where
  uri : d'.uri = d.uri
  settled : d'.Settled
  names : (Rename.occurrences .citation d'.contents).map Symbol.name =
    ((Rename.occurrences .citation d.contents).map Symbol.name).map (relabel oldName newName)
  includes : d'.includes = d.includes

end Document

namespace Rename

variable {oldName newName : String} {d : Document}

/-! ## Valid names -/

theorem chars_of_isValidName (h : isValidName newName = true) :
    newName.toList ≠ [] ∧
      ∀ c ∈ newName.toList, isBlank c = false ∧ c ∉ ['{', '}', ',', '%', '\\'] := by
  simp only [isValidName, Bool.and_eq_true, bne_iff_ne, Bool.not_eq_true', List.any_eq_false] at h
  refine ⟨fun hnil => h.1 (String.toList_eq_nil_iff.1 hnil), fun c hc => ?_⟩
  simpa [breaksName] using h.2 c hc

/-- A valid name can be the key of an entry in braces. -/
theorem inBraces_of_isValidName (h : isValidName newName = true) :
    Bibtex.InBraces newName.toList := by
  obtain ⟨hne, hchars⟩ := chars_of_isValidName h
  refine ⟨hne, fun c hc => ?_, fun hlast => ?_⟩
  · obtain ⟨hblank, hbreaks⟩ := hchars c hc
    have hascii : isAsciiBlank c = false := by
      cases hascii : isAsciiBlank c with
      | false => rfl
      | true => rw [isBlank_of_isAsciiBlank hascii] at hblank; cases hblank
    simp_all [Bibtex.Markup.isKeyChar, Bibtex.Delimiter.closing]
  · exact (hchars _ (List.mem_of_getLast? hlast)).2 (by simp)

/-- A valid name is cited as it stands, unless it has brackets. -/
theorem inert_of_isValidName (h : isValidName newName = true) (hopen : '[' ∉ newName.toList)
    (hclose : ']' ∉ newName.toList) : Inert newName.toList := by
  obtain ⟨hne, hchars⟩ := chars_of_isValidName h
  refine Plain.inert ⟨hne, fun c hc => ?_⟩
  obtain ⟨hblank, hbreaks⟩ := hchars c hc
  have hopen : c ≠ '[' := fun heq => hopen (heq ▸ hc)
  have hclose : c ≠ ']' := fun heq => hclose (heq ▸ hc)
  simp_all [isPlain]

/-! ## One document -/

/-- A document without the old name stays as it is. -/
theorem recited_self (hd : d.Settled)
    (hnone : ∀ s ∈ occurrences .citation d.contents, s.name ≠ oldName) :
    d.edited? (edits .citation oldName newName d) = some d.text ∧
      d.Recited oldName newName (d.withText d.text).analyzed := by
  have hedits : edits .citation oldName newName d = [] := by
    rw [edits_eq_nil_iff .citation _ _ hd, named, List.filter_eq_nil_iff]
    exact fun s hs => by simpa using hnone s hs
  rw [hedits, hd.analyzed_withText]
  refine ⟨Document.edited?_nil d, rfl, hd, ?_, rfl⟩
  rw [List.map_map]
  exact List.map_congr_left fun s hs => (if_neg (hnone s hs)).symm

theorem exists_recited_latex (hd : d.Settled) (hlanguage : d.language = .latex)
    (hold : Inert oldName.toList) (hnew : Inert newName.toList) (hstar : oldName ≠ "*")
    (hstar' : newName ≠ "*") :
    ∃ text, d.edited? (edits .citation oldName newName d) = some text ∧
      d.Recited oldName newName (d.withText text).analyzed := by
  obtain ⟨F, hfill, hholes, -, hrespelt⟩ := @Latex.exists_form_analyze .citation _ _ hold hnew
    (fun _ => by rw [String.ofList_toList, String.ofList_toList]; exact ⟨hstar, hstar'⟩) d.text
  have hedited := edited?_edits hd .citation hfill
    (by rw [inOrder_latex hlanguage]; exact hholes) newName.toList
  rw [String.ofList_toList, String.ofList_toList] at hedited
  have hcontents := hd.contents_latex hlanguage
  have hsettled := Document.settled_analyzed (d.withText (String.ofList (fill newName.toList F)))
  have hcontents' := hsettled.contents_latex hlanguage
  refine ⟨_, hedited, rfl, hsettled, ?_, ?_⟩
  · rw [hcontents, hcontents', List.map_map]
    exact map_eq_of_forall₂ (fun _ _ hs => hs.name.trans (respell_toList _ _ _)) hrespelt.citations
  · rw [Document.includes, Document.includes, hcontents, hcontents']
    exact map_eq_of_forall₂ (fun _ _ hi => by rw [hi.1, hi.2]) hrespelt.includes

theorem exists_recited_bibtex (hd : d.Settled) (hlanguage : d.language = .bibtex)
    (hold : Bibtex.InBraces oldName.toList) (hnew : Bibtex.InBraces newName.toList)
    (hparentheses : ∀ s ∈ named oldName (occurrences .citation d.contents),
      d.opener? s = some '(' → Bibtex.InParentheses newName.toList) :
    ∃ text, d.edited? (edits .citation oldName newName d) = some text ∧
      d.Recited oldName newName (d.withText text).analyzed := by
  have hkeys : ∀ text, occurrences .citation (.bibtex (Bibtex.analyze text)) =
      (Bibtex.scan (.ofString text)).filterMap Bibtex.Event.key? := Bibtex.keys_analyze
  have hcontents := hd.contents_bibtex hlanguage
  have hallowed : Bibtex.Allowed oldName.toList newName.toList (.ofString d.text) := by
    intro s hs hname before after htext hstart hopener
    rw [String.ofList_toList] at hname
    refine hparentheses s (mem_named.2 ⟨?_, hname⟩) ?_
    · rwa [hcontents, hkeys]
    · have htake : takeBytes? s.span.start d.text.toList = some before := by
        rw [show d.text.toList = before ++ after from htext, hstart]
        exact (Nat.zero_add _).symm ▸ takeBytes?_append before after
      rw [Document.opener?, htake]
      exact hopener
  obtain ⟨F, hfill, -, hholes, hscan⟩ := Bibtex.exists_form hold hnew _ hallowed
  have hinOrder : inOrder .citation d =
      (Bibtex.scan (.ofString d.text)).filterMap Bibtex.Event.key? := by
    unfold inOrder
    rw [hlanguage]
  have hedited := edited?_edits hd .citation hfill
    (by rw [hinOrder]; exact hholes) newName.toList
  rw [String.ofList_toList, String.ofList_toList] at hedited
  have hsettled := Document.settled_analyzed (d.withText (String.ofList (fill newName.toList F)))
  have hcontents' := hsettled.contents_bibtex hlanguage
  refine ⟨_, hedited, rfl, hsettled, ?_, ?_⟩
  · rw [hcontents, hcontents', hkeys, hkeys, List.map_map]
    have hnames := hscan 0
    rw [Bibtex.keyNames, Bibtex.keyNames, List.map_map] at hnames
    show ((Bibtex.scan (.ofString (String.ofList _))).filterMap _).map _ = _
    rw [Cursor.ofString, String.toList_ofList, hnames]
    exact List.map_congr_left fun s _ => respell_toList _ _ _
  · rw [Document.includes, Document.includes, hcontents, hcontents']

/-- **The edits of a citation rename it in what is read.** -/
theorem exists_recited (hd : d.Settled) (hvalid : isValidName newName = true)
    (htakes : (∃ s ∈ occurrences .citation d.contents, s.name = oldName) →
      d.Takes oldName newName) :
    ∃ text, d.edited? (edits .citation oldName newName d) = some text ∧
      d.Recited oldName newName (d.withText text).analyzed := by
  by_cases hoccurs : ∃ s ∈ occurrences .citation d.contents, s.name = oldName
  case neg => exact ⟨_, recited_self hd fun s hs hname => hoccurs ⟨s, hs, hname⟩⟩
  have htakes := htakes hoccurs
  obtain ⟨s, hs, rfl⟩ := hoccurs
  have hs := (perm_inOrder .citation hd).mem_iff.1 hs
  unfold Document.Takes at htakes
  cases hlanguage : d.language with
  | latex =>
      rw [hlanguage] at htakes
      obtain ⟨hinert, hopen, hclose, hstar⟩ := htakes
      rw [inOrder_latex hlanguage, Latex.Event.named?_citation] at hs
      have hplaced := (Latex.placed_scan (.ofString d.text)).sublist
        (@sublist_filterMap _ _ Latex.Event.citation? _
          (fun e t h => by cases e <;> first | exact h | cases h) _)
      obtain ⟨_, _, name, _, -, -, hsolid, hname⟩ := hplaced.exists_of_mem hs
      have hsolid : Solid isBlank s.name.toList := by
        rw [hname]
        simpa [Symbol.ofText] using hsolid
      exact exists_recited_latex hd hlanguage ⟨hsolid, hinert⟩
        (inert_of_isValidName hvalid hopen hclose) (Latex.ne_star_of_mem_scan hs) hstar
  | bibtex =>
      rw [hlanguage] at htakes
      obtain ⟨hlast, hparentheses⟩ := htakes
      have hs : s ∈ (Bibtex.scan (.ofString d.text)).filterMap Bibtex.Event.key? := by
        unfold inOrder at hs
        rwa [hlanguage] at hs
      obtain ⟨hne, hchars⟩ := Bibtex.isKeyChar_of_mem_scan hs
      have hnew := inBraces_of_isValidName hvalid
      refine exists_recited_bibtex hd hlanguage ⟨hne, hchars, hlast⟩ hnew fun t ht hopener => ?_
      obtain ⟨hclosing, hquote⟩ := hparentheses t ht hopener
      exact ⟨hnew, hclosing, hquote⟩

end Rename

namespace Workspace

open Rename

variable {w : Workspace} {settings : Settings} {uri : Url} {p : Position} {newName : String}
  {r : Rename} {scope : List Document} {origin : Document}

/-- **Renaming a citation renames it in what is read of every document of the scope.** -/
theorem rename_citation (reached : w.Reached) {symbol : Symbol}
    (hscope : w.scope? uri = .ok scope) (horigin : w.get? uri = some origin)
    (hsymbol : symbolAt? origin p = .ok (symbol, .citation))
    (h : (w.rename? uri p newName >>= Request.answer? settings) = .ok (.rename r))
    (htakes : ∀ d ∈ scope, (∃ s ∈ occurrences .citation d.contents, s.name = r.oldName) →
      d.Takes r.oldName newName) :
    ∃ w', w.edited? r.changes = some w' ∧ w'.Reached ∧
      ∃ scope', w'.scope? uri = .ok scope' ∧
        List.Forall₂ (Document.Recited r.oldName newName) scope scope' := by
  obtain ⟨scope₁, origin₁, hscope₁, horigin₁, hrun⟩ := rename?_eq_ok_iff.1 h
  obtain rfl : scope = scope₁ := Except.ok.inj (hscope.symm.trans hscope₁)
  obtain rfl : origin = origin₁ := Option.some.inj (horigin.symm.trans horigin₁)
  obtain ⟨symbol₁, sort, hsymbol₁, hvalid, -, rfl⟩ := run?_eq_ok_iff.1 hrun
  cases hsymbol.symm.trans hsymbol₁
  have hdocuments := (reached.sound.of_scope? hscope).2
  obtain ⟨f, hedited, hkeeps, -, hrecited⟩ := exists_edited
    (R := Document.Recited symbol.name newName) reached.sound hscope (fun _ _ h => h.includes)
    fun d hd => exists_recited (hdocuments d hd).2.2 hvalid (htakes d hd)
  refine ⟨w.map f, hedited, reached.edited hedited, scope.map f, scope?_map hkeeps hscope, ?_⟩
  rw [List.forall₂_map_right_iff, List.forall₂_same]
  exact hrecited

namespace Example

/-- A document that cites an entry, and the bibliography with it in parentheses. -/
def thesis : Document := ((Document.create ⟨"file", some ⟨"", "", none⟩, "/thesis.tex", none,
  none⟩ .latex).withText "\\cite{key}\n\\bibliography{refs}").analyzed

def refs : Document := ((Document.create ⟨"file", some ⟨"", "", none⟩, "/refs.bib", none, none⟩
  .bibtex).withText "@article(key, title = \x7bT\x7d)").analyzed

def desk : Workspace := ((Workspace.empty ⟨none, false⟩).add thesis).add refs

theorem reached_desk : desk.Reached :=
  ((Reached.empty _).add (.analyzed (.withText _ (.created _ _)))).add
    (.analyzed (.withText _ (.created _ _)))

theorem scope_thesis : desk.scope? thesis.uri = .ok [thesis, refs] := by
  have hget : desk.get? thesis.uri = some thesis := by decide +kernel
  have hwalk : desk.graph.visitWithin false 4 [] [thesis.uri] = some [thesis, refs] := by
    decide +kernel
  exact scope?_of_within hget hwalk

/-- The rename of the key where it is cited. -/
def recited (newName : String) : Rename :=
  ⟨"key", newName, [(thesis.uri, [⟨⟨⟨0, 6⟩, ⟨0, 9⟩⟩, newName⟩]),
    (refs.uri, [⟨⟨⟨0, 9⟩, ⟨0, 12⟩⟩, newName⟩])]⟩

theorem changesIn_desk (newName : String) :
    changesIn .citation "key" newName [thesis, refs] = (recited newName).changes := by
  have hthesis : thesis.Settled := Document.settled_analyzed _
  have hrefs : refs.Settled := Document.settled_analyzed _
  have hcited : named "key" (inOrder .citation thesis) = [⟨"key", ⟨6, 9⟩⟩] := by decide +kernel
  have hkey : named "key" (inOrder .citation refs) = [⟨"key", ⟨9, 12⟩⟩] := by decide +kernel
  have hrange : thesis.range ⟨6, 9⟩ = ⟨⟨0, 6⟩, ⟨0, 9⟩⟩ := by decide +kernel
  have hrange' : refs.range ⟨9, 12⟩ = ⟨⟨0, 9⟩, ⟨0, 12⟩⟩ := by decide +kernel
  rw [changesIn_eq _ _ _ (by decide +kernel), List.map_cons, List.map_cons, List.map_nil,
    edits_eq _ _ _ hthesis, edits_eq _ _ _ hrefs, hcited, hkey]
  simp [hrange, hrange', recited]

theorem rename_desk {newName : String} (h : isValidName newName = true) :
    (desk.rename? thesis.uri ⟨0, 6⟩ newName >>= Request.answer? Settings.default) =
      .ok (.rename (recited newName)) :=
  rename?_eq_ok_iff.2 ⟨_, thesis, scope_thesis, by decide +kernel,
    run?_eq_ok_iff.2 ⟨⟨"key", ⟨6, 9⟩⟩, .citation, by decide +kernel, h, by decide +kernel,
      by rw [changesIn_desk]; rfl⟩⟩

end Example

theorem rename_citation_desk :
    (Example.desk.scope? Example.thesis.uri = .ok [Example.thesis, Example.refs] ∧
      symbolAt? Example.thesis ⟨0, 6⟩ = .ok (⟨"key", ⟨6, 9⟩⟩, .citation) ∧
      (Example.desk.rename? Example.thesis.uri ⟨0, 6⟩ "new" >>=
        Request.answer? Settings.default) = .ok (.rename (Example.recited "new")) ∧
      ∀ d ∈ [Example.thesis, Example.refs], d.Takes "key" "new") ∧
    ∃ w', Example.desk.edited? (Example.recited "new").changes = some w' ∧
      ∃ scope', w'.scope? Example.thesis.uri = .ok scope' ∧
        List.Forall₂ (Document.Recited "key" "new") [Example.thesis, Example.refs] scope' := by
  have hsymbol : symbolAt? Example.thesis ⟨0, 6⟩ = .ok (⟨"key", ⟨6, 9⟩⟩, .citation) := by
    decide +kernel
  have hget : Example.desk.get? Example.thesis.uri = some Example.thesis := by decide +kernel
  have hrename := @Example.rename_desk "new" (by decide)
  have htakes : ∀ d ∈ [Example.thesis, Example.refs], d.Takes "key" "new" := by
    intro d hd
    simp only [List.mem_cons, List.not_mem_nil, or_false] at hd
    rcases hd with rfl | rfl
    · exact ⟨List.all_eq_true.1 (by decide), by decide, by decide, by decide⟩
    · exact ⟨by decide, fun _ _ _ => ⟨by decide, by decide⟩⟩
  obtain ⟨w', hedited, -, scope', hscope', hrecited⟩ :=
    rename_citation Example.reached_desk Example.scope_thesis hget hsymbol hrename
      fun d hd _ => htakes d hd
  exact ⟨⟨Example.scope_thesis, hsymbol, hrename, htakes⟩, w', hedited, scope', hscope', hrecited⟩

namespace Example

/-- The documents with `a)b` for the key. -/
def cutThesis : Document := (thesis.withText "\\cite{a)b}\n\\bibliography{refs}").analyzed

def cutRefs : Document := (refs.withText "@article(a)b, title = \x7bT\x7d)").analyzed

def cutDesk : Workspace := ⟨[cutThesis, cutRefs], ⟨none, false⟩⟩

theorem scope_cutThesis : cutDesk.scope? thesis.uri = .ok [cutThesis, cutRefs] := by
  have hget : cutDesk.get? thesis.uri = some cutThesis := by decide +kernel
  have hwalk : cutDesk.graph.visitWithin false 4 [] [thesis.uri] = some [cutThesis, cutRefs] := by
    decide +kernel
  exact scope?_of_within hget hwalk

end Example

/-- A name that is accepted can end the key of an entry in parentheses, which is cut short. -/
theorem not_recited_parenthesis :
    (Example.desk.rename? Example.thesis.uri ⟨0, 6⟩ "a)b" >>=
        Request.answer? Settings.default) = .ok (.rename (Example.recited "a)b")) ∧
      Example.desk.edited? (Example.recited "a)b").changes = some Example.cutDesk ∧
      Example.cutDesk.scope? Example.thesis.uri = .ok [Example.cutThesis, Example.cutRefs] ∧
      (occurrences .citation Example.cutRefs.contents).map Symbol.name = ["a"] ∧
      ¬ List.Forall₂ (Document.Recited "key" "a)b") [Example.thesis, Example.refs]
        [Example.cutThesis, Example.cutRefs] := by
  have hcut : (occurrences .citation Example.cutRefs.contents).map Symbol.name = ["a"] := by
    decide +kernel
  refine ⟨Example.rename_desk (by decide), by decide +kernel, Example.scope_cutThesis, hcut,
    fun h => ?_⟩
  cases h with
  | cons _ h =>
      cases h with
      | cons hrecited _ =>
          have hnames := hrecited.names
          rw [hcut] at hnames
          exact absurd hnames (by decide +kernel)

end Workspace

end Manuscript

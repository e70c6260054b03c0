/-
# Manuscript.Proofs.Rename.Application -- what the edits of a rename make of the documents

An editor applies the edits of a document to the text that they were made for: it takes
each range for the bytes between its two places (`Edit.span?`) and puts the new text there
(`Text.splice?`, `Document.edited?`).  The changes of a workspace are applied one document
after the other, and every new text is stored and read (`Workspace.edited?`).

Where the old name stands in the open places of a form, the edits of a rename fill it with
the new name (`edited?_edits`).  Changes of different documents do not meet, so applying
them is one change of each document in its place (`edited?_eq_map`).
-/
import Manuscript.Proofs.Latex.RespeltStructure
import Manuscript.Proofs.Rename.Exactness
import Manuscript.Proofs.Workspace.Map

namespace Manuscript

set_option autoImplicit false

open Text Text.Form

theorem mapM_eq_some_map {α β : Type} {f : α → Option β} {g : α → β} {xs : List α}
    (h : ∀ x ∈ xs, f x = some (g x)) : xs.mapM f = some (xs.map g) := by
  induction xs with
  | nil => rfl
  | cons x xs ih =>
      rw [List.mapM_cons, h x List.mem_cons_self, ih fun y hy => h y (List.mem_cons_of_mem x hy)]
      rfl

/-! ## Texts -/

namespace Text

/-- The text at `offset` with other texts for some of its spans, which come in their order. -/
def splice? (offset : Nat) (text : List Char) : List (Span × List Char) → Option (List Char)
  | [] => some text
  | (s, name) :: more =>
      if offset ≤ s.start ∧ s.start ≤ s.stop then do
        let before ← takeBytes? (s.start - offset) text
        let rest ← dropBytes? (s.stop - offset) text
        let after ← splice? s.stop rest more
        pure (before ++ (name ++ after))
      else none

/-- A form is text up to its first open place. -/
theorem Form.spread {motive : Form → Prop} (text : ∀ cs, motive (ofText cs))
    (hole : ∀ cs F, motive F → motive (ofText cs ++ none :: F)) (F : Form) : motive F := by
  suffices ∀ cs, motive (ofText cs ++ F) from this []
  induction F with
  | nil =>
      intro cs
      rw [List.append_nil]
      exact text cs
  | cons x F ih =>
      intro cs
      cases x with
      | some c =>
          have h := ih (cs ++ [c])
          rwa [ofText_append, List.append_assoc] at h
      | none => exact hole cs F (ih [])

/-- **Putting another name in the open places fills the form with it.** -/
theorem splice?_holes (u v : List Char) (offset : Nat) (F : Form) :
    splice? offset (fill u F) ((holes u offset F).map fun s => (s, v)) = some (fill v F) := by
  induction F using Form.spread generalizing offset with
  | text cs =>
      rw [holes_ofText, fill_ofText, fill_ofText]
      rfl
  | hole cs F ih =>
      have hholes : holes u offset (ofText cs ++ none :: F) =
          ⟨offset + utf8Length cs, offset + utf8Length cs + utf8Length u⟩ ::
            holes u (offset + utf8Length cs + utf8Length u) F := by
        rw [holes_append, holes_ofText, fill_ofText, List.nil_append, holes]
      have htake : takeBytes? (offset + utf8Length cs - offset) (cs ++ (u ++ fill u F)) =
          some cs := by
        rw [Nat.add_sub_cancel_left, takeBytes?_append]
      have hdrop : dropBytes? (offset + utf8Length cs + utf8Length u - offset)
          (cs ++ (u ++ fill u F)) = some (fill u F) := by
        have hlength : offset + utf8Length cs + utf8Length u - offset = utf8Length (cs ++ u) := by
          rw [utf8Length_append]
          omega
        rw [hlength, ← List.append_assoc, dropBytes?_append]
      rw [hholes, List.map_cons, splice?, if_pos ⟨by simp, by simp⟩]
      simp only [fill_append, fill_ofText, fill_none, htake, hdrop, Option.bind_eq_bind,
        Option.bind_some, ih]
      rfl

end Text

/-! ## Documents -/

namespace Document

/-- The text after the edits of a document, whose ranges are those of the text before. -/
def edited? (d : Document) (edits : List Edit) : Option String := do
  let cuts ← edits.mapM fun e => (e.span? d).map fun s => (s, e.text.toList)
  let text ← splice? 0 d.text.toList cuts
  pure (String.ofList text)

theorem edited?_nil (d : Document) : d.edited? [] = some d.text := by
  show some (String.ofList d.text.toList) = _
  rw [String.ofList_toList]

/-- A document that describes its text is the one that reading it again gives. -/
theorem Settled.analyzed_withText {d : Document} (h : d.Settled) :
    (d.withText d.text).analyzed = d := by
  obtain ⟨uri, language, text, lineIndex, contents, stale⟩ := d
  have hlineIndex : lineIndex = .ofString text := h.lineIndex_eq
  have hcontents : contents = analyze language text := h.contents
  have hstale : stale = false := h.fresh
  rw [hlineIndex, hcontents, hstale]
  rfl

theorem Settled.contents_latex {d : Document} (h : d.Settled) (hlanguage : d.language = .latex) :
    d.contents = .latex (Latex.analyze d.text) := by
  rw [h.contents, hlanguage]
  rfl

theorem Settled.contents_bibtex {d : Document} (h : d.Settled) (hlanguage : d.language = .bibtex) :
    d.contents = .bibtex (Bibtex.analyze d.text) := by
  rw [h.contents, hlanguage]
  rfl

end Document

namespace Rename

/-- **The edits of a name put the other name in the open places of the form.** -/
theorem edited?_edits {d : Document} (hd : d.Settled) (sort : NameSort) {u : List Char} {F : Form}
    (hfill : fill u F = d.text.toList)
    (hholes : holes u 0 F = (named (String.ofList u) (inOrder sort d)).map Symbol.span)
    (v : List Char) :
    d.edited? (edits sort (String.ofList u) (String.ofList v) d) =
      some (String.ofList (fill v F)) := by
  have hcuts : (edits sort (String.ofList u) (String.ofList v) d).mapM
      (fun e => (e.span? d).map fun s => (s, e.text.toList)) =
        some ((holes u 0 F).map fun s => (s, v)) := by
    rw [edits_eq sort _ _ hd, hholes, List.mapM_map, List.map_map]
    apply mapM_eq_some_map
    intro s hs
    show (Edit.span? d _).map _ = _
    rw [span?_eq hd (mem_named.1 hs).1, Option.map_some, String.toList_ofList]
    rfl
  rw [Document.edited?, hcuts, ← hfill]
  show (splice? 0 _ _).bind _ = _
  rw [splice?_holes]
  rfl

/-- The names of a LaTeX document, in their order, are those of its events. -/
theorem inOrder_latex {d : Document} (hlatex : d.language = .latex) (sort : NameSort) :
    inOrder sort d = (Latex.scan (.ofString d.text)).filterMap (Latex.Event.named? sort) := by
  unfold inOrder
  rw [hlatex]
  cases sort with
  | label => rw [Latex.Event.named?_label]
  | citation => rw [Latex.Event.named?_citation]

/-- A document after the changes. -/
def applied (changes : List (Url × List Edit)) (d : Document) : Document :=
  match (changes.lookup d.uri).bind d.edited? with
  | some text => (d.withText text).analyzed
  | none => d

theorem uri_applied (changes : List (Url × List Edit)) (d : Document) :
    (applied changes d).uri = d.uri := by
  unfold applied
  split <;> rfl

theorem applied_of_none {changes : List (Url × List Edit)} {d : Document}
    (h : changes.lookup d.uri = none) : applied changes d = d := by
  rw [applied, h]
  rfl

theorem applied_of_some {changes : List (Url × List Edit)} {d : Document} {edits : List Edit}
    {text : String} (h : changes.lookup d.uri = some edits) (hd : d.edited? edits = some text) :
    applied changes d = (d.withText text).analyzed := by
  rw [applied, h, Option.bind_some, hd]

theorem lookup_eq_none {changes : List (Url × List Edit)} {uri : Url}
    (h : uri ∉ changes.map Prod.fst) : changes.lookup uri = none := by
  induction changes with
  | nil => rfl
  | cons change changes ih =>
      rw [List.map_cons, List.mem_cons, not_or] at h
      rw [List.lookup_cons, beq_false_of_ne h.1]
      exact ih h.2

theorem lookup_cons_of_ne {changes : List (Url × List Edit)} {uri other : Url} {edits : List Edit}
    (h : uri ≠ other) : ((other, edits) :: changes).lookup uri = changes.lookup uri := by
  rw [List.lookup_cons, beq_false_of_ne h]

/-! ## The documents of a scope -/

section Scope

variable {sort : NameSort} {oldName newName : String} {related : List Document}

theorem lookup_changesIn (hnodup : (related.map Document.uri).Nodup) {d : Document}
    (hd : d ∈ related) : (changesIn sort oldName newName related).lookup d.uri =
      if edits sort oldName newName d = [] then none else some (edits sort oldName newName d) := by
  rw [changesIn_eq sort oldName newName hnodup]
  induction related with
  | nil => cases hd
  | cons e es ih =>
      rw [List.map_cons, List.nodup_cons] at hnodup
      rw [List.map_cons]
      by_cases hde : d.uri = e.uri
      · obtain rfl : d = e := by
          refine (List.mem_cons.1 hd).resolve_right fun hmem => hnodup.1 ?_
          exact hde ▸ List.mem_map_of_mem hmem
        by_cases hempty : edits sort oldName newName d = []
        · rw [if_pos hempty, List.filter_cons_of_neg (by simpa using hempty)]
          refine lookup_eq_none fun hmem => hnodup.1 ?_
          obtain ⟨change, hchange, heq⟩ := List.mem_map.1 hmem
          obtain ⟨e, he, rfl⟩ := List.mem_map.1 (List.mem_filter.1 hchange).1
          exact heq ▸ List.mem_map_of_mem he
        · rw [if_neg hempty, List.filter_cons_of_pos (by simpa using hempty), List.lookup_cons_self]
      · have hmem : d ∈ es := (List.mem_cons.1 hd).resolve_left fun heq => hde (by rw [heq])
        have ih := ih hnodup.2 hmem
        by_cases hempty : edits sort oldName newName e = []
        · rw [List.filter_cons_of_neg (by simpa using hempty), ih]
        · rw [List.filter_cons_of_pos (by simpa using hempty), lookup_cons_of_ne hde, ih]

/-- What the changes make of a document of the scope. -/
theorem applied_changesIn (hnodup : (related.map Document.uri).Nodup) {d : Document}
    (hd : d ∈ related) (hsettled : d.Settled) {text : String}
    (htext : d.edited? (edits sort oldName newName d) = some text) :
    applied (changesIn sort oldName newName related) d = (d.withText text).analyzed := by
  have hlookup := @lookup_changesIn sort oldName newName related hnodup d hd
  by_cases hempty : edits sort oldName newName d = []
  · rw [if_pos hempty] at hlookup
    rw [hempty, Document.edited?_nil] at htext
    obtain rfl := Option.some.inj htext
    rw [applied_of_none hlookup, hsettled.analyzed_withText]
  · rw [if_neg hempty] at hlookup
    exact applied_of_some hlookup htext

/-- The changes leave other documents alone. -/
theorem applied_of_notMem (hnodup : (related.map Document.uri).Nodup) {d : Document}
    (hd : d.uri ∉ related.map Document.uri) :
    applied (changesIn sort oldName newName related) d = d := by
  refine applied_of_none (lookup_eq_none fun hmem => hd ?_)
  obtain ⟨change, hchange, heq⟩ := List.mem_map.1 hmem
  obtain ⟨e, he, rfl⟩ := exists_of_mem_changesIn hnodup hchange
  exact heq ▸ List.mem_map_of_mem he

end Scope

end Rename

/-! ## Workspaces -/

namespace Workspace

/-- The workspace after changes of its documents, each stored and read. -/
def edited? (w : Workspace) (changes : List (Url × List Edit)) : Option Workspace :=
  changes.foldlM (fun w change => do
    let d ← w.get? change.1
    let text ← d.edited? change.2
    (w.update? change.1 text).toOption) w

theorem edited?_cons {w : Workspace} {d : Document} {uri : Url} {edits : List Edit} {text : String}
    (hget : w.get? uri = some d) (htext : d.edited? edits = some text)
    (changes : List (Url × List Edit)) :
    w.edited? ((uri, edits) :: changes) = (w.add (d.withText text)).edited? changes := by
  have hupdate : w.update? uri text = .ok (w.add (d.withText text)) := by rw [update?, hget]
  unfold edited?
  rw [List.foldlM_cons]
  simp only [hget, htext, hupdate, Option.bind_eq_bind, Option.bind_some]
  rfl

/-- Changes lead from workspaces that can be reached to workspaces that can be reached. -/
theorem Reached.edited {w w' : Workspace} {changes : List (Url × List Edit)} (reached : w.Reached)
    (h : w.edited? changes = some w') : w'.Reached := by
  induction changes generalizing w with
  | nil =>
      cases h
      exact reached
  | cons change changes ih =>
      unfold edited? at h
      rw [List.foldlM_cons] at h
      obtain ⟨w₁, hstep, hrest⟩ := Option.bind_eq_some_iff.1 h
      obtain ⟨d, -, hstep⟩ := Option.bind_eq_some_iff.1 hstep
      obtain ⟨text, -, hstep⟩ := Option.bind_eq_some_iff.1 hstep
      cases hupdate : w.update? change.1 text with
      | error e =>
          rw [hupdate] at hstep
          cases hstep
      | ok w₂ =>
          rw [hupdate] at hstep
          cases hstep
          exact ih (reached.update hupdate) hrest

/-- **Changes of different documents change each in its place.** -/
theorem edited?_eq_map {w : Workspace} (nodup : w.uris.Nodup) {changes : List (Url × List Edit)}
    (hnodup : (changes.map Prod.fst).Nodup)
    (h : ∀ change ∈ changes, ∃ d text, w.get? change.1 = some d ∧ d.edited? change.2 = some text) :
    w.edited? changes = some (w.map (Rename.applied changes)) := by
  induction changes generalizing w with
  | nil =>
      show some w = some { w with documents := w.documents.map id }
      rw [List.map_id]
  | cons change changes ih =>
      obtain ⟨uri, edits⟩ := change
      rw [List.map_cons, List.nodup_cons] at hnodup
      obtain ⟨d, text, hget, htext⟩ := h (uri, edits) List.mem_cons_self
      have huri : d.uri = uri := uri_of_get? hget
      have hmem : d.uri ∈ w.uris := List.mem_map_of_mem (mem_of_get? hget)
      rw [edited?_cons hget htext, add_eq_map (d := d.withText text) nodup hmem]
      have hkeeps : ∀ e ∈ w.documents,
          (if e.uri = (d.withText text).uri then settled (d.withText text) else e).uri = e.uri := by
        intro e _
        split
        · rename_i he
          exact he.symm
        · rfl
      rw [ih (by rw [uris_map hkeeps]; exact nodup) hnodup.2 ?_]
      · apply congrArg some
        simp only [map, List.map_map]
        congr 1
        apply List.map_congr_left
        intro e he
        show Rename.applied changes (if e.uri = d.uri then (d.withText text).analyzed else e) = _
        by_cases heq : e.uri = d.uri
        · obtain rfl : e = d := by
            have := (get?_eq_some_iff_mem nodup).2 ⟨he, rfl⟩
            rw [heq, huri, hget] at this
            exact (Option.some.inj this).symm
          have hlookup : ((uri, edits) :: changes).lookup e.uri = some edits := by
            rw [huri, List.lookup_cons_self]
          rw [if_pos rfl, Rename.applied_of_some hlookup htext]
          exact Rename.applied_of_none (Rename.lookup_eq_none (huri ▸ hnodup.1))
        · rw [if_neg heq, Rename.applied, Rename.applied,
            Rename.lookup_cons_of_ne (huri ▸ heq)]
      · intro change hchange
        obtain ⟨e, text', hget', htext'⟩ := h change (List.mem_cons_of_mem _ hchange)
        have hchange : change.1 ∈ changes.map Prod.fst := List.mem_map_of_mem hchange
        have hne : e.uri ≠ d.uri := by
          rw [uri_of_get? hget', huri]
          exact fun heq => hnodup.1 (heq ▸ hchange)
        refine ⟨e, text', ?_, htext'⟩
        rw [get?_map hkeeps, hget', Option.map_some]
        exact congrArg some (if_neg hne)

section Scope

open Rename

variable {w : Workspace} {uri : Url} {scope : List Document} {sort : NameSort}
  {oldName newName : String}

theorem edited?_changesIn (sound : w.Sound) (hscope : w.scope? uri = .ok scope)
    (hedits : ∀ d ∈ scope, ∃ text, d.edited? (edits sort oldName newName d) = some text) :
    w.edited? (changesIn sort oldName newName scope) =
      some (w.map (applied (changesIn sort oldName newName scope))) := by
  obtain ⟨hnodup, hdocuments⟩ := sound.of_scope? hscope
  have hexact := exact_changesIn sort oldName newName (fun d hd => (hdocuments d hd).2.2) hnodup
  apply edited?_eq_map sound.nodup hexact.nodup
  intro change hchange
  obtain ⟨d, hd, rfl⟩ := exists_of_mem_changesIn hnodup hchange
  obtain ⟨text, htext⟩ := hedits d hd
  exact ⟨d, text, (hdocuments d hd).2.1, htext⟩

theorem mem_scope_of_uri (sound : w.Sound) (hscope : w.scope? uri = .ok scope) {d : Document}
    (hd : d ∈ w.documents) (h : d.uri ∈ scope.map Document.uri) : d ∈ scope := by
  obtain ⟨e, he, heq⟩ := List.mem_map.1 h
  have hget := ((sound.of_scope? hscope).2 e he).2.1
  rw [heq, (get?_eq_some_iff_mem sound.nodup).2 ⟨hd, rfl⟩] at hget
  rwa [Option.some.inj hget]

/-- **The edits of a rename change each document of the scope, and no other one.** -/
theorem exists_edited (sound : w.Sound) (hscope : w.scope? uri = .ok scope)
    {R : Document → Document → Prop} (hincludes : ∀ d d', R d d' → d'.includes = d.includes)
    (hR : ∀ d ∈ scope, ∃ text, d.edited? (edits sort oldName newName d) = some text ∧
      R d (d.withText text).analyzed) :
    ∃ f, w.edited? (changesIn sort oldName newName scope) = some (w.map f) ∧
      (∀ d ∈ w.documents, d.Keeps f) ∧
      (∀ d ∈ w.documents, d.uri ∉ scope.map Document.uri → f d = d) ∧
      ∀ d ∈ scope, R d (f d) := by
  obtain ⟨hnodup, hdocuments⟩ := sound.of_scope? hscope
  have hout : ∀ d : Document, d.uri ∉ scope.map Document.uri →
      applied (changesIn sort oldName newName scope) d = d := fun d hd =>
    applied_of_notMem hnodup hd
  have hin : ∀ d ∈ scope, R d (applied (changesIn sort oldName newName scope) d) := by
    intro d hd
    obtain ⟨text, htext, hread⟩ := hR d hd
    rwa [applied_changesIn hnodup hd (hdocuments d hd).2.2 htext]
  refine ⟨applied (changesIn sort oldName newName scope), ?_, fun d hd => ⟨uri_applied _ d, ?_⟩,
    fun d _ hd => hout d hd, hin⟩
  · apply edited?_changesIn sound hscope
    intro d hd
    obtain ⟨text, htext, -⟩ := hR d hd
    exact ⟨text, htext⟩
  · by_cases hmem : d.uri ∈ scope.map Document.uri
    · exact hincludes _ _ (hin d (mem_scope_of_uri sound hscope hd hmem))
    · rw [hout d hmem]

end Scope

end Workspace

end Manuscript

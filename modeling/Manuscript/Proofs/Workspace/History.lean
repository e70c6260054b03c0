/-
# Manuscript.Proofs.Workspace.History -- what every workspace is like

`Document.Made` and `Workspace.Reached` say what a user of the library can build: a
document is created or opened, given new texts and read; a workspace is filled with
such documents, changed and emptied again, in any order.

Whatever was done, documents have different URLs and each of them is `Settled`: its
line index and its contents are those of its text (`Reached.sound`).  A document on
its way into a workspace may be stale; it is `Sound` all the same, which is what
`Workspace.add` needs to settle it.

The first part looks documents up after one step (`get?_add`, `get?_remove`).
-/
import Manuscript.Workspace.Graph

namespace Manuscript

set_option autoImplicit false

namespace Workspace

variable {w : Workspace}

/-! ## Looking up a document -/

theorem get?_eq_some_iff_mem (nodup : w.uris.Nodup) {uri : Url} {d : Document} :
    w.get? uri = some d ↔ d ∈ w.documents ∧ d.uri = uri := by
  constructor
  · intro h
    exact ⟨List.mem_of_find?_eq_some h, by simpa using List.find?_some h⟩
  · rintro ⟨hmem, rfl⟩
    unfold get?
    unfold uris at nodup
    generalize w.documents = ds at hmem nodup
    induction ds with
    | nil => cases hmem
    | cons e es ih =>
        rw [List.map_cons, List.nodup_cons] at nodup
        rcases List.mem_cons.1 hmem with rfl | hmem
        · simp
        · have hne : e.uri ≠ d.uri := fun heq =>
            nodup.1 (heq ▸ List.mem_map_of_mem hmem)
          rw [List.find?_cons_of_neg (by simpa using hne)]
          exact ih hmem nodup.2

theorem uri_of_get? {uri : Url} {d : Document} (h : w.get? uri = some d) : d.uri = uri := by
  simpa using List.find?_some h

theorem mem_of_get? {uri : Url} {d : Document} (h : w.get? uri = some d) : d ∈ w.documents :=
  List.mem_of_find?_eq_some h

theorem contains_iff {uri : Url} : w.contains uri = true ↔ uri ∈ w.uris := by
  simp [contains]

theorem contains_iff_get? {uri : Url} : w.contains uri = true ↔ ∃ d, w.get? uri = some d := by
  rw [contains_iff, ← Option.isSome_iff_exists]
  simp [uris, get?]

theorem get?_eq_none_iff {uri : Url} : w.get? uri = none ↔ uri ∉ w.uris := by
  rw [← contains_iff, contains_iff_get?]
  cases w.get? uri <;> simp

/-! ## One step -/

theorem settled_uri (d : Document) : (settled d).uri = d.uri := by
  unfold settled
  split <;> rfl

theorem text_settled (d : Document) : (settled d).text = d.text := by
  unfold settled
  split <;> rfl

theorem find?_insert (d : Document) (ds : List Document) (uri : Url) :
    (insert d ds).find? (·.uri = uri) =
      if uri = d.uri then some d else ds.find? (·.uri = uri) := by
  induction ds with
  | nil =>
      by_cases h : uri = d.uri
      · simp [insert, h]
      · simp [insert, h, Ne.symm h]
  | cons e es ih =>
      unfold insert
      by_cases he : e.uri = d.uri
      · by_cases h : uri = d.uri
        · simp [he, h]
        · simp [he, h, Ne.symm h]
      · rw [if_neg he]
        by_cases h : e.uri = uri
        · have hne : uri ≠ d.uri := h ▸ he
          simp [h, hne]
        · rw [List.find?_cons_of_neg (by simpa using h),
            List.find?_cons_of_neg (by simpa using h), ih]

theorem get?_add (d : Document) (uri : Url) :
    (w.add d).get? uri = if uri = d.uri then some (settled d) else w.get? uri := by
  have := find?_insert (settled d) w.documents uri
  rwa [settled_uri] at this

theorem get?_remove (gone uri : Url) :
    (w.remove gone).get? uri = if uri = gone then none else w.get? uri := by
  unfold get? remove
  generalize w.documents = ds
  induction ds with
  | nil => simp
  | cons e es ih =>
      by_cases hgone : e.uri = gone
      · rw [List.filter_cons_of_neg (by simpa using hgone), ih]
        by_cases h : uri = gone
        · simp [h]
        · rw [if_neg h, if_neg h, List.find?_cons_of_neg (by simpa [hgone] using Ne.symm h)]
      · rw [List.filter_cons_of_pos (by simpa using hgone)]
        by_cases h : e.uri = uri
        · have hne : uri ≠ gone := h ▸ hgone
          simp [h, hne]
        · rw [List.find?_cons_of_neg (by simpa using h),
            List.find?_cons_of_neg (by simpa using h), ih]

theorem uris_insert (d : Document) (ds : List Document) :
    (insert d ds).map Document.uri =
      if d.uri ∈ ds.map Document.uri then ds.map Document.uri
      else ds.map Document.uri ++ [d.uri] := by
  induction ds with
  | nil => simp [insert]
  | cons e es ih =>
      unfold insert
      by_cases he : e.uri = d.uri
      · simp [he]
      · rw [if_neg he, List.map_cons, ih]
        by_cases h : d.uri ∈ es.map Document.uri
        · rw [if_pos h, if_pos (by simp only [List.map_cons, List.mem_cons]; exact Or.inr h)]
          rfl
        · rw [if_neg h, if_neg (by simpa [Ne.symm he] using h)]
          rfl

theorem uris_add (d : Document) :
    (w.add d).uris = if d.uri ∈ w.uris then w.uris else w.uris ++ [d.uri] := by
  have := uris_insert (settled d) w.documents
  rwa [settled_uri] at this

theorem uris_remove (gone : Url) : (w.remove gone).uris = w.uris.filter (· ≠ gone) := by
  simp only [uris, remove, List.filter_map, Function.comp_def]

theorem mem_insert {d e : Document} {ds : List Document} (h : e ∈ insert d ds) :
    e = d ∨ e ∈ ds := by
  induction ds with
  | nil => simpa [insert] using h
  | cons f fs ih =>
      unfold insert at h
      split at h
      · rcases List.mem_cons.1 h with rfl | h
        · exact Or.inl rfl
        · exact Or.inr (List.mem_cons_of_mem _ h)
      · rcases List.mem_cons.1 h with rfl | h
        · exact Or.inr List.mem_cons_self
        · exact (ih h).imp_right (List.mem_cons_of_mem _)

end Workspace

/-! ## Documents -/

namespace Document

/-- A document that the operations of the library give. -/
inductive Made : Document → Prop where
  | created (uri : Url) (language : Language) : Made (create uri language)
  | opened {uri : Url} {text : String} {d : Document} : open? uri text = .ok d → Made d
  | withText {d : Document} (text : String) : Made d → Made (d.withText text)
  | analyzed {d : Document} : Made d → Made d.analyzed

/-- The line index follows the text, and so do the contents once it is read. -/
structure Sound (d : Document) : Prop where
  lineIndex_eq : d.lineIndex = .ofString d.text
  contents_eq : d.stale = false → d.contents = analyze d.language d.text

/-- The document describes its text. -/
structure Settled (d : Document) : Prop extends Sound d where
  fresh : d.stale = false

theorem Settled.contents {d : Document} (h : d.Settled) :
    d.contents = analyze d.language d.text := h.contents_eq h.fresh

theorem sound_withText (d : Document) (text : String) : (d.withText text).Sound :=
  ⟨rfl, fun h => Bool.noConfusion h⟩

theorem settled_analyzed (d : Document) : d.analyzed.Settled :=
  ⟨⟨rfl, fun _ => rfl⟩, rfl⟩

/-- An empty text holds nothing. -/
theorem analyze_empty (language : Language) : analyze language "" = .empty language := by
  cases language with
  | latex =>
      have h : Latex.scan (.ofString "") = [] := by rw [Latex.scan]; rfl
      simp [analyze, Latex.analyze, h, Structure.empty, Latex.Structure.empty,
        Latex.Structure.ofEvents, Latex.Pending.start, Latex.Pending.finish,
        Latex.Pending.unclosed, Diagnostic.sorted]
  | bibtex =>
      have h : Bibtex.scan (.ofString "") = [] := by rw [Bibtex.scan]; rfl
      simp [analyze, Bibtex.analyze, h, Structure.empty, Bibtex.Structure.empty,
        Bibtex.Structure.ofEvents, Bibtex.Structure.keys, Bibtex.repeated, Diagnostic.sorted]

theorem settled_create (uri : Url) (language : Language) : (create uri language).Settled :=
  ⟨⟨rfl, fun _ => (analyze_empty language).symm⟩, rfl⟩

theorem settled_open? {uri : Url} {text : String} {d : Document} (h : open? uri text = .ok d) :
    d.Settled := by
  unfold open? at h
  split at h
  · cases h
    exact settled_analyzed _
  · cases h

theorem uri_of_open? {uri : Url} {text : String} {d : Document} (h : open? uri text = .ok d) :
    d.uri = uri := by
  unfold open? at h
  split at h <;> cases h
  rfl

theorem text_of_open? {uri : Url} {text : String} {d : Document} (h : open? uri text = .ok d) :
    d.text = text := by
  unfold open? at h
  split at h <;> cases h
  rfl

theorem Made.sound {d : Document} (h : d.Made) : d.Sound := by
  cases h with
  | created uri language => exact (settled_create uri language).toSound
  | opened h => exact (settled_open? h).toSound
  | withText text _ => exact sound_withText _ text
  | analyzed _ => exact (settled_analyzed _).toSound

theorem settled_settled {d : Document} (h : d.Sound) : (Workspace.settled d).Settled := by
  unfold Workspace.settled
  cases hs : d.stale with
  | true => exact settled_analyzed d
  | false => exact ⟨h, hs⟩

end Document

/-! ## Workspaces -/

namespace Workspace

/-- A workspace that the operations of the library give. -/
inductive Reached : Workspace → Prop where
  | empty (options : Options) : Reached (.empty options)
  | add {w : Workspace} {d : Document} : Reached w → d.Made → Reached (w.add d)
  | update {w w' : Workspace} {uri : Url} {text : String} :
      Reached w → w.update? uri text = .ok w' → Reached w'
  | remove {w : Workspace} (uri : Url) : Reached w → Reached (w.remove uri)
  | withOptions {w : Workspace} (options : Options) : Reached w → Reached (w.withOptions options)

structure Sound (w : Workspace) : Prop where
  nodup : w.uris.Nodup
  settled : ∀ d ∈ w.documents, d.Settled

theorem Sound.add {w : Workspace} {d : Document} (h : w.Sound) (hd : d.Sound) :
    (w.add d).Sound := by
  refine ⟨?_, ?_⟩
  · rw [uris_add]
    split
    · exact h.nodup
    · rename_i hmem
      rw [List.nodup_append]
      refine ⟨h.nodup, by simp, ?_⟩
      intro a ha b hb
      rw [List.mem_singleton.1 hb]
      exact fun heq => hmem (heq ▸ ha)
  · intro e he
    rcases mem_insert he with rfl | he
    · exact Document.settled_settled hd
    · exact h.settled e he

theorem Sound.remove {w : Workspace} (h : w.Sound) (uri : Url) : (w.remove uri).Sound := by
  refine ⟨?_, fun d hd => h.settled d (List.mem_filter.1 hd).1⟩
  rw [uris_remove]
  exact h.nodup.filter _

/-- A new text is stored under the URL of its document. -/
theorem update?_eq_add {w w' : Workspace} {uri : Url} {text : String}
    (h : w.update? uri text = .ok w') :
    ∃ d, d.Sound ∧ d.uri = uri ∧ d.text = text ∧ w' = w.add d := by
  unfold update? at h
  split at h
  · rename_i d hd
    cases h
    exact ⟨d.withText text, Document.sound_withText d text, uri_of_get? (d := d) hd, rfl, rfl⟩
  · cases ho : Document.open? uri text with
    | error e => rw [ho] at h; cases h
    | ok d =>
        rw [ho] at h
        cases h
        exact ⟨d, (Document.settled_open? ho).toSound, Document.uri_of_open? ho,
          Document.text_of_open? ho, rfl⟩

/-- **Documents of a workspace have different URLs and describe their texts.** -/
theorem Reached.sound {w : Workspace} (h : w.Reached) : w.Sound := by
  induction h with
  | empty options => exact ⟨List.nodup_nil, fun d hd => by cases hd⟩
  | add _ hd ih => exact ih.add hd.sound
  | update _ hu ih =>
      obtain ⟨d, hd, -, -, rfl⟩ := update?_eq_add hu
      exact ih.add hd
  | remove uri _ ih => exact ih.remove uri
  | withOptions options _ ih => exact ⟨ih.nodup, ih.settled⟩

end Workspace

end Manuscript

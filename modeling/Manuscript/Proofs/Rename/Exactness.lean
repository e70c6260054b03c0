/-
# Manuscript.Proofs.Rename.Exactness -- a rename is the set of its occurrences

The occurrences of a document come as definitions and uses, each list in the order of
the text.  `Rename.inOrder` lists them as the scan met them, so they are placed in the
text (`placed_inOrder`) and sorting their spans gives this order back (`edits_eq`).

From that everything follows that an editor relies on when it applies the edits of one
document (`Rename.Replaces`): one edit for each occurrence, in the order of the text,
none touching the next, and both ends of each found again around the old name.  Since
a scope lists a document once, the changes are exactly the documents with an
occurrence (`Rename.Exact`, `Workspace.rename_exact`).
-/
import Manuscript.Proofs.Bibtex.Placement
import Manuscript.Proofs.Latex.Placement
import Manuscript.Proofs.Workspace.Scope
import Mathlib.Data.List.Nodup

namespace Manuscript

set_option autoImplicit false

open Text

namespace Rename

/-! ## Occurrences in the order of the text -/

/-- The occurrences of names of a sort as the scan of a text meets them. -/
def inOrder (sort : NameSort) (d : Document) : List Symbol :=
  match d.language, sort with
  | .latex, .label => (Latex.scan (.ofString d.text)).filterMap Latex.Event.labelled?
  | .latex, .citation => (Latex.scan (.ofString d.text)).filterMap Latex.Event.citation?
  | .bibtex, .label => []
  | .bibtex, .citation => (Bibtex.scan (.ofString d.text)).filterMap Bibtex.Event.key?

theorem perm_inOrder (sort : NameSort) {d : Document} (hd : d.Settled) :
    (occurrences sort d.contents).Perm (inOrder sort d) := by
  unfold inOrder
  rw [hd.contents]
  cases d.language with
  | latex =>
      cases sort with
      | label =>
          have := perm_filterMap_or (f := Latex.Event.label?) (g := Latex.Event.reference?)
            (fun e => by cases e <;> simp [Latex.Event.label?, Latex.Event.reference?])
            (Latex.scan (.ofString d.text))
          rw [show (fun e => (Latex.Event.label? e).or (Latex.Event.reference? e)) =
            Latex.Event.labelled? from funext fun e => by cases e <;> rfl] at this
          exact this
      | citation => exact .refl _
  | bibtex =>
      cases sort with
      | label => exact .refl _
      | citation => exact List.Perm.of_eq (Bibtex.keys_analyze d.text)

/-- **Occurrences are placed in the text.** -/
theorem placed_inOrder (sort : NameSort) (d : Document) :
    Placed (Solid isAsciiBlank) 0 d.text.toList (inOrder sort d) := by
  have hlatex := (Latex.placed_scan (.ofString d.text)).imp fun _ => Solid.of_isBlank
  unfold inOrder
  split
  · refine hlatex.sublist (sublist_filterMap (fun e s h => ?_) _)
    cases e <;> first | exact h | cases h
  · refine hlatex.sublist (sublist_filterMap (fun e s h => ?_) _)
    cases e <;> first | exact h | cases h
  · exact .nil _ _
  · exact Bibtex.placed_scan (.ofString d.text)

theorem placed_named (sort : NameSort) (name : String) (d : Document) :
    Placed (Solid isAsciiBlank) 0 d.text.toList (named name (inOrder sort d)) :=
  (placed_inOrder sort d).sublist List.filter_sublist

theorem mem_named {name : String} {symbols : List Symbol} {s : Symbol} :
    s ∈ named name symbols ↔ s ∈ symbols ∧ s.name = name := by
  simp [named]

/-! ## Edits -/

/-- Spans in the order of their starts are what sorting them gives. -/
theorem mergeSort_eq {spans inOrder : List Span} (hperm : spans.Perm inOrder)
    (hsorted : inOrder.Pairwise fun a b => a.start < b.start) :
    (spans.mergeSort fun a b => a.start ≤ b.start) = inOrder := by
  have hstarts : (inOrder.map Span.start).Nodup :=
    List.Pairwise.map _ (fun _ _ h => Nat.ne_of_lt h) hsorted
  have hle : (spans.mergeSort fun a b => a.start ≤ b.start).Pairwise fun a b =>
      a.start ≤ b.start := by
    have := @List.pairwise_mergeSort _ (fun a b : Span => decide (a.start ≤ b.start))
      (fun a b c hab hbc => by simp only [decide_eq_true_eq] at *; omega)
      (fun a b => by simp only [Bool.or_eq_true, decide_eq_true_eq]; omega) spans
    exact this.imp fun h => of_decide_eq_true h
  have hperm' := (List.mergeSort_perm spans fun a b => a.start ≤ b.start).trans hperm
  refine List.Perm.eq_of_pairwise (fun a b ha hb hab hba => ?_) hle
    (hsorted.imp Nat.le_of_lt) hperm'
  exact List.inj_on_of_nodup_map hstarts (hperm'.mem_iff.1 ha) hb (Nat.le_antisymm hab hba)

/-- The edits of a document are those of its occurrences as the scan meets them. -/
theorem edits_eq (sort : NameSort) (oldName newName : String) {d : Document} (hd : d.Settled) :
    edits sort oldName newName d =
      (named oldName (inOrder sort d)).map fun s => ⟨d.range s.span, newName⟩ := by
  have hplaced := placed_named sort oldName d
  have hperm : ((named oldName (occurrences sort d.contents)).map Symbol.span).Perm
      ((named oldName (inOrder sort d)).map Symbol.span) :=
    ((perm_inOrder sort hd).filter _).map _
  have hsorted : ((named oldName (inOrder sort d)).map Symbol.span).Pairwise
      fun a b => a.start < b.start :=
    List.pairwise_map.2 (hplaced.increasing fun _ h => h.nonempty)
  unfold edits
  simp only
  rw [mergeSort_eq hperm hsorted, List.map_map]
  rfl

end Rename

/-- The bytes that an edit of a document replaces, from the two places that it names. -/
def Edit.span? (d : Document) (e : Edit) : Option Span := do
  let start ← d.offset? e.range.start
  let stop ← d.offset? e.range.stop
  pure ⟨start, stop⟩

namespace Rename

/-- The edits of a document put a new name for exactly the occurrences of another. -/
structure Replaces (sort : NameSort) (oldName newName : String) (d : Document)
    (edits : List Edit) : Prop where
  /-- The new name stands in every edit. -/
  text : ∀ e ∈ edits, e.text = newName
  /-- No edit is empty, and each ends before the next one starts. -/
  forward : ∀ e ∈ edits, e.range.start.Before e.range.stop
  separate : edits.Pairwise fun a b => a.range.stop.Before b.range.start
  /-- The places of the edits are those of the occurrences, one edit for each. -/
  found : ∃ spans : List Span, edits.map (Edit.span? d) = spans.map some ∧
    spans.Perm ((named oldName (occurrences sort d.contents)).map Symbol.span) ∧
    (spans.Pairwise fun a b => a.stop < b.start) ∧
    ∀ s ∈ spans, slice? d.text.toList s = some oldName.toList

theorem position_eq {d : Document} (hd : d.Settled) (offset : Nat) :
    d.position offset = (LineIndex.ofText d.text.toList).position d.text.toList offset := by
  rw [Document.position, hd.lineIndex_eq, LineIndex.ofString]

theorem offset?_eq {d : Document} (hd : d.Settled) (p : Position) :
    d.offset? p = (LineIndex.ofText d.text.toList).offset? d.text.toList p := by
  rw [Document.offset?, hd.lineIndex_eq, LineIndex.ofString]

/-- The edit of an occurrence replaces its span. -/
theorem span?_eq {sort : NameSort} {d : Document} (hd : d.Settled) {s : Symbol}
    (hs : s ∈ inOrder sort d) (newName : String) :
    Edit.span? d ⟨d.range s.span, newName⟩ = some s.span := by
  have hplaced := placed_inOrder sort d
  simp only [Edit.span?, Document.range, position_eq hd, offset?_eq hd, hplaced.offset?_start hs,
    hplaced.offset?_stop hs]
  rfl

theorem replaces_edits (sort : NameSort) (oldName newName : String) {d : Document}
    (hd : d.Settled) : Replaces sort oldName newName d (edits sort oldName newName d) := by
  have hplaced := placed_named sort oldName d
  have hposition := position_eq hd
  rw [edits_eq sort oldName newName hd]
  constructor
  case text =>
    intro e he
    obtain ⟨s, -, rfl⟩ := List.mem_map.1 he
    rfl
  case forward =>
    intro e he
    obtain ⟨s, hs, rfl⟩ := List.mem_map.1 he
    show (d.position s.span.start).Before (d.position s.span.stop)
    rw [hposition, hposition]
    exact LineIndex.position_before (hplaced.boundary_start hs) (hplaced.boundary_stop hs)
      (hplaced.start_lt_stop (fun _ h => h.nonempty) hs)
  case separate =>
    rw [List.pairwise_map]
    refine List.pairwise_iff_forall_sublist.2 fun {a b} hab => ?_
    show (d.position a.span.stop).Before (d.position b.span.start)
    rw [hposition, hposition]
    exact LineIndex.position_before (hplaced.boundary_stop (hab.subset (by simp)))
      (hplaced.boundary_start (hab.subset (by simp)))
      (List.pairwise_iff_forall_sublist.1 hplaced.pairwise hab)
  case found =>
    refine ⟨(named oldName (inOrder sort d)).map Symbol.span, ?_, ?_, ?_, ?_⟩
    · rw [List.map_map, List.map_map]
      exact List.map_congr_left fun s hs => span?_eq hd (mem_named.1 hs).1 newName
    · exact ((perm_inOrder sort hd).symm.filter _).map _
    · exact List.pairwise_map.2 hplaced.pairwise
    · intro span hspan
      obtain ⟨s, hs, rfl⟩ := List.mem_map.1 hspan
      rw [hplaced.slice? hs, (mem_named.1 hs).2]

/-! ## Changes -/

/-- Changes of different documents are put side by side. -/
theorem foldl_putChange (changes more : List (Url × List Edit))
    (h : ((changes ++ more).map Prod.fst).Nodup) :
    more.foldl putChange changes = changes ++ more := by
  induction more generalizing changes with
  | nil => rw [List.foldl_nil, List.append_nil]
  | cons change more ih =>
      have hnew : changes.any (·.1 = change.1) = false := by
        rw [List.any_eq_false]
        intro other hother
        rw [List.map_append, List.nodup_append] at h
        have := h.2.2 other.1 (List.mem_map_of_mem hother) change.1 (by simp)
        simpa using this
      have happend : changes ++ change :: more = (changes ++ [change]) ++ more := by simp
      rw [happend] at h ⊢
      rw [List.foldl_cons, putChange, hnew]
      exact ih _ h

/-- Different documents have their edits under different URLs. -/
theorem nodup_edited (sort : NameSort) (oldName newName : String) {related : List Document}
    (h : (related.map Document.uri).Nodup) :
    (((related.map fun d => (d.uri, edits sort oldName newName d)).filter fun change =>
      change.2 ≠ []).map Prod.fst).Nodup := by
  refine h.sublist ?_
  have := (List.filter_sublist (p := fun change : Url × List Edit => change.2 ≠ [])
    (l := related.map fun d => (d.uri, edits sort oldName newName d))).map Prod.fst
  rwa [List.map_map] at this

theorem changesIn_eq (sort : NameSort) (oldName newName : String) {related : List Document}
    (h : (related.map Document.uri).Nodup) :
    changesIn sort oldName newName related =
      (related.map fun d => (d.uri, edits sort oldName newName d)).filter fun change =>
        change.2 ≠ [] := by
  unfold changesIn
  simp only
  rw [foldl_putChange, List.nil_append]
  rw [List.nil_append]
  exact nodup_edited sort oldName newName h

theorem exists_of_mem_changesIn {sort : NameSort} {oldName newName : String}
    {related : List Document} (h : (related.map Document.uri).Nodup) {change : Url × List Edit}
    (hchange : change ∈ changesIn sort oldName newName related) :
    ∃ d ∈ related, change = (d.uri, edits sort oldName newName d) := by
  rw [changesIn_eq sort oldName newName h] at hchange
  obtain ⟨d, hd, rfl⟩ := List.mem_map.1 (List.mem_filter.1 hchange).1
  exact ⟨d, hd, rfl⟩

/-- A rename puts its new name for exactly the occurrences of its old name in a scope. -/
structure Exact (r : Rename) (sort : NameSort) (scope : List Document) : Prop where
  /-- The documents with an occurrence, in the order of the scope. -/
  documents : r.changes.map Prod.fst =
    (scope.filter fun d => named r.oldName (occurrences sort d.contents) ≠ []).map Document.uri
  nodup : (r.changes.map Prod.fst).Nodup
  edits : ∀ d ∈ scope, ∀ es, (d.uri, es) ∈ r.changes →
    Replaces sort r.oldName r.newName d es

theorem edits_eq_nil_iff (sort : NameSort) (oldName newName : String) {d : Document}
    (hd : d.Settled) :
    edits sort oldName newName d = [] ↔ named oldName (occurrences sort d.contents) = [] := by
  rw [edits_eq sort oldName newName hd, List.map_eq_nil_iff]
  have hperm : (named oldName (occurrences sort d.contents)).Perm
      (named oldName (inOrder sort d)) := (perm_inOrder sort hd).filter _
  exact ⟨fun h => List.Perm.eq_nil (h ▸ hperm), fun h => List.Perm.eq_nil (h ▸ hperm).symm⟩

theorem exact_changesIn (sort : NameSort) (oldName newName : String) {related : List Document}
    (hsettled : ∀ d ∈ related, d.Settled) (hnodup : (related.map Document.uri).Nodup) :
    Exact ⟨oldName, newName, changesIn sort oldName newName related⟩ sort related := by
  have hdocuments : (changesIn sort oldName newName related).map Prod.fst =
      (related.filter fun d => named oldName (occurrences sort d.contents) ≠ []).map
        Document.uri := by
    rw [changesIn_eq sort oldName newName hnodup, List.filter_map, List.map_map]
    congr 1
    apply List.filter_congr
    intro d hd
    have := edits_eq_nil_iff sort oldName newName (hsettled d hd)
    simp only [Function.comp_apply, ne_eq, this]
  refine ⟨hdocuments, ?_, ?_⟩
  · rw [hdocuments]
    exact hnodup.sublist (List.filter_sublist.map _)
  · intro d hd es hes
    obtain ⟨d', hd', heq⟩ := exists_of_mem_changesIn hnodup hes
    obtain ⟨huri, rfl⟩ := Prod.mk.inj heq
    rw [List.inj_on_of_nodup_map hnodup hd' hd huri.symm]
    exact replaces_edits sort oldName newName (hsettled d hd)

/-! ## The symbol under the cursor -/

theorem mem_occurrences_of_target? {contents : Structure} {offset : Nat} {symbol : Symbol}
    {sort : NameSort} (h : target? contents offset = some (symbol, sort)) :
    symbol ∈ occurrences sort contents ∧ symbol.span.touches offset := by
  have htouched (sort' : NameSort) (symbols : List Symbol)
      (h : (symbols.find? (·.span.touches offset)).map (fun symbol => (symbol, sort')) =
        some (symbol, sort)) : sort' = sort ∧ symbol ∈ symbols ∧ symbol.span.touches offset := by
    obtain ⟨s, hs, heq⟩ := Option.map_eq_some_iff.1 h
    cases heq
    exact ⟨rfl, List.mem_of_find?_eq_some hs,
      List.find?_some (p := fun s : Symbol => s.span.touches offset) hs⟩
  unfold target? at h
  cases contents with
  | latex s =>
      rcases Option.or_eq_some_iff.1 h with h | ⟨-, h⟩
      · obtain ⟨rfl, hmem⟩ := htouched _ _ h
        exact hmem
      · obtain ⟨rfl, hmem⟩ := htouched _ _ h
        exact hmem
  | bibtex s =>
      obtain ⟨rfl, hmem⟩ := htouched _ _ h
      exact hmem

theorem mem_occurrences_of_symbolAt? {origin : Document} {p : Position} {symbol : Symbol}
    {sort : NameSort} (h : symbolAt? origin p = .ok (symbol, sort)) :
    symbol ∈ occurrences sort origin.contents ∧
      ∃ offset, origin.offset? p = some offset ∧ symbol.span.touches offset := by
  unfold symbolAt? at h
  split at h
  · rename_i found hfound
    cases h
    obtain ⟨offset, hoffset, htarget⟩ := Option.bind_eq_some_iff.1 hfound
    obtain ⟨hmem, htouches⟩ := mem_occurrences_of_target? htarget
    exact ⟨hmem, offset, hoffset, htouches⟩
  · cases h

/-- All that a cursor can be on, of either sort, as the scan of a text meets it. -/
def symbolsInOrder (d : Document) : List Symbol :=
  match d.language with
  | .latex => (Latex.scan (.ofString d.text)).filterMap fun e => e.labelled?.or e.citation?
  | .bibtex => (Bibtex.scan (.ofString d.text)).filterMap Bibtex.Event.key?

theorem perm_symbolsInOrder {d : Document} (hd : d.Settled) :
    (occurrences .label d.contents ++ occurrences .citation d.contents).Perm
      (symbolsInOrder d) := by
  refine ((perm_inOrder .label hd).append (perm_inOrder .citation hd)).trans ?_
  unfold inOrder symbolsInOrder
  cases d.language with
  | latex =>
      exact perm_filterMap_or (fun e => by
        cases e <;> simp [Latex.Event.labelled?, Latex.Event.citation?]) _
  | bibtex => exact .refl _

/-- Symbols of both sorts are placed in the text together. -/
theorem placed_symbolsInOrder (d : Document) :
    Placed (Solid isAsciiBlank) 0 d.text.toList (symbolsInOrder d) := by
  unfold symbolsInOrder
  split
  · refine ((Latex.placed_scan (.ofString d.text)).imp fun _ => Solid.of_isBlank).sublist
      (sublist_filterMap (fun e s h => ?_) _)
    cases e <;> first | exact h | cases h
  · exact Bibtex.placed_scan (.ofString d.text)

/-- **A cursor is on one symbol at most**, whatever the symbols name. -/
theorem eq_of_touches {d : Document} (hd : d.Settled) {s t : Symbol} {sort sort' : NameSort}
    (hs : s ∈ occurrences sort d.contents) (ht : t ∈ occurrences sort' d.contents) {offset : Nat}
    (hso : s.span.touches offset = true) (hto : t.span.touches offset = true) :
    t = s ∧ sort' = sort := by
  have hplaced := placed_symbolsInOrder d
  have hperm := perm_symbolsInOrder hd
  have hmem : ∀ {u sort}, u ∈ occurrences sort d.contents → u ∈ symbolsInOrder d := by
    intro u sort hu
    refine hperm.mem_iff.1 (List.mem_append.2 ?_)
    cases sort with
    | label => exact Or.inl hu
    | citation => exact Or.inr hu
  have heq : t = s := hplaced.eq_of_touches (hmem ht) (hmem hs) hto hso
  subst heq
  -- the sorts have no symbol in common, since the symbols of both come without repetition
  have hnodup : (symbolsInOrder d).Nodup :=
    nodup_of_increasing (hplaced.increasing fun _ h => h.nonempty)
  have hapart := (List.nodup_append.1 (hperm.nodup_iff.2 hnodup)).2.2
  refine ⟨rfl, ?_⟩
  cases sort with
  | label =>
      cases sort' with
      | label => rfl
      | citation => exact absurd rfl (hapart t hs t ht)
  | citation =>
      cases sort' with
      | label => exact absurd rfl (hapart t ht t hs)
      | citation => rfl

/-- Where no symbol is found, none is touched. -/
theorem not_touches_of_target? {contents : Structure} {offset : Nat}
    (h : target? contents offset = none) {sort : NameSort} {s : Symbol}
    (hs : s ∈ occurrences sort contents) : ¬ s.span.touches offset = true := by
  unfold target? at h
  cases contents with
  | latex contents =>
      obtain ⟨hlabel, hcitation⟩ := Option.or_eq_none_iff.1 h
      cases sort with
      | label => exact List.find?_eq_none.1 (Option.map_eq_none_iff.1 hlabel) s hs
      | citation => exact List.find?_eq_none.1 (Option.map_eq_none_iff.1 hcitation) s hs
  | bibtex contents =>
      cases sort with
      | label => cases hs
      | citation => exact List.find?_eq_none.1 (Option.map_eq_none_iff.1 h) s hs

/-- A cursor that touches a symbol is on it. -/
theorem symbolAt?_touched {d : Document} (hd : d.Settled) {sort : NameSort} {s : Symbol}
    (hs : s ∈ occurrences sort d.contents) {p : Position} {offset : Nat}
    (hoffset : d.offset? p = some offset) (htouches : s.span.touches offset = true) :
    symbolAt? d p = .ok (s, sort) := by
  have htarget : target? d.contents offset = some (s, sort) := by
    cases hfound : target? d.contents offset with
    | none => exact absurd htouches (not_touches_of_target? hfound hs)
    | some found =>
        obtain ⟨t, sort'⟩ := found
        obtain ⟨ht, hto⟩ := mem_occurrences_of_target? hfound
        obtain ⟨rfl, rfl⟩ := eq_of_touches hd hs ht htouches hto
        rfl
  simp only [symbolAt?, hoffset, Option.bind_eq_bind, Option.bind_some, htarget]

/-! ## The run -/

/-- The rename of a name in a scope, wherever the cursor is. -/
def ofName? (sort : NameSort) (oldName newName : String) (related : List Document) :
    Except Error Rename :=
  if isValidName newName = true then
    if 1 < definitionCount sort oldName related then
      .error (.ambiguousSymbol oldName (definitionCount sort oldName related))
    else .ok ⟨oldName, newName, changesIn sort oldName newName related⟩
  else .error (.invalidName newName)

/-- The cursor decides which name is renamed, and nothing else. -/
theorem run?_eq (origin : Document) (related : List Document) (p : Position) (newName : String) :
    run? origin related p newName =
      symbolAt? origin p >>= fun found => ofName? found.2 found.1.name newName related := by
  unfold run? ofName?
  cases symbolAt? origin p with
  | error e => rfl
  | ok found =>
      by_cases hvalid : isValidName newName = true <;>
        by_cases hmany : 1 < definitionCount found.2 found.1.name related <;>
          simp [hvalid, hmany, bind, Except.bind, pure, Except.pure, throw, throwThe,
            MonadExceptOf.throw]

/-- A rename succeeds from a symbol that is defined at most once, with a name that can be read
back. -/
theorem run?_eq_ok_iff {origin : Document} {related : List Document} {p : Position}
    {newName : String} {r : Rename} :
    run? origin related p newName = .ok r ↔
      ∃ symbol sort, symbolAt? origin p = .ok (symbol, sort) ∧ isValidName newName = true ∧
        definitionCount sort symbol.name related ≤ 1 ∧
        r = ⟨symbol.name, newName, changesIn sort symbol.name newName related⟩ := by
  rw [run?_eq]
  cases symbolAt? origin p with
  | error e =>
      refine ⟨fun h => (by cases h), ?_⟩
      rintro ⟨symbol, sort, h, -⟩
      cases h
  | ok found =>
      show ofName? found.2 found.1.name newName related = .ok r ↔ _
      unfold ofName?
      constructor
      · intro h
        split at h
        · rename_i hvalid
          split at h
          · cases h
          · rename_i hfew
            cases h
            exact ⟨found.1, found.2, rfl, hvalid, Nat.not_lt.1 hfew, rfl⟩
        · cases h
      · rintro ⟨symbol, sort, hfound, hvalid, hfew, rfl⟩
        cases hfound
        rw [if_pos hvalid, if_neg (Nat.not_lt.2 hfew)]

end Rename

namespace Workspace

variable {w : Workspace} {settings : Settings} {uri : Url} {p : Position} {newName : String}
  {r : Rename}

/-- A rename that a workspace answers is the run of its origin in its scope. -/
theorem rename?_eq_ok_iff :
    (w.rename? uri p newName >>= Request.answer? settings) = .ok (.rename r) ↔
      ∃ scope origin, w.scope? uri = .ok scope ∧ w.get? uri = some origin ∧
        Rename.run? origin scope p newName = .ok r := by
  have hanswer {origin : Document} (hget : w.get? uri = some origin) :
      (w.rename? uri p newName >>= Request.answer? settings) =
        .rename <$> Rename.run? origin (w.graph.traverse w.options.followParents uri) p
          newName := by
    simp only [rename?, scope?_of_get? hget, bind, Except.bind, pure, Except.pure, Request.answer?,
      origin?_traverse hget]
  constructor
  · intro h
    cases hscope : w.scope? uri with
    | error e =>
        rw [rename?, hscope] at h
        cases h
    | ok scope =>
        obtain ⟨origin, hget, rfl⟩ := exists_of_scope? hscope
        refine ⟨_, origin, rfl, hget, ?_⟩
        rw [hanswer hget] at h
        cases hrun : Rename.run? origin (w.graph.traverse w.options.followParents uri) p
            newName with
        | error e => rw [hrun] at h; cases h
        | ok r' => rw [hrun] at h; cases h; rfl
  · rintro ⟨scope, origin, hscope, hget, hrun⟩
    rw [scope?_of_get? hget] at hscope
    cases hscope
    rw [hanswer hget, hrun]
    rfl

/-- **A rename is exactly the set of occurrences of the name under the cursor.** -/
theorem rename_exact (reached : w.Reached)
    (h : (w.rename? uri p newName >>= Request.answer? settings) = .ok (.rename r)) :
    ∃ scope origin symbol sort offset, w.scope? uri = .ok scope ∧ w.get? uri = some origin ∧
      Rename.symbolAt? origin p = .ok (symbol, sort) ∧
      origin.offset? p = some offset ∧ symbol.span.touches offset ∧
      r.oldName = symbol.name ∧ r.newName = newName ∧ r.Exact sort scope ∧
      ∃ edits, (uri, edits) ∈ r.changes ∧ ⟨origin.range symbol.span, newName⟩ ∈ edits := by
  obtain ⟨scope, origin, hscope, hget, hrun⟩ := rename?_eq_ok_iff.1 h
  obtain ⟨symbol, sort, hsymbol, -, -, rfl⟩ := Rename.run?_eq_ok_iff.1 hrun
  obtain ⟨hoccurs, offset, hoffset, htouches⟩ := Rename.mem_occurrences_of_symbolAt? hsymbol
  obtain ⟨hnodup, hdocuments⟩ := reached.sound.of_scope? hscope
  refine ⟨scope, origin, symbol, sort, offset, hscope, hget, hsymbol, hoffset, htouches, rfl, rfl,
    Rename.exact_changesIn sort symbol.name newName (fun d hd => (hdocuments d hd).2.2) hnodup, ?_⟩
  -- the symbol is an occurrence of its own name, so the origin has edits
  have hmem := mem_scope_of_get? hget hscope
  have hsettled := (hdocuments origin hmem).2.2
  have hedit : (⟨origin.range symbol.span, newName⟩ : Edit) ∈
      Rename.edits sort symbol.name newName origin := by
    rw [Rename.edits_eq sort symbol.name newName hsettled]
    refine List.mem_map.2 ⟨symbol, Rename.mem_named.2 ⟨?_, rfl⟩, rfl⟩
    exact (Rename.perm_inOrder sort hsettled).mem_iff.1 hoccurs
  refine ⟨_, ?_, hedit⟩
  simp only [Rename.changesIn_eq sort symbol.name newName hnodup, List.mem_filter, List.mem_map]
  refine ⟨⟨origin, hmem, by rw [uri_of_get? hget]⟩, ?_⟩
  simpa using List.ne_nil_of_mem hedit

namespace Example

/-- A document that includes a chapter, and both refer to its label. -/
def book : Document := ((Document.create ⟨"file", some ⟨"", "", none⟩, "/book.tex", none, none⟩
  .latex).withText "\\label{x}\n\\input{chapter}\\cref{y, x}").analyzed

def chapter : Document := ((Document.create ⟨"file", some ⟨"", "", none⟩, "/chapter.tex", none,
  none⟩ .latex).withText "\\ref{x}").analyzed

def shelf : Workspace := ((Workspace.empty ⟨none, false⟩).add book).add chapter

theorem reached_shelf : shelf.Reached :=
  ((Reached.empty _).add (.analyzed (.withText _ (.created _ _)))).add
    (.analyzed (.withText _ (.created _ _)))

theorem scope_book : shelf.scope? book.uri = .ok [book, chapter] := by
  have hget : shelf.get? book.uri = some book := by decide +kernel
  have hwalk : shelf.graph.visitWithin false 4 [] [book.uri] = some [book, chapter] := by
    decide +kernel
  exact scope?_of_within hget hwalk

/-- The rename of the label where it is defined. -/
def renamed : Rename :=
  ⟨"x", "new", [(book.uri, [⟨⟨⟨0, 7⟩, ⟨0, 8⟩⟩, "new"⟩, ⟨⟨⟨1, 24⟩, ⟨1, 25⟩⟩, "new"⟩]),
    (chapter.uri, [⟨⟨⟨0, 5⟩, ⟨0, 6⟩⟩, "new"⟩])]⟩

theorem changesIn_shelf :
    Rename.changesIn .label "x" "new" [book, chapter] = renamed.changes := by
  have hbook := Rename.edits_eq .label "x" "new" (Document.settled_analyzed
    ((Document.create book.uri .latex).withText book.text))
  have hchapter := Rename.edits_eq .label "x" "new" (Document.settled_analyzed
    ((Document.create chapter.uri .latex).withText chapter.text))
  rw [Rename.changesIn_eq _ _ _ (by decide +kernel), List.map_cons, List.map_cons, List.map_nil,
    show book = ((Document.create book.uri .latex).withText book.text).analyzed from rfl,
    show chapter = ((Document.create chapter.uri .latex).withText chapter.text).analyzed from rfl,
    hbook, hchapter]
  decide +kernel

theorem rename_book : (shelf.rename? book.uri ⟨0, 7⟩ "new" >>=
    Request.answer? Settings.default) = .ok (.rename renamed) :=
  rename?_eq_ok_iff.2 ⟨_, book, scope_book, by decide +kernel,
    Rename.run?_eq_ok_iff.2 ⟨⟨"x", ⟨7, 8⟩⟩, .label, by decide +kernel, by decide, by decide +kernel,
      by rw [changesIn_shelf]; rfl⟩⟩

end Example

theorem rename_exact_book :
    (Example.shelf.Reached ∧ (Example.shelf.rename? Example.book.uri ⟨0, 7⟩ "new" >>=
      Request.answer? Settings.default) = .ok (.rename Example.renamed)) ∧
      ∃ sort, Example.renamed.Exact sort [Example.book, Example.chapter] := by
  obtain ⟨scope, origin, symbol, sort, offset, hscope, -, -, -, -, -, -, hexact, -⟩ :=
    rename_exact Example.reached_shelf Example.rename_book
  rw [Example.scope_book] at hscope
  cases hscope
  exact ⟨⟨Example.reached_shelf, Example.rename_book⟩, sort, hexact⟩

end Workspace

end Manuscript

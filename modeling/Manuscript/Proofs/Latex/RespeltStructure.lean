/-
# Manuscript.Proofs.Latex.RespeltStructure -- what the structure of a text keeps

Two spellings of a text have the events of `Event.Respelt`.  Braces and environments are
matched over the events, and what is open or found wrong stays in the same place
(`Pending.Respelt`).  Places of two fillings are in the same order, so the problems are
sorted alike, and the structures agree in everything but spans, the name itself and the
titles of headings (`exists_form_analyze`).

Where the new name is nobody else's, it stands in the new text where the form is open
(`holes_eq_nameSpans`), so the way back is the same form filled again.
-/
import Manuscript.Proofs.Latex.RespeltScan
import Mathlib.Data.List.TakeDrop

namespace Manuscript.Latex

set_option autoImplicit false

open Text Text.Form

variable {sort : NameSort} {u v : List Char} {same : Nat → Nat → Prop}

/-! ## Related lists -/

theorem forall₂_takeWhile {α β : Type} {R : α → β → Prop} {p : α → Bool} {q : β → Bool}
    (h : ∀ a b, R a b → p a = q b) {as : List α} {bs : List β} (hall : List.Forall₂ R as bs) :
    List.Forall₂ R (as.takeWhile p) (bs.takeWhile q) ∧
      List.Forall₂ R (as.dropWhile p) (bs.dropWhile q) := by
  induction hall with
  | nil => exact ⟨.nil, .nil⟩
  | cons hab hrest ih =>
      rename_i a b as bs
      rw [List.takeWhile_cons, List.takeWhile_cons, List.dropWhile_cons, List.dropWhile_cons,
        h a b hab]
      cases q b with
      | true => exact ⟨.cons hab ih.1, ih.2⟩
      | false => exact ⟨.nil, .cons hab hrest⟩

/-- Lists whose elements compare alike are sorted alike. -/
theorem forall₂_mergeSort {α β : Type} {R : α → β → Prop} {le : α → α → Bool} {le' : β → β → Bool}
    (h : ∀ a a' b b', R a a' → R b b' → le a b = le' a' b') {as : List α} {bs : List β}
    (hall : List.Forall₂ R as bs) : List.Forall₂ R (as.mergeSort le) (bs.mergeSort le') := by
  obtain ⟨hlength, hzip⟩ := List.forall₂_iff_zip.1 hall
  have hfst : (as.zip bs).map Prod.fst = as := List.map_fst_zip (Nat.le_of_eq hlength)
  have hsnd : (as.zip bs).map Prod.snd = bs := List.map_snd_zip (Nat.le_of_eq hlength.symm)
  -- the pairs are sorted by their left sides, which is sorting by their right sides
  have hleft := @List.map_mergeSort _ _ (fun x y : α × β => le x.1 y.1) le Prod.fst (as.zip bs)
    fun _ _ _ _ => rfl
  have hright := @List.map_mergeSort _ _ (fun x y : α × β => le x.1 y.1) le' Prod.snd (as.zip bs)
    fun x hx y hy => h x.1 x.2 y.1 y.2 (hzip hx) (hzip hy)
  rw [hfst] at hleft
  rw [hsnd] at hright
  rw [← hleft, ← hright, List.forall₂_map_left_iff, List.forall₂_map_right_iff, List.forall₂_same]
  intro x hx
  exact hzip (List.mem_mergeSort.1 hx)

/-! ## What is open -/

/-- What is open, and what was found wrong, is so in the same places. -/
structure Pending.Respelt (same : Nat → Nat → Prop) (p p' : Pending) : Prop where
  braces : List.Forall₂ (fun o o' => same o o' ∧ same (o + 1) (o' + 1)) p.braces p'.braces
  environments : List.Forall₂ (fun e e' : String × Span => e.1 = e'.1 ∧ SameSpan same e.2 e'.2)
    p.environments p'.environments
  matched : p.matched.map Environment.name = p'.matched.map Environment.name
  diagnostics : List.Forall₂ (DiagnosticRespelt same) p.diagnostics p'.diagnostics

namespace Pending

variable {p p' : Pending}

theorem respelt_unclosed {environments environments' : List (String × Span)}
    (h : List.Forall₂ (fun e e' : String × Span => e.1 = e'.1 ∧ SameSpan same e.2 e'.2)
      environments environments') :
    List.Forall₂ (DiagnosticRespelt same) (unclosed environments) (unclosed environments') := by
  refine List.rel_map ?_ (List.rel_reverse h)
  rintro ⟨name, s⟩ ⟨name', s'⟩ ⟨hname, hs⟩
  obtain rfl : name = name' := hname
  exact ⟨rfl, rfl, rfl, hs⟩

theorem Respelt.close (h : Respelt same p p') (name : String) {s s' : Span}
    (hs : SameSpan same s s') : Respelt same (p.close name s) (p'.close name s') := by
  obtain ⟨hinner, houter⟩ := forall₂_takeWhile (p := fun e : String × Span => decide (e.1 ≠ name))
    (q := fun e : String × Span => decide (e.1 ≠ name)) (fun e e' he => by rw [he.1]) h.environments
  unfold Pending.close
  rw [List.span_eq_takeWhile_dropWhile, List.span_eq_takeWhile_dropWhile]
  generalize p.environments.takeWhile _ = inner at hinner ⊢
  generalize p'.environments.takeWhile _ = inner' at hinner ⊢
  generalize p.environments.dropWhile _ = outer at houter ⊢
  generalize p'.environments.dropWhile _ = outer' at houter ⊢
  cases houter with
  | nil =>
      refine ⟨h.braces, h.environments, h.matched, List.rel_append h.diagnostics ?_⟩
      exact .cons ⟨rfl, rfl, rfl, hs⟩ .nil
  | cons he houter =>
      refine ⟨h.braces, houter, ?_, List.rel_append h.diagnostics (respelt_unclosed hinner)⟩
      rw [List.map_append, List.map_append, h.matched]
      rfl

/-- **An event of two spellings keeps what is open alike.** -/
theorem Respelt.step (h : Respelt same p p') {e e' : Event}
    (he : Event.Respelt sort u v same e e') : Respelt same (p.step e) (p'.step e') := by
  cases he with
  | braceOpened hstart hstop => exact { h with braces := .cons ⟨hstart, hstop⟩ h.braces }
  | braceClosed hstart hstop =>
      obtain ⟨braces, environments, matched, diagnostics⟩ := p
      obtain ⟨braces', environments', matched', diagnostics'⟩ := p'
      cases h.braces with
      | nil =>
          refine ⟨.nil, h.environments, h.matched, List.rel_append h.diagnostics ?_⟩
          exact .cons ⟨rfl, rfl, rfl, hstart, hstop⟩ .nil
      | cons _ houter => exact ⟨houter, h.environments, h.matched, h.diagnostics⟩
  | environmentOpened name hs => exact { h with environments := .cons ⟨rfl, hs⟩ h.environments }
  | environmentClosed name hs => exact h.close name hs
  | verbatim hname =>
      refine { h with matched := ?_ }
      show (p.matched ++ [_]).map _ = (p'.matched ++ [_]).map _
      rw [List.map_append, List.map_append, h.matched, List.map_singleton, List.map_singleton,
        hname]
  | fault hd => exact { h with diagnostics := List.rel_append h.diagnostics (.cons hd .nil) }
  | _ => exact h

theorem Respelt.foldl (h : Respelt same p p') {es es' : List Event}
    (hes : List.Forall₂ (Event.Respelt sort u v same) es es') :
    Respelt same (es.foldl Pending.step p) (es'.foldl Pending.step p') := by
  induction hes generalizing p p' with
  | nil => exact h
  | cons he _ ih => exact ih (h.step he)

theorem Respelt.finish (h : Respelt same p p') :
    List.Forall₂ (DiagnosticRespelt same) p.finish p'.finish := by
  refine List.rel_append (List.rel_append h.diagnostics ?_) (respelt_unclosed h.environments)
  refine List.rel_map ?_ (List.rel_reverse h.braces)
  rintro o o' ⟨hstart, hstop⟩
  exact ⟨rfl, rfl, rfl, hstart, hstop⟩

end Pending

/-! ## Structures -/

/-- The structures agree up to a name of a sort and to places.  Headings may hold names. -/
structure Structure.Respelt (sort : NameSort) (u v : List Char) (same : Nat → Nat → Prop)
    (s s' : Structure) : Prop where
  includes : List.Forall₂ (fun i i' : Include => i.kind = i'.kind ∧ i.path = i'.path)
    s.includes s'.includes
  labelDefinitions : List.Forall₂ (SymbolKept u v same sort .label) s.labelDefinitions
    s'.labelDefinitions
  labelReferences : List.Forall₂ (SymbolKept u v same sort .label) s.labelReferences
    s'.labelReferences
  citations : List.Forall₂ (SymbolKept u v same sort .citation) s.citations s'.citations
  environments : s.environments.map Environment.name = s'.environments.map Environment.name
  commandDefinitions : List.Forall₂ (fun c c' : Symbol => c.name = c'.name)
    s.commandDefinitions s'.commandDefinitions
  commands : s.commands = s'.commands
  diagnostics : List.Forall₂ (DiagnosticRespelt same) s.diagnostics s'.diagnostics

/-- Two spans that stand in the same places as two others compare in the same way. -/
theorem atOrBefore_eq (hu : u ≠ []) (hv : v ≠ []) {F : Form} {a a' b b' : Diagnostic}
    (ha : DiagnosticRespelt (Same u v F) a a') (hb : DiagnosticRespelt (Same u v F) b b') :
    a.atOrBefore b = a'.atOrBefore b' := by
  have hlt := ha.span.1.lt_iff hu hv hb.span.1
  have heq := ha.span.1.eq_iff hu hv hb.span.1
  have hle := hb.span.2.lt_iff hu hv ha.span.2
  rw [Bool.eq_iff_iff]
  simp only [Diagnostic.atOrBefore, Bool.or_eq_true, Bool.and_eq_true, decide_eq_true_eq,
    beq_iff_eq]
  omega

theorem respelt_ofEvents (hu : u ≠ []) (hv : v ≠ []) {F : Form} {es es' : List Event}
    (h : List.Forall₂ (Event.Respelt sort u v (Same u v F)) es es') :
    (Structure.ofEvents es).Respelt sort u v (Same u v F) (Structure.ofEvents es') where
  includes := by
    refine List.rel_filterMap (fun e e' he => ?_) h
    cases he with
    | inclusion hkind hpath => exact .some ⟨hkind, hpath⟩
    | _ => exact .none
  labelDefinitions := by
    refine List.rel_filterMap (fun e e' he => ?_) h
    cases he with
    | label hs => exact .some hs
    | _ => exact .none
  labelReferences := by
    refine List.rel_filterMap (fun e e' he => ?_) h
    cases he with
    | reference hs => exact .some hs
    | _ => exact .none
  citations := by
    refine List.rel_filterMap (fun e e' he => ?_) h
    cases he with
    | citation hs => exact .some hs
    | _ => exact .none
  environments := by
    have hstart : Pending.start.Respelt (Same u v F) Pending.start := ⟨.nil, .nil, rfl, .nil⟩
    exact (hstart.foldl h).matched
  commandDefinitions := by
    refine List.rel_filterMap (fun e e' he => ?_) h
    cases he with
    | definition hname => exact .some hname
    | _ => exact .none
  commands := by
    have hcommands : List.Forall₂ Eq (es.filterMap Event.command?)
        (es'.filterMap Event.command?) := by
      refine List.rel_filterMap (fun e e' he => ?_) h
      cases he with
      | command name => exact .some rfl
      | _ => exact .none
    show (es.filterMap Event.command?).eraseDups = (es'.filterMap Event.command?).eraseDups
    rw [List.forall₂_eq_eq_eq] at hcommands
    rw [hcommands]
  diagnostics := by
    have hstart : Pending.start.Respelt (Same u v F) Pending.start := ⟨.nil, .nil, rfl, .nil⟩
    exact @forall₂_mergeSort _ _ (DiagnosticRespelt (Same u v F)) _ _
      (fun _ _ _ _ ha hb => atOrBefore_eq hu hv ha hb) _ _ (hstart.foldl h).finish

/-- **The texts of two inert names are one form, and have the same structure.** -/
theorem exists_form_analyze (hu : Inert u) (hv : Inert v)
    (hstar : sort = .citation → String.ofList u ≠ "*" ∧ String.ofList v ≠ "*") (text : String) :
    ∃ F, fill u F = text.toList ∧ holes u 0 F = nameSpans sort u (scan (.ofString text)) ∧
      List.Forall₂ (Event.Respelt sort u v (Same u v F)) (scan (.ofString text))
        (scan (.ofString (String.ofList (fill v F)))) ∧
      (analyze text).Respelt sort u v (Same u v F) (analyze (String.ofList (fill v F))) := by
  obtain ⟨F, hfill, -, hholes, hscan⟩ := exists_form hu hv hstar (.ofString text)
  have hevents := hscan (Same u v F) 0 (along_same u v F)
  have hcursor : cursor v 0 F = .ofString (String.ofList (fill v F)) := by
    rw [cursor, Cursor.ofString, String.toList_ofList]
  rw [hcursor] at hevents
  exact ⟨F, hfill, hholes, hevents, respelt_ofEvents hu.nonempty hv.nonempty hevents⟩

/-! ## The way back -/

theorem Same.unique (hu : u ≠ []) (hv : v ≠ []) {F : Form} {a b b' : Nat} (hb : Same u v F a b)
    (hb' : Same u v F a b') : b = b' := (hb.eq_iff hu hv hb').1 rfl

/-- A symbol has the new name if it had the old one. -/
theorem SymbolRespelt.name_iff {s s' : Symbol} (h : SymbolRespelt u v same s s')
    (hfresh : s.name ≠ String.ofList v) : s'.name = String.ofList v ↔ s.name = String.ofList u := by
  rw [h.name, respell]
  split
  · rename_i hname
    exact ⟨fun _ => hname, fun _ => rfl⟩
  · rename_i hname
    exact ⟨fun heq => absurd heq hfresh, fun heq => absurd heq hname⟩

/-- The symbols with the new name are those that had the old one. -/
theorem forall₂_named (ss ss' : List Symbol) (h : List.Forall₂ (SymbolRespelt u v same) ss ss')
    (hfresh : ∀ s ∈ ss, s.name ≠ String.ofList v) :
    List.Forall₂ (SymbolRespelt u v same) (ss.filter (·.name = String.ofList u))
      (ss'.filter (·.name = String.ofList v)) := by
  induction h with
  | nil => exact .nil
  | cons hs _ ih =>
      rename_i s s' ss ss' _
      have hname := hs.name_iff (hfresh s List.mem_cons_self)
      have ih := ih fun t ht => hfresh t (List.mem_cons_of_mem _ ht)
      by_cases hu : s.name = String.ofList u
      · rw [List.filter_cons_of_pos (by simpa using hu),
          List.filter_cons_of_pos (by simpa using hname.2 hu)]
        exact .cons hs ih
      · rw [List.filter_cons_of_neg (by simpa using hu),
          List.filter_cons_of_neg (by simpa using fun h => hu (hname.1 h))]
        exact ih

/-- Events of two spellings give names of the sort together. -/
theorem Event.Respelt.named {e e' : Event} (h : Event.Respelt sort u v same e e') :
    Option.Rel (SymbolRespelt u v same) (e.named? sort) (e'.named? sort) := by
  cases sort with
  | label =>
      cases h with
      | label hs => exact .some hs
      | reference hs => exact .some hs
      | _ => exact .none
  | citation =>
      cases h with
      | citation hs => exact .some hs
      | _ => exact .none

/-- **A name that was free stands where the form is open.** -/
theorem holes_eq_nameSpans (hu : Inert u) (hv : Inert v) {F : Form} {es es' : List Event}
    (hholes : holes u 0 F = nameSpans sort u es)
    (h : List.Forall₂ (Event.Respelt sort u v (Same u v F)) es es')
    (hfresh : ∀ s ∈ es.filterMap (Event.named? sort), s.name ≠ String.ofList v) :
    holes v 0 F = nameSpans sort v es' := by
  have hsymbols : List.Forall₂ (SymbolRespelt u v (Same u v F)) (es.filterMap (Event.named? sort))
      (es'.filterMap (Event.named? sort)) :=
    List.rel_filterMap (fun _ _ he => he.named) h
  have hspans : List.Forall₂ (SameSpan (Same u v F)) (nameSpans sort u es) (nameSpans sort v es') :=
    List.rel_map (fun _ _ hs => hs.span) (forall₂_named _ _ hsymbols hfresh)
  have hplaces := (along_same u v F).holes
  rw [hholes] at hplaces
  -- a place of one filling has one place in the other
  have hunique : Relator.RightUnique (SameSpan (Same u v F)) := by
    rintro s ⟨start, stop⟩ ⟨start', stop'⟩ hs hs'
    obtain rfl : start = start' := Same.unique hu.nonempty hv.nonempty hs.1 hs'.1
    obtain rfl : stop = stop' := Same.unique hu.nonempty hv.nonempty hs.2 hs'.2
    rfl
  exact List.right_unique_forall₂' hunique hplaces hspans

end Manuscript.Latex

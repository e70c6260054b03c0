/-
# Manuscript.Proofs.Fold.Ranges -- where sections and environments fold

Sections are folded while a stack holds those still open.  Without a stack a section
reaches up to the line before the next one that is not deeper (`reach`), and the
environment with the smallest body around it may end it earlier (`ofHeading`).

On the stack every section is deeper than the one below.  So the ones that a new section
closes are those it is not deeper than, and it is the next such section for all of them
(`sectionsFrom_perm`).  The answer is what these folds and those of the environments come
to in their order (`folding_latex`).
-/
import Manuscript.Query
import Manuscript.Proofs.Fold.Lines
import Manuscript.Proofs.Latex.Nesting
import Manuscript.Proofs.Rename.Application
import Mathlib.Data.List.MinMax

namespace Manuscript

set_option autoImplicit false

open Text

/-! ## Lines -/

namespace Document

variable {d : Document}

/-- What stands in the text stands before the end of its last line. -/
theorem Sound.lineOf_le_lastLine (h : d.Sound) {offset : Nat} (hlt : offset < d.size) :
    d.lineOf offset ≤ d.lastLine := by
  have hlength : d.lineIndex.length = d.size := by
    rw [h.lineIndex_eq]
    rfl
  have hmin : min offset d.lineIndex.length = offset := by omega
  have hline : d.lineOf offset = (d.lineIndex.starts.takeWhile (· ≤ offset)).length - 1 := by
    show (d.lineIndex.starts.takeWhile (· ≤ min offset d.lineIndex.length)).length - 1 = _
    rw [hmin]
  unfold lastLine
  dsimp only
  split
  · rename_i hempty
    -- the last line starts behind the offset
    have hprefix := List.takeWhile_prefix (l := d.lineIndex.starts) fun n => decide (n ≤ offset)
    have hle := hprefix.length_le
    have hne : (d.lineIndex.starts.takeWhile (· ≤ offset)).length ≠ d.lineIndex.starts.length := by
      intro hall
      have hmem : d.size ∈ d.lineIndex.starts := List.mem_of_getElem? hempty
      rw [← hprefix.eq_of_length hall] at hmem
      have hle := List.mem_takeWhile_imp hmem
      have hle : d.size ≤ offset := of_decide_eq_true hle
      omega
    unfold LineIndex.lineCount
    omega
  · exact d.lineOf_le_lineCount offset

end Document

namespace Fold

open Latex (Section Environment)

/-! ## Folds without a stack -/

/-- The line that a section of a level comes to by itself: the one before the next section that
is not deeper, or the last that holds something. -/
def reach (d : Document) (level : Nat) (later : List Section) : Nat :=
  match later.find? (·.level ≤ level) with
  | some next => d.lineOf next.span.start - 1
  | none => d.lastLine

/-- The environment with the smallest body around an offset. -/
def smallest? (environments : List Environment) (offset : Nat) : Option Environment :=
  (environments.filter fun e => e.opening.stop ≤ offset ∧ offset < e.closing.start).argmin
    bodyLength

/-- A section that comes to a line, or to the line before the end of the smallest environment
around it. -/
def clamped (d : Document) (environments : List Environment) (s : Section) (line : Nat) : Nat :=
  match smallest? environments s.span.start with
  | some e => min line (d.lineOf e.closing.start - 1)
  | none => line

/-- The fold of a section with the sections behind it. -/
def ofHeading (d : Document) (environments : List Environment) (s : Section)
    (later : List Section) : Fold :=
  ⟨d.lineOf s.span.start, clamped d environments s (reach d s.level later)⟩

def ofHeadings (d : Document) (environments : List Environment) : List Section → List Fold
  | [] => []
  | s :: later => ofHeading d environments s later :: ofHeadings d environments later

variable {d : Document} {environments : List Environment} {s : Section} {later : List Section}

/-- The innermost environment is the one with the smallest body. -/
theorem innermost?_eq_argmin (es : List Environment) : innermost? es = es.argmin bodyLength := by
  induction es with
  | nil => rfl
  | cons e es ih =>
      rw [innermost?, ih, List.argmin_cons]
      cases es.argmin bodyLength <;> rfl

theorem enclosing?_eq_smallest? (environments : List Environment) (offset : Nat) :
    enclosing? environments offset = smallest? environments offset := by
  rw [enclosing?, innermost?_eq_argmin, smallest?]
  simp only [Bool.decide_and]

/-- The next section ends those that it is not deeper than, and no other. -/
theorem reach_cons_of_le {next : Section} {level : Nat} (h : next.level ≤ level) :
    reach d level (next :: later) = d.lineOf next.span.start - 1 := by
  simp only [reach, List.find?_cons, h, decide_true]

theorem reach_cons_of_lt {next : Section} {level : Nat} (h : level < next.level) :
    reach d level (next :: later) = reach d level later := by
  simp only [reach, List.find?_cons, Nat.not_le.2 h, decide_false]

/-- A section ends where it comes to, unless its environment ends before. -/
theorem ofSection_eq (line : Nat) (h : reach d s.level later = line) :
    ofSection d environments line s = ofHeading d environments s later := by
  cases hsmallest : smallest? environments s.span.start <;>
    simp only [ofSection, bounded, enclosing?_eq_smallest?, ofHeading, clamped, hsmallest, h]

/-! ## The stack -/

/-- Every open section is deeper than those around it. -/
def Deepening (stack : List Section) : Prop := stack.Pairwise fun inner outer =>
  outer.level < inner.level

variable {stack : List Section}

theorem closed_of_mem {o : Section} (h : o ∈ stack.takeWhile fun o => decide (s.level ≤ o.level)) :
    s.level ≤ o.level := by
  have hclosed := List.mem_takeWhile_imp h
  exact of_decide_eq_true hclosed

/-- A section closes all that it is not deeper than: below the first that stays open there are
only sections of higher levels. -/
theorem Deepening.lt_of_mem (h : Deepening stack) {o : Section}
    (ho : o ∈ stack.dropWhile fun o => decide (s.level ≤ o.level)) : o.level < s.level := by
  induction stack with
  | nil => cases ho
  | cons p stack ih =>
      rw [Deepening, List.pairwise_cons] at h
      by_cases hp : s.level ≤ p.level
      · simp only [List.dropWhile_cons, hp, decide_true, if_true] at ho
        exact ih h.2 ho
      · simp only [List.dropWhile_cons, hp, decide_false, Bool.false_eq_true, if_false] at ho
        rcases List.mem_cons.1 ho with rfl | ho
        · exact Nat.lt_of_not_le hp
        · exact Nat.lt_trans (h.1 o ho) (Nat.lt_of_not_le hp)

/-- Above those that stay open, the new section is the deepest. -/
theorem Deepening.push (h : Deepening stack) (s : Section) :
    Deepening (s :: stack.dropWhile fun o => decide (s.level ≤ o.level)) :=
  List.pairwise_cons.2
    ⟨fun _ ho => h.lt_of_mem ho, List.Pairwise.sublist (List.dropWhile_sublist _) h⟩

/-- **The stack finds for each section the next one that is not deeper.** -/
theorem sectionsFrom_perm (h : Deepening stack) (sections : List Section) :
    (sectionsFrom d environments stack sections).Perm
      (stack.map (ofHeading d environments · sections) ++
        ofHeadings d environments sections) := by
  induction sections generalizing stack with
  | nil =>
      have hlast : ofSection d environments d.lastLine = (ofHeading d environments · []) :=
        funext fun o => ofSection_eq _ rfl
      rw [sectionsFrom, hlast, ofHeadings, List.append_nil]
      exact (List.reverse_perm stack).map _
  | cons s sections ih =>
      let isClosed := fun o : Section => decide (s.level ≤ o.level)
      have hnow : (stack.takeWhile isClosed).map
          (ofSection d environments (d.lineOf s.span.start - 1)) =
            (stack.takeWhile isClosed).map (ofHeading d environments · (s :: sections)) :=
        List.map_congr_left fun o ho => ofSection_eq _ (reach_cons_of_le (closed_of_mem ho))
      have hlater : (stack.dropWhile isClosed).map (ofHeading d environments · sections) =
          (stack.dropWhile isClosed).map (ofHeading d environments · (s :: sections)) := by
        refine List.map_congr_left fun o ho => ?_
        rw [ofHeading, ofHeading, reach_cons_of_lt (h.lt_of_mem ho)]
      have hrest := ih (h.push s)
      rw [List.map_cons, hlater] at hrest
      have hsplit : stack.map (ofHeading d environments · (s :: sections)) =
          (stack.takeWhile isClosed).map (ofHeading d environments · (s :: sections)) ++
            (stack.dropWhile isClosed).map (ofHeading d environments · (s :: sections)) := by
        rw [← List.map_append, List.takeWhile_append_dropWhile]
      rw [sectionsFrom, ofHeadings, hsplit, ← hnow, List.append_assoc]
      -- the new section goes behind those that stay open
      exact (hrest.trans List.perm_middle.symm).append_left _

/-! ## The folds of a document -/

/-- The folds of sections that hide something. -/
def ofSections (d : Document) (s : Latex.Structure) : List Fold :=
  (sectionsFrom d s.environments [] s.sections).filter fun f => f.first < f.last

/-- The folds of environments that hide something. -/
def ofEnvironments (d : Document) (s : Latex.Structure) : List Fold :=
  (s.environments.map (ofEnvironment d)).filter fun f => f.first < f.last

/-- What folds: a section that comes further than its first line, and an environment that ends on
another line than it begins. -/
def listed (d : Document) (s : Latex.Structure) : List Fold :=
  (ofHeadings d s.environments s.sections).filter (fun f => f.first < f.last) ++
    (s.environments.map fun e => ⟨d.lineOf e.opening.start, d.lineOf e.closing.start⟩).filter
      fun f => f.first ≠ f.last

/-- These are the folds of a document with this structure, in order. -/
structure Folding (d : Document) (s : Latex.Structure) (folds : List Fold) : Prop where
  perm : folds.Perm (listed d s)
  sorted : folds.Pairwise fun a b => a.first < b.first ∨ (a.first = b.first ∧ a.last ≤ b.last)
  within : ∀ f ∈ folds, f.first < f.last ∧ f.last ≤ d.lastLine
  /-- The sections behind one in the list are those behind it in the text. -/
  increasing : s.sections.Pairwise fun a b => a.span.start < b.span.start

theorem atOrBefore_iff {a b : Fold} : a.atOrBefore b = true ↔
    a.first < b.first ∨ (a.first = b.first ∧ a.last ≤ b.last) := by
  simp only [atOrBefore, Bool.or_eq_true, Bool.and_eq_true, decide_eq_true_eq, beq_iff_eq]

theorem atOrBefore_trans (a b c : Fold) (hab : a.atOrBefore b = true)
    (hbc : b.atOrBefore c = true) : a.atOrBefore c = true := by
  rw [atOrBefore_iff] at *
  omega

theorem atOrBefore_total (a b : Fold) : (a.atOrBefore b || b.atOrBefore a) = true := by
  rw [Bool.or_eq_true, atOrBefore_iff, atOrBefore_iff]
  omega

theorem clamped_le (line : Nat) : clamped d environments s line ≤ line := by
  unfold clamped
  split
  · exact Nat.min_le_left _ _
  · exact Nat.le_refl _

/-- No section comes further than the last line that holds something. -/
theorem reach_le_lastLine (h : ∀ next ∈ later, d.lineOf next.span.start ≤ d.lastLine)
    (level : Nat) : reach d level later ≤ d.lastLine := by
  unfold reach
  split
  · rename_i next hnext
    exact Nat.le_trans (Nat.sub_le _ 1) (h next (List.mem_of_find?_eq_some hnext))
  · exact Nat.le_refl _

/-- A fold is that of a section with those behind it. -/
theorem exists_of_mem_ofHeadings {sections : List Section} {f : Fold}
    (h : f ∈ ofHeadings d environments sections) :
    ∃ before s later, sections = before ++ s :: later ∧ f = ofHeading d environments s later := by
  induction sections with
  | nil => cases h
  | cons s sections ih =>
      rw [ofHeadings] at h
      rcases List.mem_cons.1 h with rfl | h
      · exact ⟨[], s, sections, rfl, rfl⟩
      · obtain ⟨before, s', later, rfl, hf⟩ := ih h
        exact ⟨s :: before, s', later, rfl, hf⟩

theorem last_le_of_mem_ofHeadings {sections : List Section} {f : Fold}
    (hle : ∀ s ∈ sections, d.lineOf s.span.start ≤ d.lastLine)
    (h : f ∈ ofHeadings d environments sections) : f.last ≤ d.lastLine := by
  obtain ⟨before, s, later, rfl, rfl⟩ := exists_of_mem_ofHeadings h
  have hlater : ∀ next ∈ later, d.lineOf next.span.start ≤ d.lastLine :=
    fun next hnext => hle next (by simp [hnext])
  exact Nat.le_trans (clamped_le _) (reach_le_lastLine hlater s.level)

/-- Where a heading or an end command stands, the text goes on. -/
theorem lt_size_of_sees {span : Span} {c : Char} {word : List Char}
    (h : Cursor.Sees (.ofString d.text) span (c :: word)) : span.start < d.size := by
  have hlt := h.start_lt_stop (List.cons_ne_nil c word)
  have hstop : span.stop ≤ d.size := h.within.stop_le_length
  omega

/-- An environment ends on the line where it begins or on a later one. -/
theorem lineOf_opening_le (d : Document) {e : Environment}
    (he : e ∈ (Latex.analyze d.text).environments) :
    d.lineOf e.opening.start ≤ d.lineOf e.closing.start := by
  apply d.lineOf_mono
  have hopening := Latex.opening_start_lt_stop he
  have hbody := Latex.opening_stop_le_closing_start he
  omega

/-- Up to their order, the folds of a document are those of its sections and environments. -/
theorem all_perm (hd : d.Settled) (hlanguage : d.language = .latex) :
    (all d).Perm
      (ofSections d (Latex.analyze d.text) ++ ofEnvironments d (Latex.analyze d.text)) := by
  have hall : (all d).Perm ((ofContents d).filter fun f => f.first < f.last) :=
    List.mergeSort_perm _ _
  rw [ofContents, hd.contents_latex hlanguage] at hall
  dsimp only at hall
  rw [List.filter_append] at hall
  exact hall

theorem ofSections_perm (d : Document) (s : Latex.Structure) :
    (ofSections d s).Perm
      ((ofHeadings d s.environments s.sections).filter fun f => f.first < f.last) := by
  have hsections : (sectionsFrom d s.environments [] s.sections).Perm
      (ofHeadings d s.environments s.sections) := sectionsFrom_perm .nil s.sections
  exact hsections.filter _

/-- An environment ends behind its first line where it ends on another one. -/
theorem ofEnvironments_eq (d : Document) :
    ofEnvironments d (Latex.analyze d.text) =
      ((Latex.analyze d.text).environments.map (ofEnvironment d)).filter
        fun f => f.first ≠ f.last := by
  refine List.filter_congr fun f hf => ?_
  obtain ⟨e, he, rfl⟩ := List.mem_map.1 hf
  have hle := lineOf_opening_le d he
  rw [decide_eq_decide]
  simp only [ofEnvironment]
  omega

theorem all_perm_listed (hd : d.Settled) (hlanguage : d.language = .latex) :
    (all d).Perm (listed d (Latex.analyze d.text)) := by
  have hall := all_perm hd hlanguage
  rw [ofEnvironments_eq] at hall
  exact hall.trans ((ofSections_perm d _).append_right _)

/-- A heading stands on a line that holds something. -/
theorem lineOf_section_le (hd : d.Settled) (hs : s ∈ (Latex.analyze d.text).sections) :
    d.lineOf s.span.start ≤ d.lastLine := by
  obtain ⟨more, hsees⟩ := Latex.sees_heading hs
  exact hd.lineOf_le_lastLine (lt_size_of_sees hsees)

/-- No fold comes further than the last line that holds something. -/
theorem last_le_of_mem_all (hd : d.Settled) (hlanguage : d.language = .latex) {f : Fold}
    (hf : f ∈ all d) : f.last ≤ d.lastLine := by
  rcases List.mem_append.1 ((all_perm_listed hd hlanguage).mem_iff.1 hf) with h | h
  · exact last_le_of_mem_ofHeadings (fun s hs => lineOf_section_le hd hs) (List.mem_of_mem_filter h)
  · obtain ⟨e, he, rfl⟩ := List.mem_map.1 (List.mem_of_mem_filter h)
    obtain ⟨more, hsees⟩ := Latex.sees_closing he
    exact hd.lineOf_le_lastLine (lt_size_of_sees hsees)

/-- **Folding a document gives each section and each environment the lines that it is said to
take, in order.** -/
theorem folding_latex (settings : Settings) {d : Document} (hd : d.Settled)
    (hlanguage : d.language = .latex) :
    ∃ folds, Request.answer? settings (.folding d) = .ok (.folding folds) ∧
      Folding d (Latex.analyze d.text) folds := by
  refine ⟨all d, rfl, all_perm_listed hd hlanguage, ?_, fun f hf => ⟨?_, ?_⟩,
    Latex.headings_increasing (.ofString d.text)⟩
  · have hsorted : (all d).Pairwise fun a b => a.atOrBefore b = true :=
      List.pairwise_mergeSort atOrBefore_trans atOrBefore_total _
    exact hsorted.imp atOrBefore_iff.1
  · have hshown := List.of_mem_filter (List.mem_mergeSort.1 hf)
    exact of_decide_eq_true hshown
  · exact last_le_of_mem_all hd hlanguage hf

namespace Example

/-- A part with an environment, which holds a section. -/
def paper : Document := ((Document.create ⟨"file", some ⟨"", "", none⟩, "/paper.tex", none, none⟩
  .latex).withText "\\part{A}\n\\begin{b}\n\\section{B}\n\n\\end{b}\n").analyzed

end Example

theorem folding_latex_paper :
    (Example.paper.Settled ∧ Example.paper.language = .latex) ∧
    ∃ folds, Request.answer? .default (.folding Example.paper) = .ok (.folding folds) ∧
      Folding Example.paper (Latex.analyze Example.paper.text) folds ∧
      folds.Perm [⟨0, 4⟩, ⟨2, 3⟩, ⟨1, 4⟩] := by
  have hd : Example.paper.Settled := Document.settled_analyzed _
  obtain ⟨folds, hanswer, hfolding⟩ := folding_latex .default hd rfl
  refine ⟨⟨hd, rfl⟩, folds, hanswer, hfolding, ?_⟩
  have hlisted : listed Example.paper (Latex.analyze Example.paper.text) =
      [⟨0, 4⟩, ⟨2, 3⟩, ⟨1, 4⟩] := by
    decide +kernel
  rw [← hlisted]
  exact hfolding.perm

end Fold

end Manuscript

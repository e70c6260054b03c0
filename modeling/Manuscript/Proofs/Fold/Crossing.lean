/-
# Manuscript.Proofs.Fold.Crossing -- folds do not cross

Among sections alone this is what the levels say: the next section that is not deeper ends
a section, and all that stand before it are deeper and come no further (`reach_anti`).  The
environments could spoil it, since one may end a section before the sections in it end.
It does not: an environment around the outer section either ends before the inner one
begins, or it is around that one as well.  Then the smallest around the inner section lies
in it, because environments do not cross (`closing_le_of_smallest`).

Two environments that follow each other may have the line in common where the one ends and
the other begins, so their folds meet once at most.
-/
import Manuscript.Proofs.Fold.Ranges

namespace Manuscript

set_option autoImplicit false

namespace Fold

open Latex (Section Environment)

variable {d : Document} {environments : List Environment} {s t : Section}
  {before later : List Section}

/-! ## Environments around a place -/

theorem mem_of_smallest? {offset : Nat} {e : Environment}
    (h : smallest? environments offset = some e) :
    e ∈ environments ∧ e.opening.stop ≤ offset ∧ offset < e.closing.start := by
  have hmem := List.argmin_mem h
  rw [List.mem_filter, decide_eq_true_eq] at hmem
  exact hmem

/-- Where there is an environment around a place, there is a smallest one. -/
theorem exists_smallest {offset : Nat} {e : Environment} (he : e ∈ environments)
    (hbegin : e.opening.stop ≤ offset) (hend : offset < e.closing.start) :
    ∃ f, smallest? environments offset = some f ∧ bodyLength f ≤ bodyLength e := by
  have hmem : e ∈ environments.filter fun e => e.opening.stop ≤ offset ∧ offset < e.closing.start :=
    List.mem_filter.2 ⟨he, decide_eq_true ⟨hbegin, hend⟩⟩
  cases hsmallest : smallest? environments offset with
  | none =>
      rw [smallest?, List.argmin_eq_none] at hsmallest
      rw [hsmallest] at hmem
      cases hmem
  | some f => exact ⟨f, rfl, List.le_of_mem_argmin hmem hsmallest⟩

/-- Two environments of a text follow each other or one is in the body of the other. -/
theorem related_of_mem {text : String} {a b : Environment}
    (ha : a ∈ (Latex.analyze text).environments) (hb : b ∈ (Latex.analyze text).environments) :
    a = b ∨ (a.Before b ∨ a.Inside b) ∨ (b.Before a ∨ b.Inside a) := by
  have hnested := Latex.nested_analyze text
  have hrelated := List.Pairwise.forall_of_forall_of_flip
    (R := fun a b => a = b ∨ (a.Before b ∨ a.Inside b) ∨ (b.Before a ∨ b.Inside a))
    (fun a _ => .inl rfl) (hnested.imp fun h => .inr (.inl h))
    (hnested.imp fun h => .inr (.inr h))
  exact hrelated ha hb

/-- The smallest environment around a place ends no later than any other around it. -/
theorem closing_le_of_smallest {text : String} {offset : Nat} {e f : Environment}
    (he : e ∈ (Latex.analyze text).environments) (hbegin : e.opening.stop ≤ offset)
    (hend : offset < e.closing.start)
    (hf : smallest? (Latex.analyze text).environments offset = some f) :
    f.closing.start ≤ e.closing.start := by
  obtain ⟨hmem, hbegin', hend'⟩ := mem_of_smallest? hf
  obtain ⟨f', hf', hle⟩ := exists_smallest he hbegin hend
  obtain rfl : f = f' := Option.some.inj (hf.symm.trans hf')
  have hopening := Latex.opening_start_lt_stop he
  have hopening' := Latex.opening_start_lt_stop hmem
  have hclosing := Latex.closing_start_lt_stop he
  have hclosing' := Latex.closing_start_lt_stop hmem
  unfold bodyLength at hle
  rcases related_of_mem hmem he with rfl | (hbefore | ⟨hafter, hinside⟩) |
    (hbefore | ⟨hafter, hinside⟩)
  · exact Nat.le_refl _
  · -- what comes before does not reach the place
    unfold Environment.Before at hbefore
    omega
  · omega
  · unfold Environment.Before at hbefore
    omega
  · -- the one outside would have the longer body
    omega

/-! ## Sections -/

/-- Nothing ends a section before the line of the sections behind it. -/
theorem le_reach {line : Nat} (hlast : line ≤ d.lastLine)
    (h : ∀ next ∈ later, line ≤ d.lineOf next.span.start) (level : Nat) :
    line - 1 ≤ reach d level later := by
  unfold reach
  split
  · rename_i next hnext
    exact Nat.sub_le_sub_right (h next (List.mem_of_find?_eq_some hnext)) 1
  · exact Nat.le_trans (Nat.sub_le _ 1) hlast

/-- **A deeper section comes no further.** -/
theorem reach_anti {level level' : Nat} (hlevel : level ≤ level')
    (hlast : ∀ s ∈ later, d.lineOf s.span.start ≤ d.lastLine)
    (hsorted : later.Pairwise fun a b => a.span.start < b.span.start) :
    reach d level' later ≤ reach d level later := by
  induction later with
  | nil => exact Nat.le_refl _
  | cons next later ih =>
      obtain ⟨hnext, hsorted⟩ := List.pairwise_cons.1 hsorted
      have hrest : ∀ s ∈ later, d.lineOf s.span.start ≤ d.lastLine :=
        fun s hs => hlast s (List.mem_cons_of_mem _ hs)
      by_cases houter : next.level ≤ level
      · rw [reach_cons_of_le houter, reach_cons_of_le (Nat.le_trans houter hlevel)]
      · rw [reach_cons_of_lt (Nat.lt_of_not_le houter)]
        by_cases hinner : next.level ≤ level'
        · rw [reach_cons_of_le hinner]
          exact le_reach (hlast next List.mem_cons_self)
            (fun s hs => d.lineOf_mono (Nat.le_of_lt (hnext s hs))) level
        · rw [reach_cons_of_lt (Nat.lt_of_not_le hinner)]
          exact ih hrest hsorted

/-- A section that is not deeper ends those before it, whatever stands between. -/
theorem reach_append (before : List Section) (level : Nat)
    (h : ∀ next ∈ before, next.span.start ≤ t.span.start) :
    (reach d level (before ++ t :: later) ≤ d.lineOf t.span.start - 1) ∨
      (level < t.level ∧ reach d level (before ++ t :: later) = reach d level later) := by
  induction before with
  | nil =>
      by_cases hlevel : t.level ≤ level
      · exact .inl (Nat.le_of_eq (reach_cons_of_le hlevel))
      · exact .inr ⟨Nat.lt_of_not_le hlevel, reach_cons_of_lt (Nat.lt_of_not_le hlevel)⟩
  | cons next before ih =>
      obtain ⟨hnext, hbefore⟩ := List.forall_mem_cons.1 h
      rw [List.cons_append]
      by_cases hlevel : next.level ≤ level
      · rw [reach_cons_of_le hlevel]
        exact .inl (Nat.sub_le_sub_right (d.lineOf_mono hnext) 1)
      · rw [reach_cons_of_lt (Nat.lt_of_not_le hlevel)]
        exact ih hbefore

theorem clamped_mono {line line' : Nat} (h : line ≤ line') :
    clamped d environments s line ≤ clamped d environments s line' := by
  unfold clamped
  split <;> omega

/-- Within its environment a section comes no further than one before it, unless the environment
of that one ended. -/
theorem clamped_le_clamped (hstart : s.span.start ≤ t.span.start) (line : Nat) :
    clamped d (Latex.analyze d.text).environments s line ≤ d.lineOf t.span.start - 1 ∨
      clamped d (Latex.analyze d.text).environments t line ≤
        clamped d (Latex.analyze d.text).environments s line := by
  cases hs : smallest? (Latex.analyze d.text).environments s.span.start with
  | none =>
      right
      simp only [clamped, hs]
      exact clamped_le line
  | some e =>
      obtain ⟨he, hbegin, hend⟩ := mem_of_smallest? hs
      by_cases hended : e.closing.start ≤ t.span.start
      · left
        have hline := d.lineOf_mono hended
        simp only [clamped, hs]
        omega
      · right
        obtain ⟨f, hf, -⟩ := exists_smallest he (Nat.le_trans hbegin hstart)
          (Nat.lt_of_not_le hended)
        have hle := closing_le_of_smallest he (Nat.le_trans hbegin hstart)
          (Nat.lt_of_not_le hended) hf
        have hline := d.lineOf_mono hle
        simp only [clamped, hs, hf]
        omega

/-- **A section comes behind the fold of one before it, or its fold lies in that one.** -/
theorem apart_or_within {f g : Fold}
    (hlast : ∀ next ∈ later, d.lineOf next.span.start ≤ d.lastLine)
    (hsorted : (s :: (before ++ t :: later)).Pairwise fun a b => a.span.start < b.span.start)
    (hf : f = ofHeading d (Latex.analyze d.text).environments s (before ++ t :: later))
    (hg : g = ofHeading d (Latex.analyze d.text).environments t later)
    (hshown : f.first < f.last) : f.Apart g ∨ g.Within f := by
  obtain ⟨hs, hrest⟩ := List.pairwise_cons.1 hsorted
  obtain ⟨-, htail, hbefore⟩ := List.pairwise_append.1 hrest
  have hstart : s.span.start ≤ t.span.start := Nat.le_of_lt (hs t (by simp))
  have hbetween : ∀ next ∈ before, next.span.start ≤ t.span.start :=
    fun next hnext => Nat.le_of_lt (hbefore next hnext t List.mem_cons_self)
  -- a fold that hides something does not end on the first line of the text
  have hapart : f.last ≤ d.lineOf t.span.start - 1 → f.Apart g := by
    intro hended
    apply apart_of_lt
    have hfirst : g.first = d.lineOf t.span.start := by rw [hg]; rfl
    omega
  have hflast : f.last = clamped d (Latex.analyze d.text).environments s
      (reach d s.level (before ++ t :: later)) := by rw [hf]; rfl
  rcases reach_append before s.level hbetween with hended | ⟨hdeeper, hreach⟩
  · exact .inl (hapart (hflast ▸ Nat.le_trans (clamped_le _) hended))
  · rw [hreach] at hflast
    rcases clamped_le_clamped hstart (reach d s.level later) with hended | hle
    · exact .inl (hapart (hflast ▸ hended))
    · refine .inr ⟨?_, ?_⟩
      · rw [hf, hg]
        exact d.lineOf_mono hstart
      · have hdepth : reach d t.level later ≤ reach d s.level later :=
          reach_anti (Nat.le_of_lt hdeeper) hlast (List.pairwise_cons.1 htail).2
        calc g.last
            = clamped d (Latex.analyze d.text).environments t (reach d t.level later) := by
              rw [hg]; rfl
          _ ≤ clamped d (Latex.analyze d.text).environments t (reach d s.level later) :=
              clamped_mono hdepth
          _ ≤ f.last := hflast ▸ hle

/-- The folds of the sections of a text, in whatever order, do not cross. -/
theorem pairwise_ofHeadings {sections : List Section}
    (hlast : ∀ s ∈ sections, d.lineOf s.span.start ≤ d.lastLine)
    (hsorted : sections.Pairwise fun a b => a.span.start < b.span.start) :
    ((ofHeadings d (Latex.analyze d.text).environments sections).filter
      fun f => f.first < f.last).Pairwise fun a b => a.Apart b ∨ a.Within b ∨ b.Within a := by
  rw [List.pairwise_filter]
  induction sections with
  | nil => exact .nil
  | cons s sections ih =>
      have hrest : ∀ s ∈ sections, d.lineOf s.span.start ≤ d.lastLine :=
        fun s hs => hlast s (List.mem_cons_of_mem _ hs)
      rw [ofHeadings]
      refine .cons (fun g hg hshown _ => ?_) (ih hrest (List.pairwise_cons.1 hsorted).2)
      obtain ⟨before, t, later, rfl, hg'⟩ := exists_of_mem_ofHeadings hg
      have hlater : ∀ next ∈ later, d.lineOf next.span.start ≤ d.lastLine :=
        fun next hnext => hrest next (by simp [hnext])
      rcases apart_or_within hlater hsorted rfl hg' (of_decide_eq_true hshown) with h | h
      · exact .inl h
      · exact .inr (.inr h)

/-! ## The folds of a document -/

/-- The folds are those of the sections and those of the environments, and neither cross each
other. -/
structure Uncrossed (d : Document) (s : Latex.Structure) (folds : List Fold) : Prop where
  perm : folds.Perm (ofSections d s ++ ofEnvironments d s)
  sections : (ofSections d s).Pairwise fun a b => a.Apart b ∨ a.Within b ∨ b.Within a
  environments : (ofEnvironments d s).Pairwise fun a b => a.MeetOnce b ∨ a.Within b ∨ b.Within a

/-- Environments that follow each other share a line at most where they meet. -/
theorem pairwise_ofEnvironments (d : Document) :
    (ofEnvironments d (Latex.analyze d.text)).Pairwise
      fun a b => a.MeetOnce b ∨ a.Within b ∨ b.Within a := by
  refine List.Pairwise.filter _ (List.pairwise_map.2 ?_)
  refine (Latex.nested_analyze d.text).imp_of_mem fun {e f} he hf h => ?_
  have hclosing := Latex.closing_start_lt_stop he
  have hopening := Latex.opening_start_lt_stop hf
  rcases h with hbefore | ⟨hbegin, hend⟩
  · exact .inl (meetOnce_of_le (d.lineOf_mono (Nat.le_trans (Nat.le_of_lt hclosing) hbefore)))
  · exact .inr (.inl ⟨d.lineOf_mono (Nat.le_trans (Nat.le_of_lt hopening) hbegin),
      d.lineOf_mono (Nat.le_trans (Nat.le_of_lt hclosing) hend)⟩)

theorem pairwise_ofSections (hd : d.Settled) :
    (ofSections d (Latex.analyze d.text)).Pairwise
      fun a b => a.Apart b ∨ a.Within b ∨ b.Within a := by
  refine ((ofSections_perm d _).pairwise_iff fun {a b} h => ?_).2 (pairwise_ofHeadings ?_ ?_)
  · rcases h with hapart | hwithin | hwithin
    · exact .inl hapart.symm
    · exact .inr (.inr hwithin)
    · exact .inr (.inl hwithin)
  · intro s hs
    exact lineOf_section_le hd hs
  · exact Latex.headings_increasing (.ofString d.text)

/-- **Folds of sections are apart or one in the other, and folds of environments that are not
one in the other meet once at most.** -/
theorem uncrossed_latex (settings : Settings) {d : Document} (hd : d.Settled)
    (hlanguage : d.language = .latex) :
    ∃ folds, Request.answer? settings (.folding d) = .ok (.folding folds) ∧
      Uncrossed d (Latex.analyze d.text) folds := by
  exact ⟨all d, rfl, all_perm hd hlanguage, pairwise_ofSections hd, pairwise_ofEnvironments d⟩

namespace Example

/-- One environment ends on the line where the next begins, and a part holds a section. -/
def report : Document := ((Document.create ⟨"file", some ⟨"", "", none⟩, "/report.tex", none, none⟩
  .latex).withText
    "\\begin{a}\n\\end{a}\\begin{b}\n\\end{b}\n\\part{A}\n\\section{B}\n\n").analyzed

end Example

theorem uncrossed_latex_report :
    (Example.report.Settled ∧ Example.report.language = .latex) ∧
    ∃ folds, Request.answer? .default (.folding Example.report) = .ok (.folding folds) ∧
      Uncrossed Example.report (Latex.analyze Example.report.text) folds ∧
      folds.Perm [⟨3, 5⟩, ⟨4, 5⟩, ⟨0, 1⟩, ⟨1, 2⟩] := by
  have hd : Example.report.Settled := Document.settled_analyzed _
  obtain ⟨folds, hanswer, huncrossed⟩ := uncrossed_latex .default hd rfl
  refine ⟨⟨hd, rfl⟩, folds, hanswer, huncrossed, ?_⟩
  have hlisted : ofSections Example.report (Latex.analyze Example.report.text) ++
      ofEnvironments Example.report (Latex.analyze Example.report.text) =
        [⟨3, 5⟩, ⟨4, 5⟩, ⟨0, 1⟩, ⟨1, 2⟩] := by
    decide +kernel
  rw [← hlisted]
  exact huncrossed.perm

end Fold

end Manuscript

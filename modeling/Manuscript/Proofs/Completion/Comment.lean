/-
# Manuscript.Proofs.Completion.Comment -- where nothing is completed

The pattern of comments matches where pairs of backslashes, and no other backslash, come before
a percent sign.  That is a percent sign which is not escaped (`isComment_iff`), and then a token
of the line.  So completion and analysis agree on comments as far as the analysis comes to them
(`isComment_parity`).
-/
import Manuscript.Proofs.Completion.Context
import Manuscript.Proofs.Latex.Comment

namespace Manuscript.Completion.Context

set_option autoImplicit false

open Text
open Latex (Uncommented TakesNothing Visits tokens)

/-- **A line is a comment where it has a percent sign that is not escaped.** -/
theorem isComment_iff {line : List Char} : isComment line = true ↔
    ∃ before after, line = before ++ '%' :: after ∧ escapes false before = false := by
  constructor
  · intro hcomment
    by_contra hnone
    have hline : Uncommented line := fun before after hsplit =>
      eq_true_of_ne_false fun hbefore => hnone ⟨before, after, hsplit, hbefore⟩
    rw [isComment_of_uncommented hline] at hcomment
    cases hcomment
  · rintro ⟨before, after, rfl, hbefore⟩
    refine eq_true_of_ne_false fun hcomment => ?_
    have hescapes := uncommented_of_isComment hcomment before after rfl
    rw [hbefore] at hescapes
    cases hescapes

theorem isComment_iff_mem_tokens {line : List Char} :
    isComment line = true ↔ .plain '%' ∈ tokens line :=
  isComment_iff.trans (Latex.plain_mem_tokens_iff (by decide) (by decide)).symm

/-- A comment goes on to the end of the line. -/
theorem isComment_append {line : List Char} (h : isComment line = true) (more : List Char) :
    isComment (line ++ more) = true := by
  obtain ⟨before, after, rfl, hbefore⟩ := isComment_iff.1 h
  exact isComment_iff.2 ⟨before, after ++ more, by simp, hbefore⟩

/-- **A line is a comment where an even number of backslashes comes before a percent sign, which
is where its tokens meet one; and nothing is completed from there on.**  The analysis begins a
comment on no other line, and on every such line whose commands take nothing. -/
theorem isComment_parity (line : List Char) :
    (isComment line = true ↔ ∃ before after, line = before ++ '%' :: after ∧
      Even (before.rtakeWhile (· = '\\')).length) ∧
    (isComment line = true ↔ .plain '%' ∈ tokens line) ∧
    (∀ offset o after, Visits ⟨offset, line⟩ ⟨o, '%' :: after⟩ → isComment line = true) ∧
    (TakesNothing line → isComment line = true →
      ∀ offset, ∃ o after, Visits ⟨offset, line⟩ ⟨o, '%' :: after⟩) ∧
    (isComment line = true → ∀ more, ofLine? (line ++ more) = none) := by
  refine ⟨?_, isComment_iff_mem_tokens, ?_, ?_, ?_⟩
  · simp only [isComment_iff, Latex.escapes_eq_false_iff]
  · intro offset o after hvisits
    exact isComment_iff_mem_tokens.2 (Latex.plain_mem_tokens_of_visits hvisits)
  · intro hnothing hcomment offset
    exact Latex.visits_of_plain_mem_tokens hnothing (isComment_iff_mem_tokens.1 hcomment)
  · intro hcomment more
    rw [ofLine?, if_pos (isComment_append hcomment more)]

/-- A comment behind an escaped percent sign and a line break. -/
theorem isComment_parity_break :
    TakesNothing "5\\% \\emph \\\\% \\".toList ∧
      isComment "5\\% \\emph \\\\% \\".toList = true ∧
      .plain '%' ∈ tokens "5\\% \\emph \\\\% \\".toList ∧
      (∃ o after, Visits ⟨0, "5\\% \\emph \\\\% \\".toList⟩ ⟨o, '%' :: after⟩) ∧
      ofLine? ("5\\% \\emph \\\\% \\".toList ++ "ref".toList) = none := by
  obtain ⟨hparity, htokens, -, hvisits, hnone⟩ := isComment_parity "5\\% \\emph \\\\% \\".toList
  have hcomment : isComment "5\\% \\emph \\\\% \\".toList = true :=
    hparity.2 ⟨"5\\% \\emph \\\\".toList, " \\".toList, by decide +kernel, by decide +kernel⟩
  have hnothing : TakesNothing "5\\% \\emph \\\\% \\".toList := by
    have hlist : tokens "5\\% \\emph \\\\% \\".toList =
        [.plain '5', .symbol '%', .plain ' ', .command "emph".toList, .plain ' ', .symbol '\\',
          .plain '%', .plain ' ', .command []] := by
      decide +kernel
    intro name hname
    simp only [hlist, List.mem_cons, List.not_mem_nil, Latex.Token.command.injEq, reduceCtorEq,
      false_or, or_false] at hname
    rcases hname with rfl | rfl <;> decide +kernel
  exact ⟨hnothing, hcomment, htokens.1 hcomment, hvisits hnothing hcomment 0, hnone hcomment _⟩

end Manuscript.Completion.Context

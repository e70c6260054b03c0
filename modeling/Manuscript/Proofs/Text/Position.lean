/-
# Manuscript.Proofs.Text.Position -- lines and columns name boundaries

Reading a text from its start, a place moves by one line at a line feed and by the
UTF-16 units of any other character (`Position.step`).  The place of a boundary is
where the text before it leads (`position_append`), so places grow with offsets
(`Position.before_after`).

The way back is exact at every boundary that is not inside of a line break
(`offset?_position`).  Between a carriage return and its line feed there is no place
to name: the column ends before the break.
-/
import Manuscript.Text.LineIndex
import Manuscript.Proofs.Text.Bytes

namespace Manuscript

set_option autoImplicit false

open Text

namespace Position

/-- The place after one more character. -/
def step (p : Position) (c : Char) : Position :=
  if c = '\n' then ⟨p.line + 1, 0⟩ else ⟨p.line, p.column + utf16Size c⟩

/-- The place that a text leads to. -/
def after (cs : List Char) : Position := cs.foldl step ⟨0, 0⟩

/-- The strict order of reading. -/
def Before (a b : Position) : Prop := a.line < b.line ∨ (a.line = b.line ∧ a.column < b.column)

theorem Before.trans {a b c : Position} (hab : a.Before b) (hbc : b.Before c) : a.Before c := by
  unfold Before at *
  omega

theorem before_step (p : Position) (c : Char) : p.Before (p.step c) := by
  have := utf16Size_pos c
  unfold step Before
  split
  · exact Or.inl (Nat.lt_succ_self _)
  · exact Or.inr ⟨rfl, by show p.column < p.column + utf16Size c; omega⟩

theorem before_foldl (p : Position) {cs : List Char} (h : cs ≠ []) :
    p.Before (cs.foldl step p) := by
  induction cs generalizing p with
  | nil => exact absurd rfl h
  | cons c cs ih =>
      rw [List.foldl_cons]
      by_cases hcs : cs = []
      · rw [hcs]
        exact before_step p c
      · exact (before_step p c).trans (ih _ hcs)

/-- A longer beginning of a text leads to a later place. -/
theorem before_after (cs : List Char) {more : List Char} (h : more ≠ []) :
    (after cs).Before (after (cs ++ more)) := by
  rw [after, after, List.foldl_append]
  exact before_foldl _ h

theorem foldl_step_of_not_mem (p : Position) {cs : List Char} (h : '\n' ∉ cs) :
    cs.foldl step p = ⟨p.line, p.column + utf16Length cs⟩ := by
  induction cs generalizing p with
  | nil => rfl
  | cons c cs ih =>
      rw [List.mem_cons, not_or] at h
      rw [List.foldl_cons, ih _ h.2, step, if_neg (Ne.symm h.1), utf16Length_cons, Nat.add_assoc]

theorem line_foldl_step (p : Position) (cs : List Char) :
    (cs.foldl step p).line = p.line + cs.count '\n' := by
  induction cs generalizing p with
  | nil => rfl
  | cons c cs ih =>
      rw [List.foldl_cons, ih, step]
      by_cases hc : c = '\n'
      · rw [if_pos hc, hc, List.count_cons_self]
        show p.line + 1 + _ = _
        omega
      · rw [if_neg hc, List.count_cons_of_ne hc]

end Position

/-- Whole lines: nothing, or a text that a line feed ends. -/
def WholeLines (cs : List Char) : Prop := cs = [] ∨ ∃ before, cs = before ++ ['\n']

/-- A text is whole lines, and the beginning of a line. -/
theorem exists_wholeLines (cs : List Char) :
    ∃ lines line, cs = lines ++ line ∧ WholeLines lines ∧ '\n' ∉ line := by
  induction cs with
  | nil => exact ⟨[], [], rfl, Or.inl rfl, by simp⟩
  | cons c cs ih =>
      obtain ⟨lines, line, rfl, hlines, hline⟩ := ih
      by_cases hmore : lines = [] ∧ c ≠ '\n'
      · obtain ⟨rfl, hc⟩ := hmore
        exact ⟨[], c :: line, rfl, Or.inl rfl, by simp [Ne.symm hc, hline]⟩
      · refine ⟨c :: lines, line, rfl, Or.inr ?_, hline⟩
        rcases hlines with rfl | ⟨before, rfl⟩
        · exact ⟨[], by simpa using hmore⟩
        · exact ⟨c :: before, rfl⟩

theorem Position.after_lines {lines line : List Char} (hlines : WholeLines lines)
    (hline : '\n' ∉ line) :
    Position.after (lines ++ line) = ⟨lines.count '\n', utf16Length line⟩ := by
  have hstart : lines.foldl Position.step ⟨0, 0⟩ = ⟨lines.count '\n', 0⟩ := by
    rcases hlines with rfl | ⟨before, rfl⟩
    · rfl
    · have := Position.line_foldl_step ⟨0, 0⟩ before
      rw [List.foldl_append, List.foldl_cons, List.foldl_nil, Position.step, if_pos rfl, this,
        List.count_append, List.count_singleton_self, Nat.zero_add]
  rw [Position.after, List.foldl_append, hstart, Position.foldl_step_of_not_mem _ hline,
    Nat.zero_add]

/-- Where a line break is split: a carriage return before, its line feed after. -/
def InsideBreak (before after : List Char) : Prop :=
  before.getLast? = some '\r' ∧ after.head? = some '\n'

namespace LineIndex

/-! ## Where lines start -/

theorem startsAfter_append (offset : Nat) (as bs : List Char) :
    startsAfter offset (as ++ bs) =
      startsAfter offset as ++ startsAfter (offset + utf8Length as) bs := by
  induction as generalizing offset with
  | nil => rfl
  | cons a as ih =>
      rw [List.cons_append, startsAfter, startsAfter, ih, utf8Length_cons, Nat.add_assoc]
      split <;> rfl

theorem startsAfter_of_not_mem (offset : Nat) {cs : List Char} (h : '\n' ∉ cs) :
    startsAfter offset cs = [] := by
  induction cs generalizing offset with
  | nil => rfl
  | cons c cs ih =>
      rw [List.mem_cons, not_or] at h
      rw [startsAfter, if_neg (Ne.symm h.1), ih _ h.2]

theorem length_startsAfter (offset : Nat) (cs : List Char) :
    (startsAfter offset cs).length = cs.count '\n' := by
  induction cs generalizing offset with
  | nil => rfl
  | cons c cs ih =>
      rw [startsAfter]
      by_cases hc : c = '\n'
      · rw [if_pos hc, List.length_cons, ih, hc, List.count_cons_self]
      · rw [if_neg hc, ih, List.count_cons_of_ne hc]

theorem mem_startsAfter {offset n : Nat} {cs : List Char} (h : n ∈ startsAfter offset cs) :
    offset < n ∧ n ≤ offset + utf8Length cs := by
  induction cs generalizing offset with
  | nil => cases h
  | cons c cs ih =>
      have hc := Char.utf8Size_pos c
      rw [startsAfter] at h
      rw [utf8Length_cons]
      split at h
      · rcases List.mem_cons.1 h with rfl | h
        · omega
        · have := ih h
          omega
      · have := ih h
        omega

theorem starts_ofText {lines line : List Char} (hline : '\n' ∉ line) (after : List Char) :
    (ofText (lines ++ line ++ after)).starts =
      (0 :: startsAfter 0 lines) ++ startsAfter (utf8Length lines + utf8Length line) after := by
  show 0 :: startsAfter 0 (lines ++ line ++ after) = _
  rw [startsAfter_append, startsAfter_append, startsAfter_of_not_mem _ hline, List.append_nil,
    List.cons_append, Nat.zero_add, utf8Length_append]

/-- The last of the line starts in whole lines is their end. -/
theorem start_of_wholeLines {lines : List Char} (h : WholeLines lines) :
    (0 :: startsAfter 0 lines)[lines.count '\n']? = some (utf8Length lines) := by
  rcases h with rfl | ⟨before, rfl⟩
  · rfl
  · rw [List.count_append, List.count_singleton_self, List.getElem?_cons_succ,
      startsAfter_append, ← length_startsAfter 0 before,
      List.getElem?_append_right (Nat.le_refl _), Nat.sub_self, Nat.zero_add, utf8Length_append]
    rfl

theorem starts_getElem? {lines line : List Char} (hlines : WholeLines lines)
    (hline : '\n' ∉ line) (after : List Char) :
    (ofText (lines ++ line ++ after)).starts[lines.count '\n']? = some (utf8Length lines) := by
  rw [starts_ofText hline, List.getElem?_append_left
    (by rw [List.length_cons, length_startsAfter]; omega), start_of_wholeLines hlines]

theorem lineOf_ofText {lines line : List Char} (hline : '\n' ∉ line) (after : List Char) :
    (ofText (lines ++ line ++ after)).lineOf (utf8Length lines + utf8Length line) =
      lines.count '\n' := by
  have hbefore : ∀ n ∈ 0 :: startsAfter 0 lines,
      decide (n ≤ utf8Length lines + utf8Length line) = true := by
    intro n hn
    rcases List.mem_cons.1 hn with rfl | hn
    · exact decide_eq_true (Nat.zero_le _)
    · have := mem_startsAfter hn
      exact decide_eq_true (by omega)
  have hafter : (startsAfter (utf8Length lines + utf8Length line) after).takeWhile
      (· ≤ utf8Length lines + utf8Length line) = [] := by
    cases hs : startsAfter (utf8Length lines + utf8Length line) after with
    | nil => rfl
    | cons n ns =>
        have := mem_startsAfter (hs ▸ List.mem_cons_self : n ∈ startsAfter _ after)
        exact List.takeWhile_cons_of_neg (by simp only [decide_eq_true_eq]; omega)
  rw [lineOf, starts_ofText hline, List.takeWhile_append_of_pos hbefore, hafter,
    List.append_nil, List.length_cons, length_startsAfter]
  rfl

theorem textBetween_append (before read rest : List Char) :
    textBetween (before ++ (read ++ rest)) (utf8Length before)
      (utf8Length before + utf8Length read) = read := by
  rw [textBetween, dropBytes?_append, Option.getD_some, Nat.add_sub_cancel_left,
    takeWithin_append]

/-- **The place of a boundary is where the text before it leads.** -/
theorem position_append (before after : List Char) :
    (ofText (before ++ after)).position (before ++ after) (utf8Length before) =
      Position.after before := by
  obtain ⟨lines, line, rfl, hlines, hline⟩ := exists_wholeLines before
  have hmin : min (utf8Length (lines ++ line)) (ofText (lines ++ line ++ after)).length =
      utf8Length lines + utf8Length line := by
    show min _ (utf8Length (lines ++ line ++ after)) = _
    simp only [utf8Length_append]
    omega
  simp only [position, hmin, lineOf_ofText hline, starts_getElem? hlines hline, Option.getD_some]
  rw [List.append_assoc, textBetween_append, Position.after_lines hlines hline]

/-- **Places grow with boundaries.** -/
theorem position_before {text : List Char} {a b : Nat} (ha : Boundary text a)
    (hb : Boundary text b) (hlt : a < b) :
    ((ofText text).position text a).Before ((ofText text).position text b) := by
  obtain ⟨before, between, after, rfl, rfl, rfl, hne⟩ := ha.exists_between hb hlt
  rw [position_append, ← List.append_assoc, position_append]
  exact Position.before_after before hne

/-! ## The way back -/

theorem bytesBefore_append (as bs : List Char) :
    bytesBefore (utf16Length as) (as ++ bs) = utf8Length as := by
  induction as with
  | nil => cases bs <;> rfl
  | cons a as ih =>
      have ha := utf16Size_pos a
      obtain ⟨n, hn⟩ : ∃ n, utf16Size a + utf16Length as = n + 1 :=
        ⟨utf16Size a + utf16Length as - 1, by omega⟩
      rw [utf16Length_cons, hn, List.cons_append, bytesBefore,
        show n + 1 - utf16Size a = utf16Length as by omega, ih, utf8Length_cons]

theorem withoutBreak_of_not_mem {cs : List Char} (h : '\n' ∉ cs) : withoutBreak cs = cs := by
  unfold withoutBreak
  split
  · rename_i before hr
    have : '\n' ∈ cs.reverse := by rw [hr]; exact List.mem_cons_self
    exact absurd (List.mem_reverse.1 this) h
  · rename_i before hr
    have : '\n' ∈ cs.reverse := by rw [hr]; exact List.mem_cons_self
    exact absurd (List.mem_reverse.1 this) h
  · rfl

/-- A line break is all that is taken from a line. -/
theorem withoutBreak_append (line rest : List Char) (h : ¬ InsideBreak line (rest ++ ['\n'])) :
    ∃ rest', withoutBreak (line ++ rest ++ ['\n']) = line ++ rest' := by
  unfold withoutBreak
  rw [List.reverse_append, List.reverse_singleton, List.singleton_append]
  split
  · rename_i before hr
    have hr : (line ++ rest).reverse = '\r' :: before := (List.cons.inj hr).2
    rw [List.reverse_eq_cons_iff] at hr
    rcases List.eq_nil_or_concat rest with rfl | ⟨rest', c, rfl⟩
    · refine absurd ⟨?_, rfl⟩ h
      rw [← List.append_nil line, hr, List.getLast?_concat]
    · rw [List.concat_eq_append, ← List.append_assoc] at hr
      exact ⟨rest', (List.append_inj' hr rfl).1.symm⟩
  · rename_i before _ hr
    have hr : (line ++ rest).reverse = before := (List.cons.inj hr).2
    exact ⟨rest, by rw [← hr, List.reverse_reverse]⟩
  · rename_i hno
    exact absurd rfl (hno _)

/-- The text of the line that a boundary is in, unless it is inside of a line break. -/
theorem lineText?_ofText {lines line : List Char} (hlines : WholeLines lines)
    (hline : '\n' ∉ line) {after : List Char} (h : ¬ InsideBreak line after) :
    ∃ rest, (ofText (lines ++ line ++ after)).lineText? (lines ++ line ++ after)
      (lines.count '\n') = some (line ++ rest) := by
  have hnext : (ofText (lines ++ line ++ after)).starts[lines.count '\n' + 1]? =
      (startsAfter (utf8Length lines + utf8Length line) after)[0]? := by
    have hlength := Nat.le_of_eq (congrArg (· + 1) (length_startsAfter 0 lines))
    rw [starts_ofText hline, List.getElem?_append_right hlength, List.length_cons,
      length_startsAfter, Nat.sub_self]
  have hlength : (ofText (lines ++ line ++ after)).length =
      utf8Length lines + (utf8Length line + utf8Length after) := by
    show utf8Length (lines ++ line ++ after) = _
    rw [utf8Length_append, utf8Length_append, Nat.add_assoc]
  simp only [lineText?, starts_getElem? hlines hline, Option.map_some, Option.some.injEq, hnext,
    hlength]
  by_cases hmem : '\n' ∈ after
  · obtain ⟨rest, tail, rfl, hrest⟩ := List.eq_append_cons_of_mem hmem
    have hstop : (startsAfter (utf8Length lines + utf8Length line) (rest ++ '\n' :: tail))[0]? =
        some (utf8Length lines + utf8Length (line ++ rest ++ ['\n'])) := by
      rw [startsAfter_append, startsAfter_of_not_mem _ hrest, List.nil_append, startsAfter,
        if_pos rfl, List.getElem?_cons_zero]
      simp only [utf8Length_append, utf8Length_cons, utf8Length_nil, Nat.add_assoc, Nat.add_zero]
    rw [hstop, Option.getD_some, show lines ++ line ++ (rest ++ '\n' :: tail) =
      lines ++ (line ++ rest ++ ['\n'] ++ tail) by simp, textBetween_append]
    refine withoutBreak_append line rest fun hin => h ⟨hin.1, ?_⟩
    cases rest with
    | nil => rfl
    | cons c rest => exact hin.2
  · rw [startsAfter_of_not_mem _ hmem, List.getElem?_nil, Option.getD_none,
      ← utf8Length_append, List.append_assoc]
    have := textBetween_append lines (line ++ after) []
    rw [List.append_nil] at this
    rw [this]
    exact ⟨after, withoutBreak_of_not_mem (by simp [hline, hmem])⟩

/-- **A boundary is found again from its place, unless it is inside of a line break.** -/
theorem offset?_position {before after : List Char} (h : ¬ InsideBreak before after) :
    (ofText (before ++ after)).offset? (before ++ after)
        ((ofText (before ++ after)).position (before ++ after) (utf8Length before)) =
      some (utf8Length before) := by
  rw [position_append]
  obtain ⟨lines, line, rfl, hlines, hline⟩ := exists_wholeLines before
  have hin : ¬ InsideBreak line after := by
    intro hin
    refine h ⟨?_, hin.2⟩
    rw [List.getLast?_append, hin.1]
    rfl
  obtain ⟨rest, hrest⟩ := lineText?_ofText hlines hline hin
  rw [Position.after_lines hlines hline, offset?, lineStart?, starts_getElem? hlines hline, hrest]
  show some (utf8Length lines + bytesBefore (utf16Length line) (line ++ rest)) = _
  rw [bytesBefore_append, utf8Length_append]

end LineIndex

end Manuscript

/-
# Manuscript.Proofs.Text.Column -- offsets and places are inverse

`Manuscript.Proofs.Text.Position` goes from boundaries to places.  Here is what remains
to say that the two conversions of a `LineIndex` are inverse (`LineIndex.Inverse`,
`LineIndex.inverse_ofText`).

An offset anywhere in a text has the place of the last boundary at or before it
(`exists_floor`): inside a character that of its start, past the end that of the end.

The way back goes line by line.  `IsLine` says which characters a line holds, without its
break, and every number below the count of lines has one (`exists_isLine`).  A column is
then a way to cut the line in two (`bytesBefore_eq`): exactly where the UTF-16 units come
out even, behind a character that the column splits, and at the end of the line when the
column is past it.
-/
import Manuscript.Proofs.Text.Position

namespace Manuscript

set_option autoImplicit false

open Text

namespace Text

theorem utf16Size_le_utf8Size (c : Char) : utf16Size c ≤ c.utf8Size := by
  have hpos := Char.utf8Size_pos c
  unfold utf16Size
  split
  · exact hpos
  · rename_i h
    have hone : c.utf8Size ≠ 1 := by
      rw [Ne, Char.utf8Size_eq_one_iff, UInt32.le_iff_toNat_le]
      exact fun hle => h (Nat.le_trans hle (by decide))
    omega

theorem utf16Length_le_utf8Length (cs : List Char) : utf16Length cs ≤ utf8Length cs := by
  induction cs with
  | nil => exact Nat.le_refl 0
  | cons c cs ih =>
      rw [utf16Length_cons, utf8Length_cons]
      exact Nat.add_le_add (utf16Size_le_utf8Size c) ih

theorem length_le_utf8Length (cs : List Char) : cs.length ≤ utf8Length cs := by
  induction cs with
  | nil => exact Nat.le_refl 0
  | cons c cs ih =>
      have := Char.utf8Size_pos c
      rw [List.length_cons, utf8Length_cons]
      omega

/-- An offset is in a character, or no less than the length of the text. -/
theorem exists_char_at {cs : List Char} {n : Nat} (h : n < utf8Length cs) :
    ∃ before c after k, cs = before ++ c :: after ∧ n = utf8Length before + k ∧
      k < c.utf8Size := by
  induction cs generalizing n with
  | nil => exact absurd h (Nat.not_lt_zero n)
  | cons c cs ih =>
      by_cases hc : n < c.utf8Size
      · exact ⟨[], c, cs, n, rfl, by simp, hc⟩
      · rw [utf8Length_cons] at h
        obtain ⟨before, d, after, k, rfl, hn, hk⟩ := ih (n := n - c.utf8Size) (by omega)
        exact ⟨c :: before, d, after, k, rfl, by rw [utf8Length_cons]; omega, hk⟩

/-- A beginning that may end inside a character ends before it. -/
theorem takeWithin_append_of_lt (as : List Char) (c : Char) (bs : List Char) {k : Nat}
    (h : k < c.utf8Size) : takeWithin (utf8Length as + k) (as ++ c :: bs) = as := by
  induction as with
  | nil => rw [utf8Length_nil, Nat.zero_add, List.nil_append, takeWithin, if_neg (by omega)]
  | cons a as ih =>
      rw [utf8Length_cons, List.cons_append, takeWithin, if_pos (by omega),
        show a.utf8Size + utf8Length as + k - a.utf8Size = utf8Length as + k by omega, ih]

end Text

/-- A line of a text: the lines before it, and its characters without its break. -/
structure IsLine (text : List Char) (number : Nat) (before line : List Char) : Prop where
  whole : WholeLines before
  count : before.count '\n' = number
  no_feed : '\n' ∉ line
  /-- The line ends at the end of the text, at carriage return and line feed, or at a line feed
  alone. -/
  ends : text = before ++ line ∨ (∃ after, text = before ++ (line ++ '\r' :: '\n' :: after)) ∨
    ∃ after, text = before ++ (line ++ '\n' :: after) ∧ line.getLast? ≠ some '\r'

/-- The column comes between the two units of a character. -/
def SplitsPair (line : List Char) (column : Nat) : Prop :=
  ∃ read c rest, line = read ++ c :: rest ∧ utf16Size c = 2 ∧ column = utf16Length read + 1

/-- A text can be cut where any of its lines starts. -/
theorem exists_wholeLines_count {text : List Char} {number : Nat} (h : number ≤ text.count '\n') :
    ∃ before after, text = before ++ after ∧ WholeLines before ∧ before.count '\n' = number := by
  induction number with
  | zero => exact ⟨[], text, rfl, Or.inl rfl, rfl⟩
  | succ number ih =>
      obtain ⟨before, after, rfl, -, hcount⟩ := ih (by omega)
      have hmem : '\n' ∈ after := by
        rw [← List.count_pos_iff]
        rw [List.count_append] at h
        omega
      obtain ⟨line, rest, rfl, hline⟩ := List.eq_append_cons_of_mem hmem
      refine ⟨before ++ line ++ ['\n'], rest, by simp, Or.inr ⟨before ++ line, rfl⟩, ?_⟩
      simp [List.count_append, hcount, List.count_eq_zero_of_not_mem hline]

theorem exists_isLine {text : List Char} {number : Nat} (h : number ≤ text.count '\n') :
    ∃ before line, IsLine text number before line := by
  obtain ⟨before, after, rfl, hwhole, hcount⟩ := exists_wholeLines_count h
  by_cases hmem : '\n' ∈ after
  · obtain ⟨line, rest, rfl, hline⟩ := List.eq_append_cons_of_mem hmem
    rcases List.eq_nil_or_concat line with rfl | ⟨start, c, rfl⟩
    · exact ⟨before, [], hwhole, hcount, hline, Or.inr (Or.inr ⟨rest, rfl, by simp⟩)⟩
    · by_cases hc : c = '\r'
      · refine ⟨before, start, hwhole, hcount, fun hin => hline (by simp [hin]),
          Or.inr (Or.inl ⟨rest, ?_⟩)⟩
        simp [hc]
      · refine ⟨before, start.concat c, hwhole, hcount, hline, Or.inr (Or.inr ⟨rest, rfl, ?_⟩)⟩
        simpa using hc
  · exact ⟨before, after, hwhole, hcount, hmem, Or.inl rfl⟩

namespace LineIndex

variable {text : List Char}

theorem lineCount_ofText (text : List Char) : (ofText text).lineCount = text.count '\n' + 1 := by
  show (0 :: startsAfter 0 text).length = _
  rw [List.length_cons, length_startsAfter]

/-! ## Offsets off the boundaries -/

/-- A line that starts behind a place starts behind the character there. -/
theorem le_of_mem_startsAfter_cons {offset n : Nat} {c : Char} {cs : List Char}
    (h : n ∈ startsAfter offset (c :: cs)) : offset + c.utf8Size ≤ n := by
  rw [startsAfter] at h
  split at h
  · rcases List.mem_cons.1 h with rfl | h
    · exact Nat.le_refl _
    · have := mem_startsAfter h
      omega
  · have := mem_startsAfter h
    omega

/-- The line of an offset inside a character is that of the character. -/
theorem lineOf_inside {lines line : List Char} (hline : '\n' ∉ line) (c : Char)
    (after : List Char) {k : Nat} (hk : k < c.utf8Size) :
    (ofText (lines ++ line ++ c :: after)).lineOf (utf8Length lines + utf8Length line + k) =
      lines.count '\n' := by
  have hbefore : ∀ n ∈ 0 :: startsAfter 0 lines,
      decide (n ≤ utf8Length lines + utf8Length line + k) = true := by
    intro n hn
    rcases List.mem_cons.1 hn with rfl | hn
    · exact decide_eq_true (Nat.zero_le _)
    · have := mem_startsAfter hn
      exact decide_eq_true (by omega)
  have hafter : (startsAfter (utf8Length lines + utf8Length line) (c :: after)).takeWhile
      (· ≤ utf8Length lines + utf8Length line + k) = [] := by
    cases hs : startsAfter (utf8Length lines + utf8Length line) (c :: after) with
    | nil => rfl
    | cons n ns =>
        have := le_of_mem_startsAfter_cons (hs ▸ List.mem_cons_self : n ∈ startsAfter _ _)
        exact List.takeWhile_cons_of_neg (by simp only [decide_eq_true_eq]; omega)
  rw [lineOf, starts_ofText hline, List.takeWhile_append_of_pos hbefore, hafter,
    List.append_nil, List.length_cons, length_startsAfter]
  rfl

/-- **An offset inside a character has the place of its start.** -/
theorem position_inside (before : List Char) (c : Char) (after : List Char) {k : Nat}
    (hk : k < c.utf8Size) :
    (ofText (before ++ c :: after)).position (before ++ c :: after) (utf8Length before + k) =
      Position.after before := by
  obtain ⟨lines, line, rfl, hlines, hline⟩ := exists_wholeLines before
  have hmin : min (utf8Length (lines ++ line) + k) (ofText (lines ++ line ++ c :: after)).length =
      utf8Length lines + utf8Length line + k := by
    show min _ (utf8Length (lines ++ line ++ c :: after)) = _
    simp only [utf8Length_append, utf8Length_cons]
    omega
  simp only [position, hmin, lineOf_inside hline c after hk, starts_getElem? hlines hline,
    Option.getD_some]
  rw [textBetween, List.append_assoc, dropBytes?_append, Option.getD_some,
    show utf8Length lines + utf8Length line + k - utf8Length lines = utf8Length line + k by omega,
    takeWithin_append_of_lt line c after hk, Position.after_lines hlines hline]

theorem position_end (text : List Char) :
    (ofText text).position text (utf8Length text) = Position.after text := by
  have := position_append text []
  rwa [List.append_nil] at this

/-- **An offset past the end has the place of the end.** -/
theorem position_past {offset : Nat} (h : utf8Length text ≤ offset) :
    (ofText text).position text offset = Position.after text := by
  rw [← position_end]
  have hlength : (ofText text).length = utf8Length text := rfl
  unfold position
  rw [hlength, Nat.min_eq_right h, Nat.min_self]

/-- Every offset has the place of the last boundary at or before it. -/
theorem exists_floor (text : List Char) (offset : Nat) :
    ∃ before after, text = before ++ after ∧ utf8Length before ≤ offset ∧
      (ofText text).position text offset = Position.after before := by
  by_cases h : offset < utf8Length text
  · obtain ⟨before, c, after, k, rfl, rfl, hk⟩ := exists_char_at h
    exact ⟨before, c :: after, rfl, Nat.le_add_right _ _, position_inside before c after hk⟩
  · have hle := Nat.le_of_not_lt h
    exact ⟨text, [], (List.append_nil text).symm, hle, position_past hle⟩

/-- Neither number of a place is larger than the number of bytes of the text. -/
theorem position_le (text : List Char) (offset : Nat) :
    ((ofText text).position text offset).line ≤ utf8Length text ∧
      ((ofText text).position text offset).column ≤ utf8Length text := by
  obtain ⟨before, after, rfl, -, hposition⟩ := exists_floor text offset
  obtain ⟨lines, line, rfl, hlines, hline⟩ := exists_wholeLines before
  rw [hposition, Position.after_lines hlines hline]
  have hcount := Nat.le_trans (List.count_le_length (a := '\n') (l := lines))
    (length_le_utf8Length lines)
  have hunits := utf16Length_le_utf8Length line
  simp only [utf8Length_append]
  omega

/-! ## Columns of a line -/

/-- A column cuts a line in two; a later one cuts it no earlier. -/
theorem bytesBefore_eq (column : Nat) (line : List Char) :
    ∃ read rest, line = read ++ rest ∧ bytesBefore column line = utf8Length read := by
  induction line generalizing column with
  | nil => exact ⟨[], [], rfl, by cases column <;> rfl⟩
  | cons c cs ih =>
      cases column with
      | zero => exact ⟨[], c :: cs, rfl, rfl⟩
      | succ column =>
          obtain ⟨read, rest, hcs, hbytes⟩ := ih (column + 1 - utf16Size c)
          refine ⟨c :: read, rest, by rw [hcs]; rfl, ?_⟩
          rw [bytesBefore, hbytes, utf8Length_cons]

theorem bytesBefore_mono {m n : Nat} (h : m ≤ n) (line : List Char) :
    bytesBefore m line ≤ bytesBefore n line := by
  induction line generalizing m n with
  | nil => cases m <;> cases n <;> exact Nat.le_refl _
  | cons c cs ih =>
      cases m with
      | zero => exact Nat.zero_le _
      | succ m =>
          obtain ⟨n, rfl⟩ : ∃ n', n = n' + 1 := ⟨n - 1, by omega⟩
          rw [bytesBefore, bytesBefore]
          exact Nat.add_le_add_left (ih (by omega)) _

/-- A column inside a character cuts behind it. -/
theorem bytesBefore_inside (read : List Char) (c : Char) (rest : List Char) {k : Nat}
    (hpos : 0 < k) (hk : k ≤ utf16Size c) :
    bytesBefore (utf16Length read + k) (read ++ c :: rest) = utf8Length (read ++ [c]) := by
  induction read with
  | nil =>
      obtain ⟨n, rfl⟩ : ∃ n, k = n + 1 := ⟨k - 1, by omega⟩
      rw [utf16Length_nil, Nat.zero_add, List.nil_append, bytesBefore,
        show n + 1 - utf16Size c = 0 by omega]
      cases rest <;> simp [bytesBefore]
  | cons a as ih =>
      have ha := utf16Size_pos a
      obtain ⟨n, hn⟩ : ∃ n, utf16Size a + utf16Length as + k = n + 1 :=
        ⟨utf16Size a + utf16Length as + k - 1, by omega⟩
      rw [utf16Length_cons, hn, List.cons_append, bytesBefore,
        show n + 1 - utf16Size a = utf16Length as + k by omega, ih]
      simp

theorem bytesBefore_past {column : Nat} {line : List Char} (h : utf16Length line ≤ column) :
    bytesBefore column line = utf8Length line := by
  obtain ⟨read, rest, hline, hbytes⟩ := bytesBefore_eq column line
  have hle := bytesBefore_mono h line
  have hall := bytesBefore_append line []
  rw [List.append_nil] at hall
  have hlength := congrArg utf8Length hline
  rw [utf8Length_append] at hlength
  omega

/-- A column that is not past the end and splits no character has a whole number of characters
before it. -/
theorem exists_of_not_splitsPair {column : Nat} {line : List Char}
    (hle : column ≤ utf16Length line) (h : ¬ SplitsPair line column) :
    ∃ read rest, line = read ++ rest ∧ column = utf16Length read := by
  induction line generalizing column with
  | nil => exact ⟨[], [], rfl, Nat.le_zero.1 hle⟩
  | cons c cs ih =>
      rw [utf16Length_cons] at hle
      by_cases hc : utf16Size c ≤ column
      · have hcs : ¬ SplitsPair cs (column - utf16Size c) := by
          rintro ⟨read, d, rest, rfl, hd, hcolumn⟩
          exact h ⟨c :: read, d, rest, rfl, hd, by rw [utf16Length_cons]; omega⟩
        obtain ⟨read, rest, rfl, hread⟩ := ih (by omega) hcs
        exact ⟨c :: read, rest, rfl, by rw [utf16Length_cons]; omega⟩
      · cases column with
        | zero => exact ⟨[], c :: cs, rfl, rfl⟩
        | succ column =>
            -- a character has two units at most
            have hsize : utf16Size c = 2 ∧ column = 0 := by
              unfold utf16Size at hc ⊢
              split at hc <;> simp_all
            refine absurd ⟨[], c, cs, rfl, hsize.1, ?_⟩ h
            simp [hsize.2]

/-! ## Lines of a text -/

theorem withoutBreak_return (line : List Char) :
    withoutBreak (line ++ ['\r', '\n']) = line := by
  simp [withoutBreak]

theorem withoutBreak_feed {line : List Char} (h : line.getLast? ≠ some '\r') :
    withoutBreak (line ++ ['\n']) = line := by
  unfold withoutBreak
  rw [List.reverse_append, List.reverse_singleton, List.singleton_append]
  split
  · rename_i before hr
    have hlast : line.reverse = '\r' :: before := (List.cons.inj hr).2
    rw [List.getLast?_eq_head?_reverse, hlast] at h
    exact absurd rfl h
  · rename_i before _ hr
    rw [← (List.cons.inj hr).2, List.reverse_reverse]
  · rename_i hno
    exact absurd rfl (hno _)

theorem lineStart?_eq {number : Nat} {before line : List Char}
    (h : IsLine text number before line) :
    (ofText text).lineStart? number = some (utf8Length before) := by
  have hstart (after : List Char) :
      (ofText (before ++ after)).starts[before.count '\n']? = some (utf8Length before) := by
    have := starts_getElem? h.whole List.not_mem_nil after
    rwa [List.append_nil] at this
  rw [lineStart?, ← h.count]
  rcases h.ends with rfl | ⟨after, rfl⟩ | ⟨after, rfl, -⟩ <;> exact hstart _

/-- The line after the last that begins in `before` starts in the rest. -/
theorem starts_next (before rest : List Char) :
    (ofText (before ++ rest)).starts[before.count '\n' + 1]? =
      (startsAfter (utf8Length before) rest)[0]? := by
  have := @starts_ofText before [] List.not_mem_nil rest
  rw [List.append_nil, utf8Length_nil, Nat.add_zero] at this
  rw [this, List.getElem?_append_right
    (Nat.le_of_eq (congrArg (· + 1) (length_startsAfter 0 before))), List.length_cons,
    length_startsAfter, Nat.sub_self]

/-- A line feed from the start of a line on ends the line. -/
theorem starts_next_feed {before ending : List Char} (hending : '\n' ∉ ending)
    (after : List Char) :
    (ofText (before ++ (ending ++ '\n' :: after))).starts[before.count '\n' + 1]? =
      some (utf8Length before + utf8Length (ending ++ ['\n'])) := by
  rw [starts_next, startsAfter_append, startsAfter_of_not_mem _ hending, List.nil_append,
    startsAfter, if_pos rfl, List.getElem?_cons_zero]
  simp [Nat.add_assoc]

/-- The index finds the characters of a line. -/
theorem lineText?_eq {number : Nat} {before line : List Char}
    (h : IsLine text number before line) : (ofText text).lineText? text number = some line := by
  have hstart := lineStart?_eq h
  rw [lineStart?] at hstart
  -- a break of either kind ends with the first line feed from the start of the line on
  have hbreak {ending : List Char} (hending : '\n' ∉ ending) (after : List Char) :
      textBetween (before ++ (ending ++ '\n' :: after)) (utf8Length before)
        (((ofText (before ++ (ending ++ '\n' :: after))).starts[before.count '\n' + 1]?).getD
          (ofText (before ++ (ending ++ '\n' :: after))).length) = ending ++ ['\n'] := by
    rw [starts_next_feed hending, Option.getD_some]
    have := textBetween_append before (ending ++ ['\n']) after
    rwa [List.append_assoc] at this
  rw [lineText?, hstart, Option.map_some, Option.some.injEq, ← h.count]
  rcases h.ends with rfl | ⟨after, rfl⟩ | ⟨after, rfl, hlast⟩
  · rw [starts_next, startsAfter_of_not_mem _ h.no_feed, List.getElem?_nil, Option.getD_none,
      show (ofText (before ++ line)).length = utf8Length before + utf8Length line from
        utf8Length_append before line]
    have := textBetween_append before line []
    rw [List.append_nil] at this
    rw [this, withoutBreak_of_not_mem h.no_feed]
  · have hreturn : '\n' ∉ line ++ ['\r'] := by simp [h.no_feed]
    have := hbreak hreturn after
    rw [List.append_assoc, List.singleton_append] at this
    rw [this, List.append_assoc]
    exact withoutBreak_return line
  · rw [hbreak h.no_feed after, withoutBreak_feed hlast]

theorem offset?_eq {number : Nat} {before line : List Char} (h : IsLine text number before line)
    (column : Nat) : (ofText text).offset? text ⟨number, column⟩ =
      some (utf8Length before + bytesBefore column line) := by
  rw [offset?, lineStart?_eq h, lineText?_eq h]
  rfl

theorem offset?_eq_none_iff (text : List Char) (p : Position) :
    (ofText text).offset? text p = none ↔ (ofText text).lineCount ≤ p.line := by
  constructor
  · intro hnone
    refine Nat.le_of_not_lt fun hlt => ?_
    rw [lineCount_ofText] at hlt
    obtain ⟨before, line, hline⟩ := @exists_isLine text p.line (by omega)
    have := offset?_eq hline p.column
    rw [hnone] at this
    cases this
  · intro hle
    have hstart : (ofText text).lineStart? p.line = none := List.getElem?_eq_none hle
    rw [offset?, hstart]
    rfl

/-- The characters before a column stand in the text. -/
theorem exists_append_of_isLine {number : Nat} {before read rest : List Char}
    (h : IsLine text number before (read ++ rest)) : ∃ after, text = before ++ read ++ after := by
  rcases h.ends with rfl | ⟨after, rfl⟩ | ⟨after, rfl, -⟩
  · exact ⟨rest, by simp⟩
  · exact ⟨rest ++ '\r' :: '\n' :: after, by simp⟩
  · exact ⟨rest ++ '\n' :: after, by simp⟩

theorem position_of_isLine {number : Nat} {before read rest : List Char}
    (h : IsLine text number before (read ++ rest)) :
    (ofText text).position text (utf8Length (before ++ read)) = ⟨number, utf16Length read⟩ := by
  obtain ⟨after, rfl⟩ := exists_append_of_isLine h
  have hread : '\n' ∉ read := fun hmem => h.no_feed (List.mem_append_left _ hmem)
  rw [position_append, Position.after_lines h.whole hread, h.count]

/-! ## Both ways -/

/-- What the columns of a line mean: `before` is what precedes the line, `line` what it holds. -/
structure Columns (text : List Char) (number : Nat) (before line : List Char) : Prop where
  isLine : IsLine text number before line
  /-- Every column is a place on the line, at a boundary before its break. -/
  cut : ∀ column, ∃ read rest, line = read ++ rest ∧
    (ofText text).offset? text ⟨number, column⟩ = some (utf8Length (before ++ read)) ∧
    (ofText text).position text (utf8Length (before ++ read)) = ⟨number, utf16Length read⟩
  mono : ∀ m n o o', m ≤ n → (ofText text).offset? text ⟨number, m⟩ = some o →
    (ofText text).offset? text ⟨number, n⟩ = some o' → o ≤ o'
  /-- A column that is not past the end and splits no character is found again. -/
  exact : ∀ column, column ≤ utf16Length line → ¬ SplitsPair line column →
    ∃ o, (ofText text).offset? text ⟨number, column⟩ = some o ∧
      (ofText text).position text o = ⟨number, column⟩
  /-- A column that splits a character is the place behind it. -/
  split : ∀ read c rest, line = read ++ c :: rest → utf16Size c = 2 →
    (ofText text).offset? text ⟨number, utf16Length read + 1⟩ =
      some (utf8Length (before ++ (read ++ [c])))
  /-- A column past the end is the end of the line. -/
  past : ∀ column, utf16Length line ≤ column →
    (ofText text).offset? text ⟨number, column⟩ = some (utf8Length (before ++ line))

theorem columns_of_isLine {number : Nat} {before line : List Char}
    (h : IsLine text number before line) : Columns text number before line := by
  have hoffset := offset?_eq h
  constructor
  case isLine => exact h
  case cut =>
    intro column
    obtain ⟨read, rest, rfl, hbytes⟩ := bytesBefore_eq column line
    exact ⟨read, rest, rfl, by rw [hoffset, hbytes, utf8Length_append], position_of_isLine h⟩
  case mono =>
    intro m n o o' hle hm hn
    rw [hoffset] at hm hn
    cases hm
    cases hn
    exact Nat.add_le_add_left (bytesBefore_mono hle line) _
  case exact =>
    intro column hle hsplit
    obtain ⟨read, rest, rfl, rfl⟩ := exists_of_not_splitsPair hle hsplit
    refine ⟨_, hoffset _, ?_⟩
    rw [bytesBefore_append, ← utf8Length_append]
    exact position_of_isLine h
  case split =>
    rintro read c rest rfl hsize
    rw [hoffset, bytesBefore_inside read c rest Nat.one_pos (by omega), utf8Length_append before]
  case past =>
    intro column hle
    rw [hoffset, bytesBefore_past hle, utf8Length_append]

/-- The two conversions of a text are inverse and keep the order. -/
structure Inverse (text : List Char) : Prop where
  increasing : ∀ a b, Boundary text a → Boundary text b → a < b →
    ((ofText text).position text a).Before ((ofText text).position text b)
  inside : ∀ before c after k, text = before ++ c :: after → k < c.utf8Size →
    (ofText text).position text (utf8Length before + k) =
      (ofText text).position text (utf8Length before)
  past : ∀ offset, utf8Length text ≤ offset →
    (ofText text).position text offset = (ofText text).position text (utf8Length text)
  /-- No number of a place needs more bits than the length of the text. -/
  small : ∀ offset, ((ofText text).position text offset).line ≤ utf8Length text ∧
    ((ofText text).position text offset).column ≤ utf8Length text
  offset?_position : ∀ before after, text = before ++ after → ¬ InsideBreak before after →
    (ofText text).offset? text ((ofText text).position text (utf8Length before)) =
      some (utf8Length before)
  offset?_eq_none : ∀ p, (ofText text).offset? text p = none ↔ (ofText text).lineCount ≤ p.line
  columns : ∀ number, number < (ofText text).lineCount →
    ∃ before line, Columns text number before line

/-- **Offsets and places of any text are inverse, as far as boundaries have a place of their
own.** -/
theorem inverse_ofText (text : List Char) : Inverse text := by
  constructor
  case increasing => exact fun a b ha hb hlt => position_before ha hb hlt
  case inside =>
    rintro before c after k rfl hk
    rw [position_inside before c after hk, position_append]
  case past =>
    intro offset h
    rw [position_past h, position_end]
  case small => exact position_le text
  case offset?_position =>
    rintro before after rfl h
    exact LineIndex.offset?_position h
  case offset?_eq_none => exact offset?_eq_none_iff text
  case columns =>
    intro number hlt
    rw [lineCount_ofText] at hlt
    obtain ⟨before, line, hline⟩ := @exists_isLine text _ (Nat.le_of_lt_succ hlt)
    exact ⟨before, line, columns_of_isLine hline⟩

end LineIndex

end Manuscript

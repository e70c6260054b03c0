/-
# Manuscript.Proofs.Bytewise.Place -- places and byte offsets, every access checked

The two conversions of a line index as a program with arrays does them.  The line of an
offset is found by a search in the sorted line starts, which answers an index or the
place where the offset would have to be put in, one behind the line; the offset itself
is moved down to a boundary before the line is cut there.  The end of a line is found by
looking at the bytes before the next one.

`position_eq` holds for every offset, past the end or inside a character, and `offset_eq`
for every place, on lines that the text has or not.  What makes the searches and
subtractions safe is that the first line starts at 0: there is a line start at or before
every offset, and a boundary at or before it.
-/
import Manuscript.Proofs.Bytewise.Access
import Manuscript.Proofs.Text.Column

namespace Manuscript.Bytewise

set_option autoImplicit false

open Text LineIndex

/-! ## Readings -/

/-- The line of an offset.  The search ends at the first line that does not start before the
offset, and the offset is on that line or on the line before it. -/
def lineAt (starts : List Nat) (offset : Nat) : Checked Nat :=
  let next := (starts.takeWhile (· < offset)).length
  if starts[next]? = some offset then pure next else minus next 1

section

variable (text : List Char)

/-- The last boundary at or before an offset. -/
def floor : Nat → Checked Nat
  | 0 => if (dropBytes? 0 text).isSome then pure 0 else .error (.difference 0 1)
  | i + 1 => if (dropBytes? (i + 1) text).isSome then pure (i + 1) else floor i

def position (index : LineIndex) (offset : Nat) : Checked Position := do
  let offset := min offset index.length
  let line ← lineAt index.starts offset
  let start ← item index.starts line
  let stop ← floor text offset
  pure ⟨line, utf16Length (← slice text start stop)⟩

/-- The end of a line that starts at `start`, without its break. -/
def lineEnd (start next : Nat) : Checked Nat :=
  if start < next then do
    let last ← minus next 1
    if ascii? text last = some '\n' then
      if start < last then do
        let before ← minus last 1
        if ascii? text before = some '\r' then pure before else pure last
      else pure last
    else pure next
  else pure next

/-- The offset at which a column begins, in the characters from `i` to `stop`. -/
def columnOffset (stop : Nat) : Nat → Nat → List Char → Nat
  | _, _, [] => stop
  | 0, i, _ :: _ => i
  | n + 1, i, c :: cs => columnOffset stop (n + 1 - utf16Size c) (i + c.utf8Size) cs

def offset (index : LineIndex) (p : Position) : Checked (Option Nat) :=
  match index.starts[p.line]? with
  | none => pure none
  | some start => do
      let stop ← lineEnd text start (index.starts[p.line + 1]?.getD index.length)
      pure (some (columnOffset stop p.column start (← slice text start stop)))

end

/-! ## The line of an offset -/

section

variable {text before line : List Char}

theorem pairwise_startsAfter (offset : Nat) (cs : List Char) :
    (startsAfter offset cs).Pairwise (· < ·) := by
  induction cs generalizing offset with
  | nil => exact List.Pairwise.nil
  | cons c cs ih =>
      rw [startsAfter]
      split
      · exact List.pairwise_cons.2 ⟨fun n hn => (mem_startsAfter hn).1, ih _⟩
      · exact ih _

/-- An offset is among the starts where the search ends, or the last start at or before it is the
one before. -/
theorem length_takeWhile_le {starts : List Nat} (h : starts.Pairwise (· < ·)) (offset : Nat) :
    (starts.takeWhile (· ≤ offset)).length = (starts.takeWhile (· < offset)).length +
      if starts[(starts.takeWhile (· < offset)).length]? = some offset then 1 else 0 := by
  induction starts with
  | nil => rfl
  | cons start starts ih =>
      obtain ⟨hlater, hsorted⟩ := List.pairwise_cons.1 h
      rcases Nat.lt_trichotomy start offset with hlt | rfl | hlt
      · have hle := Nat.le_of_lt hlt
        simp [hlt, hle, ih hsorted, Nat.add_right_comm]
      · have hnone : starts.takeWhile (· ≤ start) = [] := by
          cases starts with
          | nil => rfl
          | cons next starts =>
              exact List.takeWhile_cons_of_neg (by simpa using hlater next List.mem_cons_self)
        simp [hnone]
      · simp [Nat.not_le.2 hlt, Nat.not_lt.2 (Nat.le_of_lt hlt), Nat.ne_of_gt hlt]

theorem lineAt_eq (text : List Char) (offset : Nat) :
    lineAt (ofText text).starts offset = .ok ((ofText text).lineOf offset) := by
  have hsorted : (ofText text).starts.Pairwise (· < ·) :=
    List.pairwise_cons.2 ⟨fun n hn => (mem_startsAfter hn).1, pairwise_startsAfter 0 text⟩
  have hlength := length_takeWhile_le hsorted offset
  -- the first line starts at 0
  have hpos : 0 < ((ofText text).starts.takeWhile (· ≤ offset)).length := by
    rw [ofText, List.takeWhile_cons_of_pos (by simp)]
    exact Nat.succ_pos _
  rw [lineAt, lineOf, hlength]
  split
  · rw [Nat.add_sub_cancel]
    rfl
  · rename_i hnone
    rw [if_neg hnone, Nat.add_zero] at hlength
    exact minus_eq_ok (hlength ▸ hpos)

/-! ## From offsets to places -/

theorem floor_boundary {i : Nat} {rest : List Char} (h : dropBytes? i text = some rest) :
    floor text i = .ok i := by
  cases i <;> rw [floor, h] <;> rfl

/-- Inside a character the last boundary is before the character. -/
theorem floor_inside (before : List Char) (c : Char) (after : List Char) {k : Nat}
    (hk : k < c.utf8Size) :
    floor (before ++ c :: after) (utf8Length before + k) = .ok (utf8Length before) := by
  induction k with
  | zero => exact floor_boundary (dropBytes?_append before (c :: after))
  | succ k ih =>
      have hnone := dropBytes?_inside before c after k.zero_lt_succ hk
      rw [Nat.succ_eq_add_one, ← Nat.add_assoc] at hnone
      rw [← Nat.add_assoc]
      rw [floor, hnone]
      exact ih (by omega)

/-- The place of an offset whose last boundary is on the line it is on. -/
theorem position_of_floor {lines rest : List Char} {i : Nat} (hlines : WholeLines lines)
    (hline : '\n' ∉ line)
    (hle : i ≤ utf8Length (lines ++ line ++ rest))
    (hlineOf : (ofText (lines ++ line ++ rest)).lineOf i = lines.count '\n')
    (hfloor : floor (lines ++ line ++ rest) i = .ok (utf8Length (lines ++ line))) :
    position (lines ++ line ++ rest) (ofText (lines ++ line ++ rest)) i =
      .ok (Position.after (lines ++ line)) := by
  have hmin : min i (ofText (lines ++ line ++ rest)).length = i := Nat.min_eq_left hle
  have hat : At (lines ++ line ++ rest) ⟨utf8Length lines, line ++ rest⟩ :=
    ⟨lines, by simp, by simp⟩
  rw [position, hmin, lineAt_eq, ok_bind, hlineOf,
    item_eq_ok (starts_getElem? hlines hline rest), ok_bind, hfloor, ok_bind, utf8Length_append,
    slice_at hat, Position.after_lines hlines hline]
  rfl

/-- **The checked conversion of an offset is the place of the offset.** -/
theorem position_eq (text : List Char) (i : Nat) :
    position text (ofText text) i = .ok ((ofText text).position text i) := by
  by_cases h : i < utf8Length text
  · obtain ⟨before, c, after, k, rfl, rfl, hk⟩ := exists_char_at h
    rw [position_inside before c after hk]
    have hfloor := floor_inside before c after hk
    obtain ⟨lines, line, rfl, hlines, hline⟩ := exists_wholeLines before
    refine position_of_floor hlines hline (Nat.le_of_lt h) ?_ hfloor
    rw [utf8Length_append]
    exact lineOf_inside hline c after hk
  · have hle := Nat.le_of_not_lt h
    have hclamp : position text (ofText text) i =
        position text (ofText text) (utf8Length text) := by
      have hlength : (ofText text).length = utf8Length text := rfl
      rw [position, position, hlength, Nat.min_eq_right hle, Nat.min_self]
    rw [hclamp, position_past hle]
    obtain ⟨lines, line, rfl, hlines, hline⟩ := exists_wholeLines text
    have hlineOf := @lineOf_ofText lines line hline []
    have hend := @position_of_floor line lines [] (utf8Length (lines ++ line)) hlines hline
    rw [List.append_nil] at hlineOf hend
    have hdrop := dropBytes?_append (lines ++ line) []
    rw [List.append_nil] at hdrop
    exact hend (Nat.le_refl _) (by rw [utf8Length_append, hlineOf]) (floor_boundary hdrop)

/-! ## From places to offsets -/

theorem columnOffset_eq (n i : Nat) (cs : List Char) :
    columnOffset (i + utf8Length cs) n i cs = i + bytesBefore n cs := by
  induction cs generalizing n i with
  | nil => cases n <;> rfl
  | cons c cs ih =>
      cases n with
      | zero => rfl
      | succ n =>
          rw [columnOffset, bytesBefore, utf8Length_cons, ← Nat.add_assoc, ih, Nat.add_assoc]

/-- The last byte of a character that is not another ASCII character is not that character. -/
theorem ascii?_last_ne {a : Char} {i : Nat} {rest : List Char} (ha : a.val ≤ 127)
    (h : At text ⟨i, line ++ rest⟩) (hne : line ≠ []) (hlast : line.getLast? ≠ some a) :
    ascii? text (i + utf8Length line - 1) ≠ some a := by
  obtain ⟨init, c, rfl⟩ : ∃ init c, line = init ++ [c] :=
    ⟨_, _, (List.dropLast_concat_getLast hne).symm⟩
  have hc : c ≠ a := by
    rintro rfl
    exact hlast (by simp)
  rw [List.append_assoc, List.singleton_append] at h
  have hat := h.skip
  have hpos := c.utf8Size_pos
  have hindex : i + utf8Length (init ++ [c]) - 1 = i + utf8Length init + (c.utf8Size - 1) := by
    rw [utf8Length_append, utf8Length_cons, utf8Length_nil]
    omega
  rw [hindex, ascii?, bytes_at hat (Nat.sub_lt hpos Nat.one_pos), bytes_singleton]
  by_cases hsize : c.utf8Size = 1
  · simpa [hsize, ha] using hc
  · obtain ⟨n, hn⟩ : ∃ n, c.utf8Size - 1 = n + 1 := ⟨c.utf8Size - 2, by omega⟩
    simp [hn]

/-- Where the line after a line starts, or the text ends. -/
theorem lineEnd_of_isLine {number : Nat} (h : IsLine text number before line) :
    lineEnd text (utf8Length before)
        ((ofText text).starts[number + 1]?.getD (ofText text).length) =
      .ok (utf8Length before + utf8Length line) := by
  have hat (rest : List Char) : At (before ++ (line ++ rest)) ⟨utf8Length before, line ++ rest⟩ :=
    ⟨before, rfl, by simp⟩
  have hend (rest : List Char) :
      At (before ++ (line ++ rest)) ⟨utf8Length before + utf8Length line, rest⟩ := (hat rest).skip
  have hempty : utf8Length before < utf8Length before + utf8Length line → line ≠ [] := by
    rintro hlt rfl
    exact Nat.lt_irrefl _ hlt
  rw [← h.count]
  rcases h.ends with rfl | ⟨after, rfl⟩ | ⟨after, rfl, hlast⟩
  · have hlength : (ofText (before ++ line)).length = utf8Length before + utf8Length line :=
      utf8Length_append before line
    rw [starts_next, startsAfter_of_not_mem _ h.no_feed, List.getElem?_nil, Option.getD_none,
      hlength, lineEnd]
    split
    · rename_i hlt
      have hfeed := ascii?_last_ne (a := '\n') (by decide) (hat []) (hempty hlt) fun hfeed =>
        h.no_feed (List.mem_of_getLast? hfeed)
      rw [List.append_nil] at hfeed
      rw [minus_eq_ok (by omega), ok_bind, if_neg hfeed]
      rfl
    · rfl
  · have hreturn : '\n' ∉ line ++ ['\r'] := by simp [h.no_feed]
    have hnext := @starts_next_feed before _ hreturn after
    rw [List.append_assoc, List.singleton_append] at hnext
    have hfirst : ascii? (before ++ (line ++ '\r' :: '\n' :: after))
        (utf8Length before + utf8Length line) = some '\r' := ascii?_at (hend _)
    have hfeed : ascii? (before ++ (line ++ '\r' :: '\n' :: after))
        (utf8Length before + utf8Length line + 1) = some '\n' := ascii?_at (hend _).next
    have hstop : utf8Length before + utf8Length (line ++ ['\r', '\n']) =
        utf8Length before + utf8Length line + 1 + 1 := by
      simp [Char.utf8Size, Nat.add_assoc]
    rw [hnext, Option.getD_some, List.append_assoc, List.singleton_append, hstop, lineEnd,
      if_pos (by omega), minus_one, ok_bind, if_pos hfeed, if_pos (by omega), minus_one, ok_bind,
      if_pos hfirst]
    rfl
  · have hnext := @starts_next_feed before _ h.no_feed after
    have hfeed : ascii? (before ++ (line ++ '\n' :: after))
        (utf8Length before + utf8Length line) = some '\n' := ascii?_at (hend _)
    have hstop : utf8Length before + utf8Length (line ++ ['\n']) =
        utf8Length before + utf8Length line + 1 := by
      simp [Char.utf8Size, Nat.add_assoc]
    rw [hnext, Option.getD_some, hstop, lineEnd, if_pos (by omega), minus_one, ok_bind,
      if_pos hfeed]
    split
    · rename_i hlt
      have hreturn :=
        ascii?_last_ne (a := '\r') (by decide) (hat ('\n' :: after)) (hempty hlt) hlast
      rw [minus_eq_ok (by omega), ok_bind, if_neg hreturn]
      rfl
    · rfl

/-- **The checked conversion of a place is the offset of the place, if the text has its line.** -/
theorem offset_eq (text : List Char) (p : Position) :
    offset text (ofText text) p = .ok ((ofText text).offset? text p) := by
  by_cases h : (ofText text).lineCount ≤ p.line
  · rw [(offset?_eq_none_iff text p).2 h, offset, List.getElem?_eq_none h]
    rfl
  · rw [lineCount_ofText] at h
    obtain ⟨before, line, hline⟩ := @exists_isLine text p.line (by omega)
    have hstart := lineStart?_eq hline
    rw [lineStart?] at hstart
    have hslice : slice text (utf8Length before) (utf8Length before + utf8Length line) =
        .ok line := by
      have hwhole : IsLine text p.line before (line ++ []) := by rwa [List.append_nil]
      obtain ⟨after, hafter⟩ := exists_append_of_isLine hwhole
      exact slice_at ⟨before, by rw [hafter, List.append_assoc], by simp⟩
    rw [offset?_eq hline, offset, hstart]
    simp only [lineEnd_of_isLine hline, ok_bind, hslice, columnOffset_eq]
    rfl

end

end Manuscript.Bytewise

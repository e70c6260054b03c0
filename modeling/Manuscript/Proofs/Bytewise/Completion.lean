/-
# Manuscript.Proofs.Bytewise.Completion -- completion, every access checked

The conversions of a document, and the offers at one of its places.  What was typed is
taken off the offset of the cursor; it is what a group of a pattern read of the line
before the cursor, so it is no longer than that line, and the line no longer than the
offset (`context?_typed`).

The patterns are asked for groups that took part in the match, which they did: every
branch of the patterns sets them (`Pattern.sets`).
-/
import Manuscript.Query
import Manuscript.Proofs.Bytewise.Place
import Manuscript.Proofs.Pattern.Groups
import Manuscript.Proofs.Workspace.History

namespace Manuscript.Bytewise

set_option autoImplicit false

open Text Completion

/-! ## Documents -/

section

variable (d : Document)

def placeOf (i : Nat) : Checked Position := position d.text.toList d.lineIndex i

def rangeOf (s : Span) : Checked Range := do pure ⟨← placeOf d s.start, ← placeOf d s.stop⟩

def lineOf (i : Nat) : Checked Nat := Position.line <$> placeOf d i

def offsetOf (p : Position) : Checked (Option Nat) := offset d.text.toList d.lineIndex p

/-- The last line that holds something. -/
def lastLine : Checked Nat :=
  let last := d.lineIndex.lineCount - 1
  if d.lineIndex.lineStart? last = some d.size ∧ 0 < last then minus last 1 else pure last

end

section

variable {d : Document} (h : d.Sound)

include h

theorem placeOf_eq (i : Nat) : placeOf d i = .ok (d.position i) := by
  rw [placeOf, h.lineIndex_eq, LineIndex.ofString, position_eq, Document.position, h.lineIndex_eq]
  rfl

theorem rangeOf_eq (s : Span) : rangeOf d s = .ok (d.range s) := by
  rw [rangeOf, placeOf_eq h, placeOf_eq h]
  rfl

theorem lineOf_eq (i : Nat) : lineOf d i = .ok (d.lineOf i) := by
  rw [lineOf, placeOf_eq h]
  rfl

theorem offsetOf_eq (p : Position) : offsetOf d p = .ok (d.offset? p) := by
  rw [offsetOf, h.lineIndex_eq, LineIndex.ofString, offset_eq, Document.offset?, h.lineIndex_eq]
  rfl

end

theorem lastLine_eq (d : Document) : lastLine d = .ok d.lastLine := by
  unfold lastLine Document.lastLine
  by_cases hlast : d.lineIndex.lineStart? (d.lineIndex.lineCount - 1) = some d.size
  · by_cases hpos : 0 < d.lineIndex.lineCount - 1
    · simp only [hlast, hpos, and_self, if_true]
      exact minus_eq_ok hpos
    · simp [Nat.eq_zero_of_not_pos hpos]
  · simp [hlast]

/-! ## Contexts -/

/-- What a group of a match read. -/
def group (m : Pattern.Match) (i : Nat) : Checked (List Char) :=
  match m.group? i with
  | some read => .ok read
  | none => .error (.group i)

/-- The command of the open group at the end of a line, and the key typed in it. -/
def openGroup? (line : List Char) : Checked (Option (String × List Char)) :=
  match Context.groupPattern.find? line with
  | none => pure none
  | some m => do
      let command := String.ofList (← group m 1)
      if (m.group? 2).isSome && !Latex.Command.isLabelRange command then pure none
      else pure (some (command, ← group m 3))

/-- The letters after the backslash at the end of a line, unless a backslash is before it. -/
def openCommand? (line : List Char) : Checked (Option (List Char)) :=
  match Context.commandPattern.find? line with
  | none => pure none
  | some m => do
      let backslash ← minus (utf8Length line) (utf8Length m.start.rest)
      if (← slice line 0 backslash).getLast? = some '\\' then pure none
      else some <$> group m 1

/-- The context at the end of a line. -/
def context? (line : List Char) : Checked (Option Context) :=
  if Context.isComment line then pure none
  else do
    match ← openGroup? line with
    | some (command, typed) => pure ((Context.topicOf? command).map fun topic => ⟨topic, typed⟩)
    | none => do pure ((← openCommand? line).map fun typed => ⟨.command, typed⟩)

/-- The offers at a place of a LaTeX document. -/
def offers (matcher : Matcher) (origin : Document) (related : List Document) (p : Position) :
    Checked (List Offer) :=
  if origin.language ≠ .latex then pure []
  else do
    match ← offsetOf origin p with
    | none => pure []
    | some i => do
        let start := (origin.lineIndex.lineStart? p.line).getD i
        match ← context? (← slice origin.text.toList start i) with
        | none => pure []
        | some context => do
            let range ← rangeOf origin ⟨← minus i (utf8Length context.typed), i⟩
            let candidates := Candidate.all origin related context.topic
            pure ((firstByName (candidates.filter fun c =>
              matcher.accepts c.name.toList context.typed)).map fun c => ⟨c, range⟩)

section

variable {a : Pattern} {line : List Char} {m : Pattern.Match}

theorem group_eq (h : a.find? line = some m) {i : Nat} (hsets : a.sets i = true) :
    ∃ read, m.group? i = some read ∧ group m i = .ok read := by
  obtain ⟨read, hread⟩ := Option.isSome_iff_exists.1 (Pattern.group?_isSome h hsets)
  exact ⟨read, hread, by rw [group, hread]⟩

theorem openGroup?_eq (line : List Char) : openGroup? line = .ok (Context.openGroup? line) := by
  rw [openGroup?, Context.openGroup?]
  cases h : Context.groupPattern.find? line with
  | none => rfl
  | some m =>
      obtain ⟨command, hcommand, hfirst⟩ := group_eq h (i := 1) (by decide)
      obtain ⟨typed, htyped, hthird⟩ := group_eq h (i := 3) (by decide)
      simp only [hfirst, hthird, ok_bind, Option.bind_eq_bind, Option.bind_some, hcommand, htyped]
      split <;> rfl

theorem openCommand?_eq (line : List Char) :
    openCommand? line = .ok (Context.openCommand? line) := by
  rw [openCommand?, Context.openCommand?]
  cases h : Context.commandPattern.find? line with
  | none => rfl
  | some m =>
      obtain ⟨typed, htyped, hgroup⟩ := group_eq h (i := 1) (by decide)
      obtain ⟨read, hline, hbefore⟩ := Pattern.exists_of_find? h
      have hlength : utf8Length line = utf8Length read + utf8Length m.start.rest :=
        hline ▸ utf8Length_append read m.start.rest
      have hslice : slice line 0 (utf8Length read) = .ok read := by
        have hat : At line ⟨0, read ++ m.start.rest⟩ := hline ▸ at_start line
        simpa using slice_at hat
      simp only [hlength, minus_eq_ok (Nat.le_add_left _ _), Nat.add_sub_cancel, ok_bind, hslice,
        hgroup, hbefore, htyped, Option.bind_eq_bind, Option.bind_some]
      split <;> rfl

theorem context?_eq (line : List Char) : context? line = .ok (Context.ofLine? line) := by
  rw [context?, Context.ofLine?, openGroup?_eq, openCommand?_eq]
  split
  · rfl
  · cases Context.openGroup? line <;> rfl

theorem utf8Length_le_of_infix {read : List Char} (h : read <:+: line) :
    utf8Length read ≤ utf8Length line := by
  obtain ⟨before, after, rfl⟩ := h
  rw [utf8Length_append, utf8Length_append]
  omega

theorem openGroup?_typed {command : String} {typed : List Char}
    (h : Context.openGroup? line = some (command, typed)) : typed <:+: line := by
  rw [Context.openGroup?] at h
  obtain ⟨m, hm, h⟩ := Option.bind_eq_some_iff.1 h
  obtain ⟨name, -, h⟩ := Option.bind_eq_some_iff.1 h
  dsimp only at h
  split at h
  · cases h
  · obtain ⟨typed', htyped, h⟩ := Option.bind_eq_some_iff.1 h
    cases h
    exact Pattern.group?_infix hm htyped

theorem openCommand?_typed {typed : List Char} (h : Context.openCommand? line = some typed) :
    typed <:+: line := by
  rw [Context.openCommand?] at h
  obtain ⟨m, hm, h⟩ := Option.bind_eq_some_iff.1 h
  split at h
  · cases h
  · exact Pattern.group?_infix hm h

/-- What was typed stands in the line. -/
theorem context?_typed {context : Context} (h : Context.ofLine? line = some context) :
    context.typed <:+: line := by
  rw [Context.ofLine?] at h
  split at h
  · cases h
  split at h
  · rename_i command typed hopen
    obtain ⟨topic, -, rfl⟩ := Option.map_eq_some_iff.1 h
    exact openGroup?_typed hopen
  · obtain ⟨typed, htyped, rfl⟩ := Option.map_eq_some_iff.1 h
    exact openCommand?_typed htyped

end

/-! ## Offers -/

/-- The offset of a place is behind the start of its line, and nothing else is between them than
characters of the text. -/
theorem exists_lineBefore {d : Document} (h : d.Sound) {p : Position} {i : Nat}
    (hoffset : d.offset? p = some i) :
    ∃ start, d.lineIndex.lineStart? p.line = some start ∧
      slice d.text.toList start i = .ok (lineBefore d p.line i) ∧
      utf8Length (lineBefore d p.line i) ≤ i := by
  have hindex : d.lineIndex = .ofText d.text.toList := h.lineIndex_eq
  have hline : p.line ≤ d.text.toList.count '\n' := by
    refine Nat.le_of_not_lt fun hlt => ?_
    have hnone := (LineIndex.offset?_eq_none_iff d.text.toList p).2
    rw [LineIndex.lineCount_ofText] at hnone
    rw [Document.offset?, hindex, hnone (by omega)] at hoffset
    cases hoffset
  obtain ⟨before, line, hisLine⟩ := exists_isLine hline
  obtain ⟨read, rest, rfl, hread⟩ := LineIndex.bytesBefore_eq p.column line
  obtain ⟨after, htext⟩ := LineIndex.exists_append_of_isLine hisLine
  have hstart := LineIndex.lineStart?_eq hisLine
  obtain rfl : i = utf8Length before + utf8Length read := by
    have heq := LineIndex.offset?_eq hisLine p.column
    rw [Document.offset?, hindex, heq, hread] at hoffset
    exact (Option.some.inj hoffset).symm
  have hslice : slice? d.text.toList ⟨utf8Length before, utf8Length before + utf8Length read⟩ =
      some read := slice?_eq_some.2 ⟨before, after, by rw [htext, List.append_assoc], rfl, rfl⟩
  have hbefore : lineBefore d p.line (utf8Length before + utf8Length read) = read := by
    rw [lineBefore, hindex, hstart, Option.getD_some, hslice, Option.getD_some]
  rw [hbefore, hindex]
  exact ⟨utf8Length before, hstart, by rw [slice, hslice], Nat.le_add_left _ _⟩

/-- **The checked offers at a place are the offers there.** -/
theorem offers_eq (matcher : Matcher) {origin : Document} (h : origin.Sound)
    (related : List Document) (p : Position) :
    offers matcher origin related p = .ok (Completion.offers matcher origin related p) := by
  rw [offers, Completion.offers]
  split
  · rfl
  rw [offsetOf_eq h, ok_bind]
  cases hoffset : origin.offset? p with
  | none => rfl
  | some i =>
      obtain ⟨start, hstart, hslice, hle⟩ := exists_lineBefore h hoffset
      simp only [hstart, Option.getD_some, hslice, ok_bind, context?_eq]
      cases hcontext : Context.ofLine? (lineBefore origin p.line i) with
      | none => rfl
      | some context =>
          have htyped := utf8Length_le_of_infix (context?_typed hcontext)
          simp only [minus_eq_ok (Nat.le_trans htyped hle), ok_bind, rangeOf_eq h]
          rfl

end Manuscript.Bytewise

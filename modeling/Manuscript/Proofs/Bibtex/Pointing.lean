/-
# Manuscript.Proofs.Bibtex.Pointing -- what the problems of a bibliography point at

An editor shows a problem at the range of its span, and nothing at all if no character is
in it.  So the span of a problem has to cover characters, and whole ones.

Most problems are found where something was read: a name, a key, what stands between an at
sign and a place behind it.  Those cover what was read.  One kind is found where nothing can
be read: a character that begins no field name.  That problem takes one byte, which is the
character if it is ASCII and only its first byte otherwise (`Diagnostic.CutsCharacter`).

`Points` says this of a problem behind a cursor, and it is kept while a reader goes on, from
a step of the fields (`Fields.Step.points_read`) to the scan (`points_scan`).  The two checks
of the whole file are about keys and references, which were read.  So every problem but that
one covers whole characters and is shown (`pointed_bibliography`).
-/
import Manuscript.Proofs.Bibtex.Faithful
import Manuscript.Proofs.Text.Column
import Manuscript.Proofs.Workspace.History
import Manuscript.Problem.Basic

namespace Manuscript

set_option autoImplicit false

open Text

/-- The problem is that a character of several bytes begins no field name, and it covers the
first of them. -/
def Diagnostic.CutsCharacter (text : List Char) (d : Diagnostic) : Prop :=
  ∃ before c after, text = before ++ c :: after ∧ 1 < c.utf8Size ∧
    d = Bibtex.missingEquals ⟨utf8Length before, utf8Length before + 1⟩

namespace Bibtex

/-- The problem covers text behind the cursor, or the first byte of a character there. -/
inductive Points (k : Cursor) : Diagnostic → Prop where
  | whole {d : Diagnostic} {word : List Char} : word ≠ [] → k.Sees d.span word → Points k d
  | stray {offset : Nat} {c : Char} : 1 < c.utf8Size →
      k.Sees ⟨offset, offset + c.utf8Size⟩ [c] → Points k (missingEquals ⟨offset, offset + 1⟩)

theorem Points.of_reaches {k k' : Cursor} {d : Diagnostic} (h : k.Reaches k')
    (hd : Points k' d) : Points k d := by
  cases hd with
  | whole hne hsees => exact .whole hne (hsees.of_reaches h)
  | stray hsize hsees => exact .stray hsize (hsees.of_reaches h)

/-- What was read from a cursor on is not empty behind its first characters. -/
theorem points_through {k k' : Cursor} {d : Diagnostic} (read : List Char) {rest : List Char}
    (hk : k.rest = read ++ rest) (hne : read ≠ [])
    (hreach : Cursor.Reaches ⟨k.offset + utf8Length read, rest⟩ k')
    (hspan : d.span = ⟨k.offset, k'.offset⟩) : Points k d := by
  obtain ⟨more, -, hsees⟩ := Cursor.exists_sees_through hk hreach
  exact .whole (List.append_ne_nil_of_left_ne_nil hne more) (hspan ▸ hsees)

/-! ## Fields -/

namespace Fields

theorem Step.fault_recover {delimiter : Delimiter} {fault d : Diagnostic} {depth : Nat} {k : Cursor}
    (hd : .fault d ∈ (recover delimiter fault depth k).events) : d = fault := by
  rw [events_recover] at hd
  exact Event.fault.inj (List.mem_singleton.1 hd)

theorem Step.fault_value {delimiter : Delimiter} {name : Symbol} {d : Diagnostic} {k : Cursor} :
    .fault d ∉ (value delimiter name k).events := by
  rw [events_value]
  intro hd
  obtain ⟨s, -, hs⟩ := List.mem_map.1 hd
  cases hs

/-- **A step points at the name that it read**, or at the character where it found none. -/
theorem Step.points_read (delimiter : Delimiter) (here : Cursor) {d : Diagnostic}
    (hd : .fault d ∈ (read delimiter here).events) : Points here d := by
  obtain ⟨o, text⟩ := here
  cases text with
  | nil => cases hd
  | cons c cs =>
      by_cases hclose : c = delimiter.closing
      · have hread : read delimiter ⟨o, c :: cs⟩ = .stop true ⟨o + c.utf8Size, cs⟩ := if_pos hclose
        rw [hread] at hd
        cases hd
      by_cases hcomma : c = ','
      · have hread : read delimiter ⟨o, c :: cs⟩ = .go none [] ⟨o + c.utf8Size, cs⟩ :=
          (if_neg hclose).trans (if_pos hcomma)
        rw [hread] at hd
        cases hd
      by_cases hat : c = '@'
      · have hread : read delimiter ⟨o, c :: cs⟩ = .stop false ⟨o, c :: cs⟩ :=
          (if_neg hclose).trans ((if_neg hcomma).trans (if_pos hat))
        rw [hread] at hd
        cases hd
      by_cases hname : (readName ⟨o, c :: cs⟩).1 = []
      · rw [read_nameless hclose hcomma hat hname] at hd
        rw [fault_recover hd]
        have hsees : Cursor.Sees ⟨o, c :: cs⟩ ⟨o, o + c.utf8Size⟩ [c] := Cursor.sees_here rfl
        rcases Nat.lt_or_eq_of_le (Char.utf8Size_pos c) with hsize | hsize
        · exact .stray hsize hsees
        · rw [← hsize] at hsees
          exact .whole (List.cons_ne_nil c []) hsees
      by_cases hsign : ∃ more, (skipBlanks (readName ⟨o, c :: cs⟩).2).rest = '=' :: more
      · obtain ⟨more, hmore⟩ := hsign
        rw [read_assignment hclose hcomma hat hname hmore] at hd
        exact absurd hd fault_value
      · rw [read_signless hclose hcomma hat hname fun more hmore => hsign ⟨more, hmore⟩] at hd
        rw [fault_recover hd]
        exact .whole hname (Cursor.sees_here (readName_rest ⟨o, c :: cs⟩))

/-- **Fields point at what is written in them.** -/
theorem points_read (delimiter : Delimiter) (k : Cursor) {d : Diagnostic}
    (hd : .fault d ∈ (read delimiter k).events) : Points k d := by
  induction k using read_induction delimiter with
  | stop k terminated k' h =>
      rw [read_of_stop h] at hd
      cases hd
  | go k field events k' h ih =>
      have hstep := Step.reaches_read delimiter (skipBlanks k)
      have hpoints := @Step.points_read delimiter (skipBlanks k) d
      rw [h] at hstep hpoints
      rw [read_of_go h] at hd
      rcases List.mem_append.1 hd with hd | hd
      · exact (hpoints hd).of_reaches (reaches_skipBlanks k)
      · exact (ih hd).of_reaches ((reaches_skipBlanks k).trans hstep)
  | abandon k events k' h =>
      have hpoints := @Step.points_read delimiter (skipBlanks k) d
      rw [h] at hpoints
      rw [read_of_abandon h] at hd
      exact (hpoints hd).of_reaches (reaches_skipBlanks k)

/-- A block that is not terminated is shown at its at sign. -/
theorem points_faults {fields : Fields} {offset : Nat} {cs : List Char} {d : Diagnostic}
    (hd : .fault d ∈ fields.faults offset) : Points ⟨offset, '@' :: cs⟩ d := by
  unfold faults at hd
  split at hd
  · cases hd
  · obtain rfl := Event.fault.inj (List.mem_singleton.1 hd)
    exact .whole (List.cons_ne_nil '@' []) (Cursor.sees_here rfl)

end Fields

/-! ## Blocks -/

namespace Block

variable {offset : Nat} {cs : List Char} {k : Cursor} {d : Diagnostic}

theorem points_skipped {delimiter : Delimiter}
    (hd : .fault d ∈ (skipped offset delimiter k).events) : Points ⟨offset, '@' :: cs⟩ d := by
  unfold skipped at hd
  split at hd
  · cases hd
  · obtain rfl := Event.fault.inj (List.mem_singleton.1 hd)
    exact .whole (List.cons_ne_nil '@' []) (Cursor.sees_here rfl)

theorem points_strings {delimiter : Delimiter} (hk : Cursor.Reaches ⟨offset, '@' :: cs⟩ k)
    (hd : .fault d ∈ (strings offset delimiter k).events) : Points ⟨offset, '@' :: cs⟩ d := by
  rcases List.mem_append.1 hd with hd | hd
  · rcases List.mem_append.1 hd with hd | hd
    · exact (Fields.points_read delimiter k hd).of_reaches hk
    · obtain ⟨field, -, hfield⟩ := List.mem_map.1 hd
      cases hfield
  · exact Fields.points_faults hd

theorem points_entry {kind : String} {delimiter : Delimiter}
    (hk : Cursor.Reaches ⟨offset + 1, cs⟩ k)
    (hd : .fault d ∈ (entry offset kind delimiter k).events) : Points ⟨offset, '@' :: cs⟩ d := by
  have hhead : Cursor.Reaches ⟨offset, '@' :: cs⟩ ⟨offset + 1, cs⟩ := ⟨['@'], rfl, rfl⟩
  have hhere := hk.trans (reaches_skipBlanks k)
  have hkey : (skipBlanks k).Reaches (keyAt delimiter k).2 := Cursor.reaches_upTo _ _
  have hevents : (entry offset kind delimiter k).events =
      (if (keyAt delimiter k).1 = [] then
        [.fault (missingKey kind ⟨offset, (skipBlanks k).offset⟩)] else []) ++
      (Fields.read delimiter (keyAt delimiter k).2).events ++
      (Fields.read delimiter (keyAt delimiter k).2).faults offset ++
      [.entry (found offset kind delimiter k)] := rfl
  rw [hevents] at hd
  simp only [List.mem_append] at hd
  rcases hd with ((hd | hd) | hd) | hd
  · split at hd
    · obtain rfl := Event.fault.inj (List.mem_singleton.1 hd)
      exact points_through ['@'] rfl (List.cons_ne_nil '@' []) hhere rfl
    · cases hd
  · exact (Fields.points_read delimiter _ hd).of_reaches (hhead.trans (hhere.trans hkey))
  · exact Fields.points_faults hd
  · cases List.mem_singleton.1 hd

/-- **A block points at what is written in it.** -/
theorem points_at (hd : .fault d ∈ (Block.at offset '@' cs).events) :
    Points ⟨offset, '@' :: cs⟩ d := by
  have hat : Block.at offset '@' cs = read offset ⟨offset + 1, cs⟩ := rfl
  rw [hat] at hd
  have hread := reaches_readName ⟨offset + 1, cs⟩
  have hhead : Cursor.Reaches ⟨offset, '@' :: cs⟩ ⟨offset + 1, cs⟩ := ⟨['@'], rfl, rfl⟩
  by_cases hname : (readName ⟨offset + 1, cs⟩).1 = []
  · rw [read_nameless hname] at hd
    cases hd
  by_cases hopen : ∃ delimiter rest,
      (skipBlanks (readName ⟨offset + 1, cs⟩).2).rest = Markup.opening delimiter :: rest
  · obtain ⟨delimiter, rest, hrest⟩ := hopen
    have hsize : (Markup.opening delimiter).utf8Size = 1 := by cases delimiter <;> decide
    have hk : Cursor.Reaches ⟨offset + 1, cs⟩
        ⟨(skipBlanks (readName ⟨offset + 1, cs⟩).2).offset + 1, rest⟩ :=
      hread.trans ((reaches_skipBlanks _).trans
        ⟨[Markup.opening delimiter], hrest, by simp [hsize]⟩)
    rw [read_opened hname hrest] at hd
    unfold content at hd
    split at hd
    · exact points_skipped hd
    split at hd
    · exact points_strings (hhead.trans hk) hd
    · exact points_entry hk hd
  · rw [read_unopened hname fun delimiter rest hrest => hopen ⟨delimiter, rest, hrest⟩] at hd
    obtain rfl := Event.fault.inj (List.mem_singleton.1 hd)
    exact points_through ['@'] rfl (List.cons_ne_nil '@' []) hread rfl

end Block

/-! ## Bibliographies -/

/-- **A scan points at what is written in the text.** -/
theorem points_scan (k : Cursor) {d : Diagnostic} (hd : .fault d ∈ scan k) : Points k d := by
  induction k using scan_induction with
  | nil k h =>
      rw [scan_of_nil h] at hd
      cases hd
  | cons k c cs h ih =>
      obtain rfl := nextBlock_at h
      have hhere := reaches_nextBlock k
      have hstart : (⟨(nextBlock k).offset, '@' :: cs⟩ : Cursor) = nextBlock k := by rw [← h]
      have hblock : (nextBlock k).Reaches (Block.at (nextBlock k).offset '@' cs).next :=
        Cursor.Reaches.trans (b := ⟨(nextBlock k).offset + 1, cs⟩) ⟨['@'], h, rfl⟩
          (Block.reaches_read _ _)
      rw [scan_of_cons h] at hd
      rcases List.mem_append.1 hd with hd | hd
      · exact (hstart ▸ Block.points_at hd).of_reaches hhere
      · exact (ih hd).of_reaches (hhere.trans hblock)

/-- A symbol that comes again is one of the symbols. -/
theorem mem_of_mem_repeated {seen : List String} {symbols : List Symbol} {s : Symbol}
    (h : s ∈ repeated seen symbols) : s ∈ symbols := by
  induction symbols generalizing seen with
  | nil => exact h
  | cons t ts ih =>
      rw [repeated] at h
      split at h
      · rcases List.mem_cons.1 h with rfl | h
        · exact List.mem_cons_self
        · exact List.mem_cons_of_mem t (ih h)
      · exact List.mem_cons_of_mem t (ih h)

/-- The checks of the whole file point at keys and references. -/
theorem points_analyze {text : String} {d : Diagnostic} (hd : d ∈ (analyze text).diagnostics) :
    Points ⟨0, text.toList⟩ d := by
  have hsymbol {s : Symbol} (hlt : s.span.start < s.span.stop)
      (hsees : Cursor.Sees ⟨0, text.toList⟩ s.span s.name.toList) (hspan : d.span = s.span) :
      Points ⟨0, text.toList⟩ d := by
    refine .whole (fun hnil => ?_) (hspan ▸ hsees)
    obtain ⟨before, after, -, -, hstop⟩ := hsees
    rw [hnil, utf8Length_nil] at hstop
    omega
  rcases List.mem_append.1 (List.mem_mergeSort.1 hd) with hd | hd
  · rcases List.mem_append.1 hd with hd | hd
    · obtain ⟨e, he, hfault⟩ := List.mem_filterMap.1 hd
      cases e <;> cases hfault
      exact points_scan (.ofString text) he
    · obtain ⟨key, hkey, rfl⟩ := List.mem_map.1 hd
      have hkey : key ∈ (analyze text).keys := mem_of_mem_repeated hkey
      rw [keys_analyze] at hkey
      have hplaced := placed_scan (.ofString text)
      exact hsymbol (hplaced.start_lt_stop (fun _ h => h.nonempty) hkey) (hplaced.sees hkey) rfl
  · obtain ⟨reference, hreference, rfl⟩ := List.mem_map.1 hd
    obtain ⟨last, hspells⟩ := spells_scan Block.spells_references (.ofString text)
    have hmem := (List.mem_filter.1 hreference).1
    exact hsymbol (hspells.ordered.bounds (List.mem_map_of_mem hmem)).2.1
      (hspells.sees reference hmem) rfl

/-- No boundary comes behind the first of several bytes. -/
theorem not_boundary_of_cutsCharacter {text : List Char} {d : Diagnostic}
    (h : d.CutsCharacter text) : ¬ Boundary text d.span.stop := by
  obtain ⟨before, c, after, rfl, hsize, rfl⟩ := h
  rintro ⟨start, rest, htext, hstop⟩
  have hnone := dropBytes?_inside before c after Nat.one_pos hsize
  rw [htext, show utf8Length before + 1 = utf8Length start from hstop, dropBytes?_append] at hnone
  cases hnone

/-- What an editor that shows a problem may rely on. -/
structure Pointed (text : List Char) (d : Diagnostic) : Prop where
  start_lt_stop : d.span.start < d.span.stop
  stop_le_length : d.span.stop ≤ utf8Length text
  boundary_start : Boundary text d.span.start
  boundary_stop : Boundary text d.span.stop ↔ ¬ d.CutsCharacter text
  /-- The range of the problem in a document with the text is not empty. -/
  shown : ∀ document : Document, document.Sound → document.text.toList = text →
    ((Problem.ofDiagnostic document d).range.start.Before
      (Problem.ofDiagnostic document d).range.stop ↔ ¬ d.CutsCharacter text)

/-- **The problems of a bibliography point at whole characters**, but for one kind: where a
character of several bytes begins no field name, the problem ends inside that character and
has an empty range. -/
theorem pointed_bibliography {text : String} {d : Diagnostic}
    (hd : d ∈ (analyze text).diagnostics) : Pointed text.toList d := by
  have hrange (document : Document) (hsound : document.Sound)
      (htext : document.text.toList = text.toList) : (Problem.ofDiagnostic document d).range =
        ⟨(LineIndex.ofText text.toList).position text.toList d.span.start,
          (LineIndex.ofText text.toList).position text.toList d.span.stop⟩ := by
    simp only [Problem.ofDiagnostic, Document.range, Document.position, hsound.lineIndex_eq,
      LineIndex.ofString, htext]
  cases points_analyze hd with
  | whole hne hsees =>
      have hwithin := hsees.within
      have hlt := hsees.start_lt_stop hne
      have hwhole : ¬ d.CutsCharacter text.toList := fun hcuts =>
        not_boundary_of_cutsCharacter hcuts hwithin.boundary_stop
      refine ⟨hlt, hwithin.stop_le_length, hwithin.boundary_start,
        iff_of_true hwithin.boundary_stop hwhole, fun document hsound htext => ?_⟩
      rw [hrange document hsound htext]
      exact iff_of_true
        (LineIndex.position_before hwithin.boundary_start hwithin.boundary_stop hlt) hwhole
  | @stray offset c hsize hsees =>
      obtain ⟨before, after, htext, hstart, -⟩ := hsees
      obtain rfl : offset = utf8Length before := by simpa using hstart
      have htext : text.toList = before ++ c :: after := htext
      have hcuts : Diagnostic.CutsCharacter text.toList
          (missingEquals ⟨utf8Length before, utf8Length before + 1⟩) :=
        ⟨before, c, after, htext, hsize, rfl⟩
      refine ⟨Nat.lt_succ_self _, ?_, ⟨before, c :: after, htext, rfl⟩,
        iff_of_false (not_boundary_of_cutsCharacter hcuts) (not_not.2 hcuts),
        fun document hsound hsame => ?_⟩
      · show utf8Length before + 1 ≤ utf8Length text.toList
        rw [htext, utf8Length_append, utf8Length_cons]
        omega
      · -- both ends have the place of the character
        rw [hrange document hsound hsame, htext]
        refine iff_of_false ?_ (not_not.2 (htext ▸ hcuts))
        simp only [missingEquals]
        rw [LineIndex.position_append, LineIndex.position_inside before c after hsize]
        exact fun h => by unfold Position.Before at h; omega

/-- An entry that is not terminated, with a value that is no value. -/
theorem pointed_bibliography_quote :
    let text := "@misc\x7bk, a = “x”"
    missingEquals ⟨13, 14⟩ ∈ (analyze text).diagnostics ∧
      unterminated 0 ∈ (analyze text).diagnostics ∧
      ¬ Boundary text.toList 14 ∧ Boundary text.toList 1 := by
  intro text
  have hquote : missingEquals ⟨13, 14⟩ ∈ (analyze text).diagnostics :=
    List.mem_mergeSort.2 (by decide +kernel)
  have hopen : unterminated 0 ∈ (analyze text).diagnostics :=
    List.mem_mergeSort.2 (by decide +kernel)
  have hcuts : (missingEquals ⟨13, 14⟩).CutsCharacter text.toList :=
    ⟨"@misc\x7bk, a = ".toList, '“', "x”".toList, by decide, by decide, by decide⟩
  have hwhole : ¬ (unterminated 0).CutsCharacter text.toList := by
    rintro ⟨before, c, after, -, -, h⟩
    exact absurd (congrArg Diagnostic.code h) (show ¬ some "BIB002" = some "BIB003" by decide)
  exact ⟨hquote, hopen, fun h => (pointed_bibliography hquote).boundary_stop.1 h hcuts,
    (pointed_bibliography hopen).boundary_stop.2 hwhole⟩

/-- A problem of a bibliography may end inside a character, and then its range is empty. -/
theorem not_pointed_whole :
    let text := "@misc\x7bk, é = 1\x7d"
    ¬ ∀ d ∈ (analyze text).diagnostics, d.span.start < d.span.stop ∧
      d.span.stop ≤ utf8Length text.toList ∧ Boundary text.toList d.span.start ∧
      Boundary text.toList d.span.stop := by
  intro text h
  have hd : missingEquals ⟨9, 10⟩ ∈ (analyze text).diagnostics := by decide +kernel
  refine not_boundary_of_cutsCharacter ?_ (h _ hd).2.2.2
  exact ⟨"@misc\x7bk, ".toList, 'é', " = 1\x7d".toList, by decide, by decide, by decide⟩

end Bibtex

end Manuscript

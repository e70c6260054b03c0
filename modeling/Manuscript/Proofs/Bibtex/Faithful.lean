/-
# Manuscript.Proofs.Bibtex.Faithful -- the structure of a bibliography is in the text

Reading a bibliography recovers from whatever is malformed, but it never goes back.
So what the readers take lies one behind the other: the references of a value, the
names of fields and the strings that a block declares (`Cursor.Spells`), and the blocks
themselves (`ordered_entries`).

An entry runs from its at sign to where its fields were given up, so its type and its
key are inside (`written_found`).  `Faithful` says what a user of a structure may rely
on, and `faithful_bibliography` that the structure of every bibliography is faithful.
Since entries do not overlap, the lines of two entries meet in one line at most
(`Fold.meetOnce_of_le`).
-/
import Manuscript.Proofs.Bibtex.Reading
import Manuscript.Proofs.Fold.Lines
import Manuscript.Proofs.Text.Stretch

namespace Manuscript

set_option autoImplicit false

open Text

namespace Bibtex

theorem spells_readName {ok : List Char → Prop} {k : Cursor} (hne : (readName k).1 ≠ [])
    (hok : ok (readName k).1) :
    Cursor.Spells ok k (readName k).2 [Symbol.ofText k.offset (readName k).1] :=
  Cursor.spells_here (readName_rest k) hne hok

/-! ## References -/

/-- The names of strings do not start with a digit. -/
def NoDigitHead (name : List Char) : Prop := startsWith Char.isDigit name = false

theorem Piece.read_word {delimiter : Delimiter} {k next : Cursor} {name : Symbol}
    (h : read delimiter k = .word name next) : (readName k).1 ≠ [] ∧
      name = Symbol.ofText k.offset (readName k).1 ∧ next = (readName k).2 := by
  unfold read at h
  split at h
  · cases h
  · split at h <;> cases h
  · split at h <;> cases h
  · split at h
    · cases h
    · split at h
      · cases h
      · rename_i word after hne hname
        cases h
        rw [hname]
        exact ⟨fun hnil => hne hnil, rfl, rfl⟩

theorem Piece.spells_reference {delimiter : Delimiter} {k next : Cursor}
    (h : (read delimiter k).next? = some next) :
    Cursor.Spells NoDigitHead k next (read delimiter k).reference?.toList := by
  have hreach := (reaches_piece h).1
  cases hpiece : read delimiter k with
  | text content after => exact hreach.spells
  | nothing | unclosed =>
      rw [hpiece] at h
      cases h
  | word name after =>
      rw [hpiece] at h
      cases h
      obtain ⟨hne, rfl, rfl⟩ := read_word hpiece
      simp only [reference?, Symbol.ofText, String.toList_ofList]
      by_cases hdigit : startsWith Char.isDigit (readName k).1 = true
      · rw [if_pos hdigit]
        exact hreach.spells
      · rw [if_neg hdigit]
        exact spells_readName hne (by simpa [NoDigitHead] using hdigit)

/-- **The references of a value are written in it**, one behind the other. -/
theorem Value.spells_references (delimiter : Delimiter) (k : Cursor) :
    Cursor.Spells NoDigitHead k (read delimiter k).next (read delimiter k).references := by
  induction k using read_induction delimiter with
  | nothing k h =>
      rw [read_of_none h]
      exact (reaches_skipBlanks k).spells
  | last k next h hend =>
      rw [read_of_last h hend]
      have hpiece := (reaches_skipBlanks k).spells.trans (Piece.spells_reference h)
      simpa using hpiece.trans (reaches_skipBlanks next).spells
  | more k next rest h hmore ih =>
      rw [read_of_more h hmore]
      have hsign : (skipBlanks next).Reaches ⟨(skipBlanks next).offset + 1, rest⟩ :=
        ⟨['#'], hmore, rfl⟩
      have hpiece := (reaches_skipBlanks k).spells.trans (Piece.spells_reference h)
      have hmany := (hpiece.trans ((reaches_skipBlanks next).trans hsign).spells).trans ih
      simpa using hmany

/-! ## Fields -/

namespace Fields

/-- The field that a step read. -/
def Step.field? : Step → Option Field
  | .go field _ _ => field
  | _ => none

/-- **A step reads a name and a value**, or neither a field nor a reference. -/
theorem Step.read_cases (delimiter : Delimiter) (here : Cursor) :
    ((read delimiter here).events.filterMap Event.reference? = [] ∧
      (read delimiter here).field? = none) ∨
    ∃ more, (readName here).1 ≠ [] ∧ (skipBlanks (readName here).2).rest = '=' :: more ∧
      read delimiter here = value delimiter (Symbol.ofText here.offset (readName here).1)
        ((skipBlanks (readName here).2).after ['='] more) := by
  have hrecover : ∀ fault depth k,
      (recover delimiter fault depth k).events.filterMap Event.reference? = [] ∧
        (recover delimiter fault depth k).field? = none := by
    intro fault depth k
    unfold recover
    simp only
    split <;> exact ⟨rfl, rfl⟩
  obtain ⟨o, text⟩ := here
  cases text with
  | nil => exact .inl ⟨rfl, rfl⟩
  | cons c cs =>
      by_cases hclose : c = delimiter.closing
      · have hread : read delimiter ⟨o, c :: cs⟩ = .stop true ⟨o + c.utf8Size, cs⟩ := if_pos hclose
        exact .inl (hread ▸ ⟨rfl, rfl⟩)
      by_cases hcomma : c = ','
      · have hread : read delimiter ⟨o, c :: cs⟩ = .go none [] ⟨o + c.utf8Size, cs⟩ :=
          (if_neg hclose).trans (if_pos hcomma)
        exact .inl (hread ▸ ⟨rfl, rfl⟩)
      by_cases hat : c = '@'
      · have hread : read delimiter ⟨o, c :: cs⟩ = .stop false ⟨o, c :: cs⟩ :=
          (if_neg hclose).trans ((if_neg hcomma).trans (if_pos hat))
        exact .inl (hread ▸ ⟨rfl, rfl⟩)
      by_cases hname : (readName ⟨o, c :: cs⟩).1 = []
      · rw [read_nameless hclose hcomma hat hname]
        exact .inl (hrecover _ _ _)
      by_cases hsign : ∃ more, (skipBlanks (readName ⟨o, c :: cs⟩).2).rest = '=' :: more
      · obtain ⟨more, hmore⟩ := hsign
        exact .inr ⟨more, hname, hmore, read_assignment hclose hcomma hat hname hmore⟩
      · rw [read_signless hclose hcomma hat hname fun more hmore => hsign ⟨more, hmore⟩]
        exact .inl (hrecover _ _ _)

/-- What a step reads is written in what it takes. -/
theorem Step.spells_read (delimiter : Delimiter) (here : Cursor) :
    Cursor.Spells NoDigitHead here (read delimiter here).cursor
      ((read delimiter here).events.filterMap Event.reference?) ∧
    Cursor.Spells (fun _ => True) here (read delimiter here).cursor
      ((read delimiter here).field?.toList.map Field.name) := by
  rcases read_cases delimiter here with ⟨hnone, hfield⟩ | ⟨more, hne, hsign, hread⟩
  · have hreach := reaches_read delimiter here
    rw [hnone, hfield]
    exact ⟨hreach.spells, hreach.spells⟩
  · have hname := @spells_readName (fun _ => True) here hne trivial
    have hstart : (readName here).2.Reaches ((skipBlanks (readName here).2).after ['='] more) :=
      (reaches_skipBlanks (readName here).2).trans ⟨['='], hsign, rfl⟩
    have hvalue := Value.spells_references delimiter
      ((skipBlanks (readName here).2).after ['='] more)
    have hbehind := hstart.trans hvalue.reaches
    rw [hread, cursor_value]
    constructor
    · rw [events_value, List.filterMap_map,
        show Event.reference? ∘ Event.reference = some from rfl, List.filterMap_some]
      exact (hname.reaches.trans hstart).spells.trans hvalue
    · unfold value
      simp only
      split
      · exact hname.trans hbehind.spells
      · exact (hname.reaches.trans hbehind).spells

/-- **The references and the names of fields are written in the block.** -/
theorem spells_read (delimiter : Delimiter) (k : Cursor) :
    Cursor.Spells NoDigitHead k (read delimiter k).next
      ((read delimiter k).events.filterMap Event.reference?) ∧
    Cursor.Spells (fun _ => True) k (read delimiter k).next
      ((read delimiter k).fields.map Field.name) := by
  induction k using read_induction delimiter with
  | stop k terminated k' h =>
      have hreach := reaches_read delimiter k
      rw [read_of_stop h] at hreach ⊢
      exact ⟨hreach.spells, hreach.spells⟩
  | go k field events k' h ih =>
      have hstep := Step.spells_read delimiter (skipBlanks k)
      rw [h] at hstep
      have hblanks := reaches_skipBlanks k
      rw [read_of_go h]
      simp only [List.filterMap_append, List.map_append]
      exact ⟨(hblanks.spells.trans hstep.1).trans ih.1, (hblanks.spells.trans hstep.2).trans ih.2⟩
  | abandon k events k' h =>
      have hstep := Step.spells_read delimiter (skipBlanks k)
      rw [h] at hstep
      have hblanks := reaches_skipBlanks k
      rw [read_of_abandon h]
      exact ⟨hblanks.spells.trans hstep.1, hblanks.spells.trans hstep.2⟩

theorem filterMap_faults {α : Type} {f : Event → Option α} (hfault : ∀ d, f (.fault d) = none)
    (fields : Fields) (start : Nat) : (fields.faults start).filterMap f = [] := by
  unfold faults
  split
  · rfl
  · exact List.filterMap_cons_none (hfault _)

end Fields

/-! ## Blocks -/

/-- What an entry says about the text, given what its spans cover. -/
structure Entry.Written (covers : Span → List Char → Prop) (e : Entry) : Prop where
  kind : ∃ word rest, covers e.span ('@' :: (word ++ rest)) ∧ word ≠ [] ∧
    (∀ c ∈ word, isNameChar c = true) ∧ startsWith isNameChar rest = false ∧
    e.kind = String.ofList (lower word)
  key : ∀ key, e.key = some key → covers key.span key.name.toList ∧
    e.span.start ≤ key.span.start ∧ key.span.stop ≤ e.span.stop ∧
    ∀ c ∈ key.name.toList, c ∉ [',', '{', '}'] ∧ isAsciiBlank c = false
  title : ∀ title, e.title = some title → Squeezed title.toList ∧ ∀ c ∈ title.toList, c ∉ ['{', '}']

theorem Entry.Written.imp {covers covers' : Span → List Char → Prop} {e : Entry}
    (himp : ∀ s word, covers s word → covers' s word) (h : e.Written covers) :
    e.Written covers' where
  kind := by
    obtain ⟨word, rest, hcovers, hkind⟩ := h.kind
    exact ⟨word, rest, himp _ _ hcovers, hkind⟩
  key := fun key hkey => ⟨himp _ _ (h.key key hkey).1, (h.key key hkey).2⟩
  title := h.title

/-- The value of a field is squeezed and has no braces. -/
theorem squeezed_plain (text : List Char) :
    Squeezed (Value.plain text).toList ∧ ∀ c ∈ (Value.plain text).toList, c ∉ ['{', '}'] := by
  unfold Value.plain
  rw [String.toList_ofList]
  refine ⟨squeezed_squeeze _, fun c hc => ?_⟩
  rcases mem_squeeze hc with rfl | hc
  · decide
  · simpa using (List.mem_filter.1 hc).2

namespace Block

open Markup (opening)

variable {start : Nat} {kind : String} {delimiter : Delimiter} {k : Cursor}

/-- **What a block is read to**: nothing but faults, the names that it declares, or an entry. -/
theorem read_cases (start : Nat) (k : Cursor) :
    (∃ ds : List Diagnostic, (read start k).events = ds.map Event.fault) ∨
    (∃ delimiter k', k.Reaches k' ∧ read start k = strings start delimiter k') ∨
    ∃ delimiter k', (readName k).1 ≠ [] ∧ (readName k).2.Reaches k' ∧
      read start k = entry start (String.ofList (lower (readName k).1)) delimiter k' := by
  by_cases hname : (readName k).1 = []
  · exact .inl ⟨[], by rw [read_nameless hname]; rfl⟩
  by_cases hopen : ∃ delimiter rest, (skipBlanks (readName k).2).rest = opening delimiter :: rest
  · obtain ⟨delimiter, rest, hrest⟩ := hopen
    have hsize : (opening delimiter).utf8Size = 1 := by cases delimiter <;> decide
    have hreach : (readName k).2.Reaches ⟨(skipBlanks (readName k).2).offset + 1, rest⟩ :=
      (reaches_skipBlanks _).trans ⟨[opening delimiter], hrest, by simp [hsize]⟩
    rw [read_opened hname hrest]
    unfold content
    split
    · refine .inl ?_
      unfold skipped
      split
      · exact ⟨[], rfl⟩
      · exact ⟨[_], rfl⟩
    split
    · exact .inr (.inl ⟨delimiter, _, (reaches_readName k).trans hreach, rfl⟩)
    · exact .inr (.inr ⟨delimiter, _, hname, hreach, rfl⟩)
  · rw [read_unopened hname fun delimiter rest hrest => hopen ⟨delimiter, rest, hrest⟩]
    exact .inl ⟨[_], rfl⟩

/-- The entry that a block holds. -/
def found (start : Nat) (kind : String) (delimiter : Delimiter) (k : Cursor) : Entry where
  kind := kind
  key := if (keyAt delimiter k).1 = [] then none
    else some (Symbol.ofText (skipBlanks k).offset (keyAt delimiter k).1)
  title := fieldText? "title" (Fields.read delimiter (keyAt delimiter k).2).fields
  span := ⟨start, (entry start kind delimiter k).next.offset⟩

theorem filterMap_entry {α : Type} {f : Event → Option α} (hfault : ∀ d, f (.fault d) = none)
    (start : Nat) (kind : String) (delimiter : Delimiter) (k : Cursor) :
    (entry start kind delimiter k).events.filterMap f =
      (Fields.read delimiter (keyAt delimiter k).2).events.filterMap f ++
        (f (.entry (found start kind delimiter k))).toList := by
  have hkey : (if (keyAt delimiter k).1 = [] then
      [Event.fault (missingKey kind ⟨start, (skipBlanks k).offset⟩)] else []).filterMap f = [] := by
    split
    · exact List.filterMap_cons_none (hfault _)
    · rfl
  have hlast : [Event.entry (found start kind delimiter k)].filterMap f =
      (f (.entry (found start kind delimiter k))).toList := by
    rw [List.filterMap_cons]
    cases f (.entry (found start kind delimiter k)) <;> rfl
  show ((_ ++ _) ++ _ ++ [Event.entry (found start kind delimiter k)]).filterMap f = _
  rw [List.filterMap_append, List.filterMap_append, List.filterMap_append,
    Fields.filterMap_faults hfault, List.append_nil, hlast]
  exact congrArg (· ++ _) ((congrArg (· ++ _) hkey).trans (List.nil_append _))

theorem filterMap_strings {α : Type} {f : Event → Option α} (hfault : ∀ d, f (.fault d) = none)
    (start : Nat) (delimiter : Delimiter) (k : Cursor) :
    (strings start delimiter k).events.filterMap f =
      (Fields.read delimiter k).events.filterMap f ++
        ((Fields.read delimiter k).fields.map Field.name).filterMap (f ∘ Event.string) := by
  unfold strings
  simp only [List.filterMap_append, Fields.filterMap_faults hfault, List.append_nil,
    List.filterMap_map, Function.comp_assoc]

theorem filterMap_map_fault {α : Type} {f : Event → Option α} (hfault : ∀ d, f (.fault d) = none)
    (ds : List Diagnostic) : (ds.map Event.fault).filterMap f = [] := by
  rw [List.filterMap_map, List.filterMap_eq_nil_iff]
  exact fun d _ => hfault d

/-- **The references of a block are written in it.** -/
theorem spells_references (start : Nat) (k : Cursor) :
    Cursor.Spells NoDigitHead k (read start k).next
      ((read start k).events.filterMap Event.reference?) := by
  have hreach := reaches_read start k
  rcases read_cases start k with ⟨ds, hevents⟩ | ⟨delimiter, k', hk', hread⟩ |
    ⟨delimiter, k', -, hk', hread⟩
  · rw [hevents, filterMap_map_fault fun _ => rfl]
    exact hreach.spells
  · rw [hread, filterMap_strings fun _ => rfl,
      show Event.reference? ∘ Event.string = fun _ => none from rfl, List.filterMap_none,
      List.append_nil]
    exact hk'.spells.trans (Fields.spells_read delimiter k').1
  · rw [hread, filterMap_entry fun _ => rfl]
    have hkey : k'.Reaches (keyAt delimiter k').2 :=
      (reaches_skipBlanks k').trans (Cursor.reaches_upTo _ _)
    rw [show (Event.reference? (.entry _)).toList = [] from rfl, List.append_nil]
    exact ((reaches_readName k).trans (hk'.trans hkey)).spells.trans
      (Fields.spells_read delimiter (keyAt delimiter k').2).1

/-- **The names that a block declares are written in it.** -/
theorem spells_strings (start : Nat) (k : Cursor) :
    Cursor.Spells (fun _ => True) k (read start k).next
      ((read start k).events.filterMap Event.string?) := by
  have hreach := reaches_read start k
  rcases read_cases start k with ⟨ds, hevents⟩ | ⟨delimiter, k', hk', hread⟩ |
    ⟨delimiter, k', -, -, hread⟩
  · rw [hevents, filterMap_map_fault fun _ => rfl]
    exact hreach.spells
  · rw [hread, filterMap_strings fun _ => rfl,
      Event.filterMap_inner (fun _ => rfl) (fun _ => rfl) (Fields.inner_read delimiter k'),
      show Event.string? ∘ Event.string = some from rfl, List.filterMap_some]
    exact hk'.spells.trans (Fields.spells_read delimiter k').2
  · rw [hread] at hreach ⊢
    rw [filterMap_entry fun _ => rfl,
      Event.filterMap_inner (fun _ => rfl) (fun _ => rfl) (Fields.inner_read delimiter _)]
    exact hreach.spells

/-- An entry that is read behind its type says what is there. -/
theorem written_found (delimiter : Delimiter) {offset : Nat} {cs : List Char}
    (hne : (readName ⟨offset + 1, cs⟩).1 ≠ []) {k : Cursor}
    (hk : (readName ⟨offset + 1, cs⟩).2.Reaches k) :
    (found offset (String.ofList (lower (readName ⟨offset + 1, cs⟩).1)) delimiter k).Written
      (Cursor.Sees ⟨offset, '@' :: cs⟩) := by
  have hkey : (skipBlanks k).Reaches (keyAt delimiter k).2 := Cursor.reaches_upTo _ _
  have hfields := Fields.reaches_read delimiter (keyAt delimiter k).2
  have hhead : Cursor.Reaches ⟨offset, '@' :: cs⟩ ⟨offset + 1, cs⟩ := ⟨['@'], rfl, rfl⟩
  have hstart := hhead.trans ((reaches_readName ⟨offset + 1, cs⟩).trans
    (hk.trans (reaches_skipBlanks k)))
  have hrest : ('@' :: cs : List Char) = ('@' :: (readName ⟨offset + 1, cs⟩).1) ++
      (readName ⟨offset + 1, cs⟩).2.rest := congrArg ('@' :: ·) (readName_rest ⟨offset + 1, cs⟩)
  have hname : (readName ⟨offset + 1, cs⟩).2 =
      ⟨offset + utf8Length ('@' :: (readName ⟨offset + 1, cs⟩).1),
        (readName ⟨offset + 1, cs⟩).2.rest⟩ := by
    rw [utf8Length_cons, show Char.utf8Size '@' = 1 from rfl, ← Nat.add_assoc]
    rfl
  refine ⟨?kind, fun key hfound => ?key, fun title hfound => ?title⟩
  case kind =>
    have hall := hk.trans ((reaches_skipBlanks k).trans (hkey.trans hfields))
    rw [hname] at hall
    obtain ⟨more, hmore, hsees⟩ :=
      @Cursor.exists_sees_through ⟨offset, '@' :: cs⟩ _ _ _ hrest hall
    refine ⟨_, more, hsees, hne, isNameChar_of_mem_readName _, ?_, rfl⟩
    have hend := startsWith_readName ⟨offset + 1, cs⟩
    rw [hmore] at hend
    cases more with
    | nil => rfl
    | cons c more => exact hend
  case key =>
    by_cases hword : (keyAt delimiter k).1 = []
    · rw [show (found ..).key = none from if_pos hword] at hfound
      cases hfound
    rw [show (found ..).key = some _ from if_neg hword] at hfound
    obtain rfl := Option.some.inj hfound
    rw [Symbol.ofText, String.toList_ofList]
    have hsees := Cursor.sees_here (Cursor.upTo_append (endsKey delimiter) (skipBlanks k)).symm
    refine ⟨hsees.of_reaches hstart, hstart.offset_le, hfields.offset_le, fun c hc => ?_⟩
    have hchar := of_mem_keyAt hc
    exact ⟨by simp [hchar.1], hchar.2⟩
  case title =>
    obtain ⟨field, -, rfl⟩ := Option.map_eq_some_iff.1 hfound
    exact squeezed_plain field.value

/-- **A block holds one entry at most**, which takes all of it. -/
theorem entry?_at (offset : Nat) (cs : List Char) :
    (Block.at offset '@' cs).events.filterMap Event.entry? = [] ∨
    ∃ e, (Block.at offset '@' cs).events.filterMap Event.entry? = [e] ∧
      e.span = ⟨offset, (Block.at offset '@' cs).next.offset⟩ ∧
      e.Written (Cursor.Sees ⟨offset, '@' :: cs⟩) := by
  have hat : Block.at offset '@' cs = read offset ⟨offset + 1, cs⟩ := rfl
  rw [hat]
  rcases read_cases offset ⟨offset + 1, cs⟩ with ⟨ds, hevents⟩ | ⟨delimiter, k', -, hread⟩ |
    ⟨delimiter, k', hne, hk', hread⟩
  · exact .inl (by rw [hevents, filterMap_map_fault fun _ => rfl])
  · refine .inl ?_
    rw [hread, filterMap_strings fun _ => rfl,
      Event.filterMap_inner (fun _ => rfl) (fun _ => rfl) (Fields.inner_read delimiter k'),
      show Event.entry? ∘ Event.string = fun _ => none from rfl, List.filterMap_none,
      List.append_nil]
  · refine .inr ⟨_, ?_, ?_, written_found delimiter hne hk'⟩
    · rw [hread, filterMap_entry fun _ => rfl,
        Event.filterMap_inner (fun _ => rfl) (fun _ => rfl) (Fields.inner_read delimiter _)]
      rfl
    · rw [hread]
      rfl

end Block

/-! ## Bibliographies -/

theorem nextBlock_at {k : Cursor} {c : Char} {cs : List Char} (h : (nextBlock k).rest = c :: cs) :
    c = '@' := by
  have hrest : (Cursor.split (startsWith (· == '@')) k.rest).2 = c :: cs := h
  have hstop := Cursor.split_stop (startsWith (· == '@')) k.rest
  rw [hrest] at hstop
  simpa [startsWith] using hstop

/-- What is written in every block is written in the bibliography. -/
theorem spells_scan {f : Event → Option Symbol} {ok : List Char → Prop}
    (hblock : ∀ start k, Cursor.Spells ok k (Block.read start k).next
      ((Block.read start k).events.filterMap f)) (k : Cursor) :
    ∃ last, Cursor.Spells ok k last ((scan k).filterMap f) := by
  induction k using scan_induction with
  | nil k h =>
      rw [scan_of_nil h]
      exact ⟨k, (Cursor.Reaches.refl k).spells⟩
  | cons k c cs h ih =>
      obtain ⟨last, hrest⟩ := ih
      have hstart : k.Reaches ⟨(nextBlock k).offset + c.utf8Size, cs⟩ :=
        (reaches_nextBlock k).trans ⟨[c], h, by simp⟩
      rw [scan_of_cons h, List.filterMap_append]
      exact ⟨last, (hstart.spells.trans (hblock _ _)).trans hrest⟩

/-- **Entries come one behind the other**, and say what is in the text. -/
theorem ordered_entries (k : Cursor) :
    (∃ last, Ordered k.offset last (((scan k).filterMap Event.entry?).map Entry.span)) ∧
    ∀ e ∈ (scan k).filterMap Event.entry?, e.Written k.Sees := by
  induction k using scan_induction with
  | nil k h =>
      rw [scan_of_nil h]
      exact ⟨⟨k.offset, .nil (Nat.le_refl _)⟩, fun e he => by cases he⟩
  | cons k c cs h ih =>
      obtain rfl := nextBlock_at h
      obtain ⟨⟨last, hordered⟩, hwritten⟩ := ih
      have hhere := reaches_nextBlock k
      have hblock : Cursor.Reaches ⟨(nextBlock k).offset + 1, cs⟩
          (Block.at (nextBlock k).offset '@' cs).next := Block.reaches_read _ _
      have hpast : (nextBlock k).Reaches ⟨(nextBlock k).offset + 1, cs⟩ := ⟨['@'], h, rfl⟩
      have hbehind := hhere.trans (hpast.trans hblock)
      have hle := hhere.offset_le
      have hlt : (nextBlock k).offset < (Block.at (nextBlock k).offset '@' cs).next.offset :=
        Nat.lt_of_lt_of_le (Nat.lt_succ_self _) hblock.offset_le
      rw [scan_of_cons h, List.filterMap_append]
      rcases Block.entry?_at (nextBlock k).offset cs with hnone | ⟨e, he, hspan, hfound⟩
      · rw [hnone]
        exact ⟨⟨last, hordered.mono_left hbehind.offset_le⟩,
          fun e he => (hwritten e he).imp fun _ _ hs => hs.of_reaches hbehind⟩
      · rw [he]
        -- the entry takes its whole block, so the next one starts behind it
        refine ⟨⟨last, .cons ?_ ?_ ?_⟩, fun other hother => ?_⟩
        · rw [hspan]
          exact hle
        · rw [hspan]
          exact hlt
        · rw [hspan]
          exact hordered
        rcases List.mem_cons.1 hother with rfl | hother
        · have hstart : (⟨(nextBlock k).offset, '@' :: cs⟩ : Cursor) = nextBlock k := by rw [← h]
          rw [hstart] at hfound
          exact hfound.imp fun _ _ hs => hs.of_reaches hhere
        · exact (hwritten other hother).imp fun _ _ hs => hs.of_reaches hbehind

end Bibtex

/-! ## Folds -/

namespace Fold

/-- Entries that do not overlap fold to lines that meet once at most. -/
theorem meetOnce_ofEntry (d : Document) {a b : Bibtex.Entry} (h : a.span.stop ≤ b.span.start) :
    (ofEntry d a).MeetOnce (ofEntry d b) :=
  meetOnce_of_le (d.lineOf_mono (Nat.le_trans (Nat.sub_le _ 1) h))

end Fold

namespace Bibtex

/-- Every span of a bibliography but those of its problems. -/
def Structure.spans (s : Structure) : List Span :=
  s.entries.map Entry.span ++ s.keys.map Symbol.span ++ s.strings.map Symbol.span ++
    s.stringReferences.map Symbol.span

/-- What a user of a structure may rely on. -/
structure Faithful (text : List Char) (s : Structure) : Prop where
  within : ∀ span ∈ s.spans, span.Within text
  written : ∀ e ∈ s.entries, e.Written fun span word => slice? text span = some word
  string_eq : ∀ name ∈ s.strings, slice? text name.span = some name.name.toList
  reference_eq : ∀ name ∈ s.stringReferences, slice? text name.span = some name.name.toList
  reference_head : ∀ name ∈ s.stringReferences, startsWith Char.isDigit name.name.toList = false
  /-- Entries, declared names and references each come one behind the other. -/
  entries : s.entries.Pairwise fun a b => a.span.start < b.span.start ∧ a.span.stop ≤ b.span.start
  strings : s.strings.Pairwise fun a b => a.span.start < b.span.start ∧ a.span.stop ≤ b.span.start
  references : s.stringReferences.Pairwise fun a b =>
    a.span.start < b.span.start ∧ a.span.stop ≤ b.span.start
  /-- The folds of a document with this structure, and those that are shown. -/
  folds : ∀ d : Document, d.contents = .bibtex s →
    (Fold.ofContents d).Pairwise Fold.MeetOnce ∧ (Fold.all d).Pairwise Fold.MeetOnce

/-- Places one behind the other. -/
theorem pairwise_of_ordered {α : Type} {span : α → Span} {lo hi : Nat} {xs : List α}
    (h : Ordered lo hi (xs.map span)) : xs.Pairwise fun a b =>
      (span a).start < (span b).start ∧ (span a).stop ≤ (span b).start := by
  have hboth := h.increasing.and h.pairwise
  rw [List.pairwise_map] at hboth
  exact hboth

/-- The folds of entries that come one behind the other. -/
theorem pairwise_folds {s : Structure} (h : s.entries.Pairwise fun a b =>
    a.span.start < b.span.start ∧ a.span.stop ≤ b.span.start) {d : Document}
    (hd : d.contents = .bibtex s) :
    (Fold.ofContents d).Pairwise Fold.MeetOnce ∧ (Fold.all d).Pairwise Fold.MeetOnce := by
  have hfolds : (Fold.ofContents d).Pairwise Fold.MeetOnce := by
    unfold Fold.ofContents
    rw [hd]
    exact List.pairwise_map.2 (h.imp fun hab => Fold.meetOnce_ofEntry d hab.2)
  refine ⟨hfolds, ?_⟩
  have hperm := List.mergeSort_perm
    ((Fold.ofContents d).filter fun f => f.first < f.last) Fold.atOrBefore
  exact (hperm.pairwise_iff fun h => h.symm).2 (hfolds.filter _)

/-- **The structure of a bibliography is faithful to it.** -/
theorem faithful_bibliography (text : String) : Faithful text.toList (analyze text) := by
  obtain ⟨⟨last, hordered⟩, hwritten⟩ := ordered_entries (.ofString text)
  obtain ⟨_, hstrings⟩ := spells_scan Block.spells_strings (.ofString text)
  obtain ⟨_, hreferences⟩ := spells_scan Block.spells_references (.ofString text)
  have hslices : ∀ e ∈ (analyze text).entries, e.Written fun span word =>
      slice? text.toList span = some word :=
    fun e he => (hwritten e he).imp fun _ _ hs => hs.slice?
  have hentries := pairwise_of_ordered hordered
  refine ⟨fun span hspan => ?_, hslices, fun name hname => (hstrings.sees name hname).slice?,
    fun name hname => (hreferences.sees name hname).slice?, hreferences.names, hentries,
    pairwise_of_ordered hstrings.ordered, pairwise_of_ordered hreferences.ordered,
    fun d hd => pairwise_folds hentries hd⟩
  simp only [Structure.spans, Structure.keys, List.mem_append, List.mem_map,
    List.mem_filterMap] at hspan
  rcases hspan with ((⟨e, he, rfl⟩ | ⟨key, ⟨e, he, hkey⟩, rfl⟩) | ⟨name, hname, rfl⟩) |
    ⟨name, hname, rfl⟩
  · obtain ⟨word, rest, hslice, -⟩ := (hslices e he).kind
    exact Span.within_of_slice? hslice
  · exact Span.within_of_slice? ((hslices e he).key key hkey).1
  · exact (hstrings.sees name hname).within
  · exact (hreferences.sees name hname).within

end Bibtex

end Manuscript

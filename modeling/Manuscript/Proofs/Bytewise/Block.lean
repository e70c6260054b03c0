/-
# Manuscript.Proofs.Bytewise.Block -- the blocks of a bibliography, by offsets

The blocks of a bibliography and its analysis, read by offsets with every access
checked, and `.ok` of what the readers over characters find (`block_at`,
`analyzeBibtex_eq`).

A block that is not read is passed over from its delimiter on, and the count of open
braces goes down with a checked subtraction.  It cannot fail: the delimiter itself is
counted, and the loop ends where the count is zero again.
-/
import Manuscript.Proofs.Bytewise.Command
import Manuscript.Proofs.Bytewise.Value

namespace Manuscript.Bytewise

set_option autoImplicit false

open Text Bibtex

/-! ## Readings -/

section

variable (text : List Char)

/-- What a block holds, and the offset at which reading goes on. -/
structure BlockRead where
  events : List Event
  next : Nat
deriving DecidableEq, Repr

def skipTurn (opening : Nat) (close : Char) (depth i : Nat) (b : Byte) :
    Checked (Turn Nat (Option Nat)) :=
  if b = some '{' ∨ (i = opening ∧ b = some '(') then pure (.on (depth + 1) (i + 1))
  else if b = some '}' ∨ (depth = 1 ∧ b = some close) then do
    let depth ← minus depth 1
    if depth = 0 then pure (.done (some (i + 1))) else pure (.on depth (i + 1))
  else pure (.on depth (i + 1))

/-- The place behind the block whose delimiter is at an offset. -/
def blockEnd? (opening : Nat) (close : Char) : Checked (Option Nat) :=
  scanBytes text (fun _ _ => none) (skipTurn opening close) 0 opening

def skippedBlock (start opening : Nat) (close : Char) : Checked BlockRead := do
  match ← blockEnd? text opening close with
  | some next => pure ⟨[], next⟩
  | none => pure ⟨[.fault (unterminated start)], utf8Length text⟩

def FieldsRead.faults (f : FieldsRead) (start : Nat) : List Event :=
  if f.terminated then [] else [.fault (unterminated start)]

/-- The symbol between two offsets. -/
def symbol (span : Span) : Checked Symbol := do
  pure ⟨String.ofList (← slice text span.start span.stop), span⟩

def stringsBlock (start i : Nat) (close : Char) : Checked BlockRead := do
  let found ← fields text close i
  let names ← found.values.mapM fun value => symbol text value.1
  pure ⟨found.events ++ names.map Event.string ++ found.faults start, found.next⟩

/-- Where the citation key at an offset ends. -/
def keyEnd (close : Char) (i : Nat) : Checked Nat :=
  seek text (fun b => b.any fun c =>
    c == ',' || c == close || c == '{' || c == '}' || isAsciiBlank c) i

/-- The value of the first field of a name, whatever its case. -/
def fieldText? (name : String) : List (Span × List Char) → Checked (Option String)
  | [] => pure none
  | (span, value) :: values => do
      if sameLetters (← slice text span.start span.stop) name.toList then
        pure (some (Value.plain value))
      else fieldText? name values

def entryBlock (start i : Nat) (kind : String) (close : Char) : Checked BlockRead := do
  let here ← blanksEnd text i
  let stop ← keyEnd text close here
  let key ← if stop = here then pure none else some <$> symbol text ⟨here, stop⟩
  let keyFaults := if stop = here then [.fault (missingKey kind ⟨start, here⟩)] else []
  let found ← fields text close stop
  let title ← fieldText? text "title" found.values
  pure ⟨keyFaults ++ found.events ++ found.faults start ++
    [.entry ⟨kind, key, title, ⟨start, found.next⟩⟩], found.next⟩

/-- The block whose delimiter is at `opening`. -/
def blockContent (start opening : Nat) (kind : String) (close : Char) : Checked BlockRead :=
  if kind = "comment" ∨ kind = "preamble" then skippedBlock text start opening close
  else if kind = "string" then stringsBlock text start (opening + 1) close
  else entryBlock text start (opening + 1) kind close

/-- The block whose at sign is at `start` and whose type is at `i`. -/
def block (start i : Nat) : Checked BlockRead := do
  let stop ← nameEnd text i
  if stop = i then pure ⟨[], i⟩
  else do
    let kind := String.ofList (lower (← slice text i stop))
    let opening ← blanksEnd text stop
    if ascii? text opening = some '{' then blockContent text start opening kind '}'
    else if ascii? text opening = some '(' then blockContent text start opening kind ')'
    else pure ⟨[.fault (missingDelimiter kind ⟨start, stop⟩)], opening⟩

def blocksTurn (events : List Event) (i : Nat) : Checked (Turn (List Event) (List Event)) := do
  match find? ['@'] (← sliceFrom text i) with
  | none => pure (.done events)
  | some relative => do
      let found ← block text (i + relative) (i + relative + 1)
      pure (.on (events ++ found.events) found.next)

/-- The events of a bibliography. -/
def bibtexEvents : Checked (List Event) := loop text (blocksTurn text) [] 0

end

/-- The structure of a bibliography, every access checked. -/
def analyzeBibtex (text : String) : Checked Bibtex.Structure :=
  Bibtex.Structure.ofEvents <$> bibtexEvents text.toList

/-! ## Blocks that are not read -/

section

variable {text cs : List Char} {c : Char} {i opening : Nat} {k : Cursor} {delimiter : Delimiter}

theorem skip_scan (h : At text ⟨i, cs⟩) (hopening : opening < i) (depth : Nat) :
    scanBytes text (fun _ _ => none) (skipTurn opening delimiter.closing) (depth + 1) i =
      .ok (behind i (Block.untilEnd? delimiter depth cs)) := by
  have hpass (depth : Nat) (i : Nat) : skipTurn opening delimiter.closing depth i none =
      .ok (.on depth (i + 1)) := by simp [skipTurn]
  induction cs generalizing i depth with
  | nil => exact scanBytes_nil h
  | cons c cs ih =>
      have hi : i ≠ opening := Nat.ne_of_gt hopening
      have hgo {d : Nat} (ht : skipTurn opening delimiter.closing (depth + 1) i (Byte.ofChar c) =
          .ok (.on (d + 1) (i + 1))) :
          scanBytes text (fun _ _ => none) (skipTurn opening delimiter.closing) (depth + 1) i =
            .ok (behind (i + c.utf8Size) (Block.untilEnd? delimiter d cs)) :=
        (scanBytes_next h ht fun _ => hpass (d + 1)).trans
          (ih h.next (Nat.lt_add_right _ hopening) d)
      by_cases hopen : c = '{'
      · subst hopen
        rw [hgo (d := depth + 1) rfl]
        simp [Block.untilEnd?, behind_cons]
      by_cases hclose : c = '}' ∨ (depth = 0 ∧ c = delimiter.closing)
      · cases depth with
        | zero =>
            have hascii : c = '}' ∨ c = delimiter.closing := hclose.imp_right And.right
            have hsize : c.utf8Size = 1 := by
              rcases hascii with rfl | rfl
              · rfl
              · exact Char.utf8Size_eq_one_iff.2 (ascii_closing delimiter)
            have hturn : skipTurn opening delimiter.closing 1 i (Byte.ofChar c) =
                .ok (.done (some (i + 1))) := by
              simp [skipTurn, hopen, hascii, hi, ascii_closing, minus]
            rw [scanBytes_done h hturn]
            simp [Block.untilEnd?, hopen, hascii, behind, hsize]
        | succ depth =>
            obtain rfl : c = '}' := hclose.resolve_right fun h => Nat.succ_ne_zero depth h.1
            rw [hgo (d := depth) (by simp [skipTurn])]
            simp [Block.untilEnd?, behind_cons]
      · rw [hgo (d := depth) (by simp [skipTurn, hopen, hclose, hi, ascii_closing])]
        simp [Block.untilEnd?, hopen, hclose, behind_cons]

/-- A block as it is read by offsets. -/
def BlockRead.of (b : Block) : BlockRead := ⟨b.events, b.next.offset⟩

theorem blockEnd?_at (h : At text ⟨i, Markup.opening delimiter :: cs⟩) :
    blockEnd? text i delimiter.closing =
      .ok (behind (i + 1) (Block.untilEnd? delimiter 0 cs)) := by
  have hsize : (Markup.opening delimiter).utf8Size = 1 := by cases delimiter <;> rfl
  have hturn : skipTurn i delimiter.closing 0 i (Byte.ofChar (Markup.opening delimiter)) =
      .ok (.on 1 (i + 1)) := by
    cases delimiter <;> simp [skipTurn, Markup.opening]
  have hnext := h.next
  rw [hsize] at hnext
  rw [blockEnd?, scanBytes_on h hturn (Nat.lt_succ_self i)]
  exact skip_scan hnext (Nat.lt_succ_self i) 0

theorem skippedBlock_at (start : Nat) (h : At text ⟨i, Markup.opening delimiter :: cs⟩) :
    skippedBlock text start i delimiter.closing =
      .ok (.of (.skipped start delimiter ⟨i + 1, cs⟩)) := by
  have hlength := h.length_eq
  have hsize : (Markup.opening delimiter).utf8Size = 1 := by cases delimiter <;> rfl
  rw [skippedBlock, blockEnd?_at h, ok_bind, Block.skipped]
  cases hend : Block.untilEnd? delimiter 0 cs with
  | none => simp [behind, BlockRead.of, Cursor.after, hlength, hsize, Nat.add_assoc]
  | some parts => simp [behind, BlockRead.of, Cursor.after]

/-! ## Blocks that declare names -/

theorem faults_eq (f : Fields) (start : Nat) (values : List (Span × List Char))
    (events : List Event) (next : Nat) :
    FieldsRead.faults ⟨values, events, f.terminated, next⟩ start = f.faults start := rfl

theorem symbol_name (h : At text k) {f : Field} (hf : f ∈ (Fields.read delimiter k).fields) :
    symbol text f.name.span = .ok f.name := by
  rw [symbol, slice_name h hf, ok_bind, String.ofList_toList]
  rfl

theorem stringsBlock_at (start : Nat) (h : At text k) :
    stringsBlock text start k.offset delimiter.closing =
      .ok (.of (.strings start delimiter k)) := by
  have hnames : ((Fields.read delimiter k).fields.map fieldSpan).mapM
      (fun value => symbol text value.1) =
        .ok ((Fields.read delimiter k).fields.map Field.name) := by
    rw [List.mapM_map]
    exact mapM_eq_ok fun f hf => symbol_name h hf
  rw [stringsBlock, fields_at h, ok_bind, hnames, ok_bind, faults_eq]
  simp [BlockRead.of, Block.strings, Function.comp_def]

/-! ## Entries -/

theorem keyEnd_at (h : At text k) :
    keyEnd text delimiter.closing k.offset =
      .ok (k.upTo (Block.endsKey delimiter)).2.offset := by
  have hclass (c : Char) (hc : (c == ',' || c == delimiter.closing || c == '{' || c == '}' ||
      isAsciiBlank c) = true) : c.val ≤ 127 := by
    simp only [Bool.or_eq_true, beq_iff_eq] at hc
    rcases hc with (((rfl | rfl) | rfl) | rfl) | hc
    · decide
    · exact ascii_closing delimiter
    · decide
    · decide
    · exact ascii_of_isAsciiBlank c hc
  rw [keyEnd, seek_at _ h]
  simp only [any_ofChar hclass]
  rfl

theorem fieldText?_eq (name : String) {fields : List Field}
    (h : ∀ f ∈ fields, slice text f.name.span.start f.name.span.stop = .ok f.name.name.toList) :
    fieldText? text name (fields.map fieldSpan) = .ok (Block.fieldText? name fields) := by
  induction fields with
  | nil => rfl
  | cons f fields ih =>
      have ih := ih fun g hg => h g (List.mem_cons_of_mem f hg)
      rw [List.map_cons, fieldSpan, fieldText?, h f List.mem_cons_self, ok_bind]
      cases hname : sameLetters f.name.name.toList name.toList with
      | true => simp [Block.fieldText?, hname]
      | false => simpa [Block.fieldText?, hname] using ih

theorem entryBlock_at (start : Nat) (kind : String) (h : At text k) :
    entryBlock text start k.offset kind delimiter.closing =
      .ok (.of (.entry start kind delimiter k)) := by
  have hhere := at_skipBlanks h
  rw [entryBlock, blanksEnd_at h, ok_bind, keyEnd_at hhere, ok_bind, Block.entry]
  generalize skipBlanks k = here at hhere
  have hafter := hhere.trans (Cursor.reaches_upTo (Block.endsKey delimiter) here)
  have hempty := @upTo_offset_eq_iff here (Block.endsKey delimiter)
  have hkey : symbol text ⟨here.offset, (here.upTo (Block.endsKey delimiter)).2.offset⟩ =
      .ok (.ofText here.offset (here.upTo (Block.endsKey delimiter)).1) := by
    rw [symbol, slice_upTo hhere]
    rfl
  generalize here.upTo (Block.endsKey delimiter) = parts at hafter hempty hkey
  obtain ⟨word, after⟩ := parts
  dsimp only at hafter hempty hkey
  have hfields := @fields_at text after delimiter hafter
  have htitle := fieldText?_eq "title" fun f hf => @slice_name text after delimiter hafter f hf
  by_cases hword : word = []
  · rw [hempty.2 hword] at hfields
    simp [hword, hempty.2 hword, hfields, htitle, faults_eq, BlockRead.of]
  · simp [hword, mt hempty.1 hword, hkey, hfields, htitle, faults_eq, BlockRead.of]

/-! ## Blocks -/

theorem blockContent_at (start : Nat) (kind : String)
    (h : At text ⟨i, Markup.opening delimiter :: cs⟩) :
    blockContent text start i kind delimiter.closing =
      .ok (.of (.content start kind delimiter ⟨i + 1, cs⟩)) := by
  have hsize : (Markup.opening delimiter).utf8Size = 1 := by cases delimiter <;> rfl
  have hnext := h.next
  rw [hsize] at hnext
  rw [blockContent, Block.content, skippedBlock_at start h, stringsBlock_at start hnext,
    entryBlock_at start kind hnext]
  split
  · rfl
  split <;> rfl

theorem block_at (start : Nat) (h : At text k) :
    block text start k.offset = .ok (.of (.read start k)) := by
  have hafter := at_readName h
  have hopening := at_skipBlanks hafter
  rw [block, nameEnd_at h, ok_bind]
  by_cases hname : (readName k).1 = []
  · rw [if_pos (readName_offset_eq_iff.2 hname), Block.read_nameless hname]
    rfl
  have hslice : slice text k.offset (readName k).2.offset = .ok (readName k).1 := slice_upTo h
  rw [if_neg (mt readName_offset_eq_iff.1 hname), hslice, ok_bind, blanksEnd_at hafter, ok_bind]
  have hopened (d : Delimiter) :
      ascii? text (skipBlanks (readName k).2).offset = some (Markup.opening d) ↔
        ∃ rest, (skipBlanks (readName k).2).rest = Markup.opening d :: rest :=
    ascii?_eq_some_iff (by cases d <;> decide) hopening
  have hcontent (d : Delimiter) {rest : List Char}
      (hrest : (skipBlanks (readName k).2).rest = Markup.opening d :: rest) :
      blockContent text start (skipBlanks (readName k).2).offset
        (String.ofList (lower (readName k).1)) d.closing = .ok (.of (.read start k)) := by
    rw [Block.read_opened hname hrest]
    refine blockContent_at start _ ?_
    rw [← hrest]
    exact hopening
  by_cases hbrace : ascii? text (skipBlanks (readName k).2).offset = some '{'
  · obtain ⟨rest, hrest⟩ := (hopened .brace).1 hbrace
    rw [if_pos hbrace]
    exact hcontent .brace hrest
  rw [if_neg hbrace]
  by_cases hparenthesis : ascii? text (skipBlanks (readName k).2).offset = some '('
  · obtain ⟨rest, hrest⟩ := (hopened .parenthesis).1 hparenthesis
    rw [if_pos hparenthesis]
    exact hcontent .parenthesis hrest
  · have hunopened (d : Delimiter) (rest : List Char) :
        (skipBlanks (readName k).2).rest ≠ Markup.opening d :: rest := fun hrest => by
      have hopen := (hopened d).2 ⟨rest, hrest⟩
      cases d with
      | brace => exact hbrace hopen
      | parenthesis => exact hparenthesis hopen
    rw [if_neg hparenthesis, Block.read_unopened hname hunopened]
    rfl

/-! ## The scan -/

variable {events : List Event}

theorem blocksTurn_nil (h : At text k) (hnil : (nextBlock k).rest = []) :
    blocksTurn text events k.offset = .ok (.done events) := by
  have hnil : (Cursor.split (startsWith (· == '@')) k.rest).2 = [] := hnil
  rw [blocksTurn, sliceFrom_at h, ok_bind, find?, isPrefixOf_singleton]
  generalize Cursor.split (startsWith (· == '@')) k.rest = parts at hnil
  obtain ⟨before, rest⟩ := parts
  obtain rfl : rest = [] := hnil
  rfl

theorem blocksTurn_cons (h : At text k) (hcons : (nextBlock k).rest = c :: cs) :
    blocksTurn text events k.offset =
      .ok (.on (events ++ (Block.at (nextBlock k).offset c cs).events)
        (Block.at (nextBlock k).offset c cs).next.offset) := by
  have hat : At text (nextBlock k) := h.trans (reaches_nextBlock k)
  obtain rfl : c = '@' := by
    have hstop := Cursor.split_stop (startsWith (· == '@')) k.rest
    rw [show (Cursor.split (startsWith (· == '@')) k.rest).2 = c :: cs from hcons] at hstop
    simpa [startsWith] using hstop
  have hfind : find? ['@'] k.rest = some ((nextBlock k).offset - k.offset) := by
    have hcons : (Cursor.split (startsWith (· == '@')) k.rest).2 = '@' :: cs := hcons
    rw [find?, isPrefixOf_singleton, nextBlock, Cursor.upTo_offset, Nat.add_sub_cancel_left,
      Cursor.upTo]
    generalize Cursor.split (startsWith (· == '@')) k.rest = parts at hcons
    obtain ⟨before, rest⟩ := parts
    obtain rfl : rest = '@' :: cs := hcons
    rfl
  have hle : k.offset ≤ (nextBlock k).offset := Nat.le_add_right _ _
  have hnext : At text ⟨(nextBlock k).offset + 1, cs⟩ := by
    generalize nextBlock k = here at hat hcons
    obtain ⟨i, rest⟩ := here
    obtain rfl : rest = '@' :: cs := hcons
    exact hat.next
  rw [blocksTurn, sliceFrom_at h, ok_bind, hfind]
  simp only [Nat.add_sub_cancel' hle]
  have hblock : block text (nextBlock k).offset ((nextBlock k).offset + 1) =
      .ok (.of (Block.at (nextBlock k).offset '@' cs)) := block_at _ hnext
  rw [hblock]
  rfl

/-- The loop over the blocks, with the events of the blocks before. -/
theorem blocks_loop (h : At text k) (events : List Event) :
    loop text (blocksTurn text) events k.offset = .ok (events ++ scan k) := by
  induction k using scan_induction generalizing events with
  | nil k hnil => rw [loop_done (blocksTurn_nil h hnil), scan_of_nil hnil, List.append_nil]
  | cons k c cs hcons ih =>
      have hat : (nextBlock k).Reaches ⟨(nextBlock k).offset + c.utf8Size, cs⟩ :=
        ⟨[c], hcons, by simp⟩
      have hreach : k.Reaches (Block.at (nextBlock k).offset c cs).next :=
        ((reaches_nextBlock k).trans hat).trans (Block.reaches_read _ _)
      have hshort : (Block.at (nextBlock k).offset c cs).next.rest.length < k.rest.length := by
        have hblock := (Block.reaches_read (nextBlock k).offset
          ⟨(nextBlock k).offset + c.utf8Size, cs⟩).length_le
        have hle := (reaches_nextBlock k).length_le
        rw [hcons] at hle
        exact Nat.lt_of_le_of_lt hblock hle
      have hlt := h.lt_of_reaches hreach hshort
      rw [loop_on (blocksTurn_cons h hcons) hlt.1 hlt.2, ih (h.trans hreach), scan_of_cons hcons,
        List.append_assoc]

/-- **The checked analysis of a bibliography is its analysis.** -/
theorem analyzeBibtex_eq (text : String) : analyzeBibtex text = .ok (Bibtex.analyze text) := by
  have hevents : bibtexEvents text.toList = .ok (scan (.ofString text)) :=
    blocks_loop (at_start text.toList) []
  rw [analyzeBibtex, hevents]
  rfl

end

end Manuscript.Bytewise

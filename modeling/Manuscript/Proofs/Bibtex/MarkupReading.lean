/-
# Manuscript.Proofs.Bibtex.MarkupReading -- reading a printed bibliography gives it back

Each reader takes from a printed text what was printed for it: a piece of a value
(`exists_piece`), a value (`value_read`), the fields of an entry (`fields_tail`), a block
(`shows_item`).  What follows a text matters only where a word ends it: there no character of
a name comes next.
-/
import Manuscript.Proofs.Bibtex.Markup
import Manuscript.Proofs.Bibtex.Reading

namespace Manuscript.Bibtex

set_option autoImplicit false

open Text

namespace Markup

/-! ## Balanced texts -/

theorem inBraces?_balanced {outside : Char → Bool} {depth : Nat} {content : List Char}
    (h : Balanced outside depth content) (hescape : '\\' ∉ content) (rest : List Char) :
    inBraces? depth false (content ++ '}' :: rest) = some (content, rest) := by
  induction h with
  | done => rfl
  | opens _ ih =>
      have htail := ih fun hmem => hescape (List.mem_cons_of_mem _ hmem)
      simp [inBraces?, htail]
  | closes _ ih =>
      have htail := ih fun hmem => hescape (List.mem_cons_of_mem _ hmem)
      simp [inBraces?, htail]
  | other hopen hclose _ _ ih =>
      rw [List.mem_cons, not_or] at hescape
      have htail := ih hescape.2
      simp [inBraces?, hopen, hclose, Ne.symm hescape.1, htail]

theorem inQuotes?_balanced {depth : Nat} {content : List Char}
    (h : Balanced (· != '"') depth content) (hescape : '\\' ∉ content)
    (rest : List Char) :
    inQuotes? depth false (content ++ '"' :: rest) = some (content, rest) := by
  induction h with
  | done => rfl
  | opens _ ih =>
      have htail := ih fun hmem => hescape (List.mem_cons_of_mem _ hmem)
      simp [inQuotes?, htail]
  | closes _ ih =>
      have htail := ih fun hmem => hescape (List.mem_cons_of_mem _ hmem)
      simp [inQuotes?, htail]
  | other hopen hclose hc _ ih =>
      rw [List.mem_cons, not_or] at hescape
      have htail := ih hescape.2
      rename_i depth c cs _
      have hquote : ¬ (c = '"' ∧ depth = 0) := by
        rintro ⟨rfl, rfl⟩
        simp at hc
      simp [inQuotes?, hopen, hclose, Ne.symm hescape.1, hquote, htail]

theorem untilEnd?_balanced {outside : Char → Bool} {depth : Nat} {body : List Char}
    (h : Balanced outside depth body) (rest : List Char) :
    Block.untilEnd? .brace depth (body ++ '}' :: rest) = some (body ++ ['}'], rest) := by
  induction h with
  | done => rfl
  | opens _ ih => simp [Block.untilEnd?, ih]
  | closes _ ih => simp [Block.untilEnd?, ih]
  | other hopen hclose _ _ ih =>
      simp [Block.untilEnd?, hopen, hclose, Delimiter.closing, ih]

/-! ## Pieces -/

variable {delimiter : Delimiter}

theorem closing_ne_of_isNameChar {c : Char} (h : isNameChar c = true) :
    c ≠ delimiter.closing := by
  cases delimiter <;> exact ne_of_isNameChar h (by decide)

/-- A word is read up to where no name goes on. -/
theorem piece_word (word : Word) {rest : List Char} (hrest : EndsWord rest) (o : Nat) :
    Piece.read delimiter ⟨o, word.text ++ rest⟩ =
      .word (.ofText o word.text) ⟨o + utf8Length word.text, rest⟩ := by
  obtain ⟨text, hne, hname⟩ := word
  have hread := readName_append hname hrest o
  cases text with
  | nil => exact absurd rfl hne
  | cons c text =>
      have hc := hname c List.mem_cons_self
      have hbrace : c ≠ '{' := ne_of_isNameChar hc (by decide)
      have hquote : c ≠ '"' := ne_of_isNameChar hc (by decide)
      have hcomma : c ≠ ',' := ne_of_isNameChar hc (by decide)
      have hclosing : c ≠ delimiter.closing := closing_ne_of_isNameChar hc
      simp only [List.cons_append] at hread ⊢
      unfold Piece.read
      split
      · rename_i hnil
        cases hnil
      · rename_i cs hcs
        exact absurd (List.cons.inj hcs).1 hbrace
      · rename_i cs hcs
        exact absurd (List.cons.inj hcs).1 hquote
      · rename_i d ds hcs
        obtain ⟨rfl, rfl⟩ := List.cons.inj hcs
        simp only [hcomma, hclosing, or_self, if_false, hread]

/-- What is printed for a part is read as a piece. -/
theorem exists_piece (part : Part) {rest : List Char} (hrest : EndsWord rest) (o : Nat) :
    ∃ piece, Piece.read delimiter ⟨o, part.text ++ rest⟩ = piece ∧
      piece.next? = some ⟨o + utf8Length part.text, rest⟩ ∧ piece.content = part.content ∧
      piece.reference? = part.reference? o := by
  cases part with
  | braced content balanced noEscape =>
      have htext : (Part.braced content balanced noEscape).text ++ rest =
          '{' :: (content ++ '}' :: rest) := by simp [Part.text]
      refine ⟨_, rfl, ?_, ?_, ?_⟩ <;> rw [htext] <;>
        simp [Piece.read, inBraces?_balanced balanced noEscape, Piece.next?, Piece.content,
          Piece.reference?, Part.content, Part.reference?, Part.text, Cursor.after]
  | quoted content balanced noEscape =>
      have htext : (Part.quoted content balanced noEscape).text ++ rest =
          '"' :: (content ++ '"' :: rest) := by simp [Part.text]
      refine ⟨_, rfl, ?_, ?_, ?_⟩ <;> rw [htext] <;>
        simp [Piece.read, inQuotes?_balanced balanced noEscape, Piece.next?, Piece.content,
          Piece.reference?, Part.content, Part.reference?, Part.text, Cursor.after]
  | word name =>
      refine ⟨_, piece_word name hrest o, rfl, ?_, ?_⟩
      · simp [Piece.content, Symbol.ofText, Part.content, String.toList_ofList]
      · simp [Piece.reference?, Symbol.ofText, Part.reference?, String.toList_ofList]

/-! ## Values -/

/-- The text ends a value before it: no word goes on, and no number sign joins it. -/
structure EndsValue (rest : List Char) : Prop where
  word : EndsWord rest
  sign : ∀ o cs, (skipBlanks ⟨o, rest⟩).rest ≠ '#' :: cs

theorem endsValue_blanks (blanks : Blanks) {c : Char} (hname : isNameChar c = false)
    (hblank : isAsciiBlank c = false) (hsign : c ≠ '#') (rest : List Char) :
    EndsValue (blanks.text ++ c :: rest) where
  word := endsWord_blanks blanks (endsWord_cons hname rest)
  sign o cs h := by
    rw [skipBlanks_blanks blanks hblank] at h
    exact hsign (List.cons.inj h).1

/-- A value starts with no blank. -/
theorem startsWith_part (part : Part) (rest : List Char) :
    startsWith isAsciiBlank (part.text ++ rest) = false := by
  cases part with
  | braced content _ _ => rfl
  | quoted content _ _ => rfl
  | word name =>
      obtain ⟨text, hne, hname⟩ := name
      cases text with
      | nil => exact absurd rfl hne
      | cons c text =>
          show isAsciiBlank c = false
          cases h : isAsciiBlank c with
          | false => rfl
          | true =>
              have := isNameChar_of_isAsciiBlank h
              rw [hname c List.mem_cons_self] at this
              cases this

theorem value_read_blanks (blanks : Blanks) (o : Nat) (rest : List Char) :
    Bibtex.Value.read delimiter ⟨o, blanks.text ++ rest⟩ =
      Bibtex.Value.read delimiter ⟨o + utf8Length blanks.text, rest⟩ := by
  rw [← Bibtex.Value.read_skipBlanks, skipBlanks_append blanks.blank,
    Bibtex.Value.read_skipBlanks]

/-- What is printed for a value is read as a value. -/
theorem value_read (value : Value) {rest : List Char} (hrest : EndsValue rest) (o : Nat) :
    Bibtex.Value.read delimiter ⟨o, value.text ++ rest⟩ =
      ⟨some value.content, value.references o,
        skipBlanks ⟨o + utf8Length value.text, rest⟩⟩ := by
  induction value generalizing o with
  | last part =>
      obtain ⟨piece, hpiece, hnext, hcontent, hreference⟩ :=
        @exists_piece delimiter part rest hrest.word o
      have hhere : skipBlanks ⟨o, part.text ++ rest⟩ = ⟨o, part.text ++ rest⟩ :=
        skipBlanks_here (startsWith_part part rest)
      have hread := @Bibtex.Value.read_of_last delimiter ⟨o, part.text ++ rest⟩ _
        (by rw [hhere, hpiece]; exact hnext) (hrest.sign _)
      rw [hhere, hpiece, hcontent, hreference] at hread
      exact hread
  | more part before after value ih =>
      have hends : EndsWord (before.text ++ '#' :: (after.text ++ (value.text ++ rest))) :=
        endsWord_blanks before (endsWord_cons (by decide) _)
      obtain ⟨piece, hpiece, hnext, hcontent, hreference⟩ :=
        @exists_piece delimiter part _ hends o
      have htext : (Value.more part before after value).text ++ rest =
          part.text ++ (before.text ++ '#' :: (after.text ++ (value.text ++ rest))) := by
        simp [Value.text]
      rw [htext]
      have hhere := skipBlanks_here (k := ⟨o, _⟩) (startsWith_part part
        (before.text ++ '#' :: (after.text ++ (value.text ++ rest))))
      have hsign := skipBlanks_blanks before (c := '#') (by decide) (o + utf8Length part.text)
        (after.text ++ (value.text ++ rest))
      rw [Bibtex.Value.read_of_more (by rw [hhere, hpiece]; exact hnext)
        (congrArg Cursor.rest hsign), hhere, hpiece, hsign, value_read_blanks, ih]
      have hstart : o + utf8Length part.text + utf8Length before.text + 1 +
          utf8Length after.text =
            o + utf8Length (part.text ++ (before.text ++ '#' :: after.text)) := by
        simp [Char.utf8Size]
        omega
      have hstop : o + utf8Length (part.text ++ (before.text ++ '#' :: after.text)) +
          utf8Length value.text = o + utf8Length (Value.more part before after value).text := by
        simp [Value.text, Nat.add_assoc]
      simp only [hstart, hstop, hcontent, hreference]
      rfl

/-! ## Fields -/

theorem fields_blanks (blanks : Blanks) (o : Nat) (rest : List Char) :
    Fields.read delimiter ⟨o, blanks.text ++ rest⟩ =
      Fields.read delimiter ⟨o + utf8Length blanks.text, rest⟩ := by
  rw [← Fields.read_skipBlanks, skipBlanks_append blanks.blank, Fields.read_skipBlanks]

theorem fields_close (o : Nat) (rest : List Char) :
    Fields.read delimiter ⟨o, delimiter.closing :: rest⟩ = .stop true ⟨o + 1, rest⟩ := by
  apply Fields.read_of_stop
  cases delimiter <;> rfl

theorem fields_comma (before after : Blanks) (o : Nat) (rest : List Char) :
    Fields.read delimiter ⟨o, comma before after ++ rest⟩ =
      Fields.read delimiter ⟨o + utf8Length (comma before after), rest⟩ := by
  have htext : comma before after ++ rest =
      before.text ++ ',' :: (after.text ++ rest) := by simp [comma]
  have hstep : Fields.Step.read delimiter
      (skipBlanks ⟨o + utf8Length before.text, ',' :: (after.text ++ rest)⟩) =
      .go none [] ⟨o + utf8Length before.text + 1, after.text ++ rest⟩ := by
    cases delimiter <;> rfl
  have hstop : o + utf8Length before.text + 1 + utf8Length after.text =
      o + utf8Length (comma before after) := by
    simp [comma, Char.utf8Size]
    omega
  rw [htext, fields_blanks, Fields.read_of_go hstep, fields_blanks, hstop]
  rfl

/-- A field is its value, behind a name and an equals sign. -/
theorem step_sign (name : Word) (before after : Blanks) (o : Nat) (rest : List Char) :
    Fields.Step.read delimiter ⟨o, name.text ++ (before.text ++ '=' :: (after.text ++ rest))⟩ =
      Fields.Step.value delimiter (.ofText o name.text)
        ⟨o + utf8Length (name.text ++ (before.text ++ '=' :: after.text)), rest⟩ := by
  obtain ⟨text, hne, hname⟩ := name
  have hends : EndsWord (before.text ++ '=' :: (after.text ++ rest)) :=
    endsWord_blanks before (endsWord_cons (by decide) _)
  have hread := readName_append hname hends o
  have hsign := skipBlanks_blanks before (c := '=') (by decide) (o + utf8Length text)
    (after.text ++ rest)
  have hstart : o + utf8Length text + utf8Length before.text + 1 + utf8Length after.text =
      o + utf8Length (text ++ (before.text ++ '=' :: after.text)) := by
    simp [Char.utf8Size]
    omega
  have hvalue := @value_read_blanks delimiter after
    (o + utf8Length text + utf8Length before.text + 1) rest
  rw [hstart] at hvalue
  cases text with
  | nil => exact absurd rfl hne
  | cons c text =>
      have hc := hname c List.mem_cons_self
      have hclosing : c ≠ delimiter.closing := closing_ne_of_isNameChar hc
      have hcomma : c ≠ ',' := ne_of_isNameChar hc (by decide)
      have hat : c ≠ '@' := ne_of_isNameChar hc (by decide)
      simp only [List.cons_append] at hread ⊢
      unfold Fields.Step.read
      simp only [hclosing, hcomma, hat, if_false, hread, hsign]
      show Fields.Step.value delimiter _ ⟨_ + 1, after.text ++ rest⟩ = _
      unfold Fields.Step.value
      rw [hvalue]
      rfl

theorem step_assignment (a : Assignment) {rest : List Char} (hrest : EndsValue rest) (o : Nat) :
    Fields.Step.read delimiter ⟨o, a.text ++ rest⟩ =
      .go (some ⟨.ofText o a.name.text, a.value.content⟩)
        ((a.references o).map .reference) (skipBlanks ⟨o + utf8Length a.text, rest⟩) := by
  have htext : a.text ++ rest =
      a.name.text ++ (a.before.text ++ '=' :: (a.after.text ++ (a.value.text ++ rest))) := by
    simp [Assignment.text, Assignment.sign]
  have hstop : o + utf8Length a.sign + utf8Length a.value.text = o + utf8Length a.text := by
    rw [Assignment.text, utf8Length_append, Nat.add_assoc]
  rw [htext, step_sign]
  unfold Fields.Step.value
  rw [value_read a.value hrest]
  show Fields.Step.go _ _ (skipBlanks ⟨o + utf8Length a.sign + _, rest⟩) = _
  rw [hstop]
  rfl

theorem fields_assignment (a : Assignment) {rest : List Char} (hrest : EndsValue rest) (o : Nat) :
    Fields.read delimiter ⟨o, a.text ++ rest⟩ =
      let more := Fields.read delimiter ⟨o + utf8Length a.text, rest⟩
      { more with
        fields := ⟨.ofText o a.name.text, a.value.content⟩ :: more.fields
        events := (a.references o).map .reference ++ more.events } := by
  have hhere : skipBlanks ⟨o, a.text ++ rest⟩ = ⟨o, a.text ++ rest⟩ := by
    apply skipBlanks_here
    have := startsWith_part (.word a.name)
      (a.before.text ++ '=' :: (a.after.text ++ (a.value.text ++ rest)))
    simpa [Assignment.text, Assignment.sign, Part.text] using this
  rw [Fields.read_of_go (by rw [hhere]; exact step_assignment a hrest o), Fields.read_skipBlanks]
  rfl

/-- The delimiter that closes a block ends values, after blanks too. -/
theorem endsValue_close (blanks : Blanks) (rest : List Char) :
    EndsValue (blanks.text ++ delimiter.closing :: rest) := by
  cases delimiter <;> exact endsValue_blanks blanks (by decide) (by decide) (by decide) rest

theorem endsValue_comma (before after : Blanks) (rest : List Char) :
    EndsValue (comma before after ++ rest) := by
  have htext : comma before after ++ rest =
      before.text ++ ',' :: (after.text ++ rest) := by simp [comma]
  rw [htext]
  exact endsValue_blanks before (by decide) (by decide) (by decide) _

theorem endsValue_tail (tail : Tail) (rest : List Char) :
    EndsValue (tail.text ++ delimiter.closing :: rest) := by
  cases tail with
  | close blanks => exact endsValue_close blanks rest
  | trailing before after => exact endsValue_comma before after _
  | field before after assignment tail =>
      rw [Tail.text, List.append_assoc]
      exact endsValue_comma before after _

/-- The name and the value of a field. -/
def nameValue (a : Assignment) : String × List Char := (String.ofList a.name.text, a.value.content)

/-- What is printed after a key is read as fields. -/
theorem fields_tail (tail : Tail) (o : Nat) (rest : List Char) :
    ∃ fields, Fields.read delimiter ⟨o, tail.text ++ delimiter.closing :: rest⟩ =
        ⟨fields, (tail.references o).map .reference, true,
          ⟨o + utf8Length tail.text + 1, rest⟩⟩ ∧
      fields.map (fun f => (f.name.name, f.value)) = tail.assignments.map nameValue := by
  induction tail generalizing o with
  | close blanks =>
      refine ⟨[], ?_, rfl⟩
      rw [Tail.text, fields_blanks, fields_close]
      rfl
  | trailing before after =>
      refine ⟨[], ?_, rfl⟩
      rw [Tail.text, fields_comma, fields_close]
      rfl
  | field before after assignment tail ih =>
      obtain ⟨fields, hread, hfields⟩ :=
        ih (o + utf8Length (comma before after) + utf8Length assignment.text)
      refine ⟨⟨.ofText (o + utf8Length (comma before after)) assignment.name.text,
        assignment.value.content⟩ :: fields, ?_, ?_⟩
      · rw [Tail.text, List.append_assoc, List.append_assoc, fields_comma,
          fields_assignment assignment (endsValue_tail tail rest), hread]
        simp only [Tail.references, List.map_append, utf8Length_append, Nat.add_assoc]
      · rw [List.map_cons, hfields]
        rfl

/-- The title is that of the first field with the name, in any case. -/
theorem fieldText?_title {fields : List Field} {assignments : List Assignment}
    (h : fields.map (fun f => (f.name.name, f.value)) = assignments.map nameValue) :
    Block.fieldText? "title" fields = Item.title? assignments := by
  let isTitle (p : String × List Char) : Bool := sameLetters p.1.toList "title".toList
  have hfields : Block.fieldText? "title" fields =
      ((fields.map fun f => (f.name.name, f.value)).find? isTitle).map
        fun p => Bibtex.Value.plain p.2 := by
    rw [List.find?_map, Option.map_map]
    rfl
  have hassignments : Item.title? assignments =
      ((assignments.map nameValue).find? isTitle).map fun p => Bibtex.Value.plain p.2 := by
    have hname (a : Assignment) :
        isTitle (nameValue a) = decide (lower a.name.text = "title".toList) := by
      rw [Bool.eq_iff_iff, decide_eq_true_iff]
      show sameLetters (String.ofList a.name.text).toList "title".toList = true ↔ _
      rw [String.toList_ofList, sameLetters_iff]
      rfl
    rw [List.find?_map, Option.map_map, show isTitle ∘ nameValue = _ from funext hname]
    rfl
  rw [hfields, h, hassignments]

/-! ## Blocks -/

/-- What is to be found where these events are met. -/
def gathered (events : List Event) : Structure :=
  { entries := events.filterMap Event.entry?
    strings := events.filterMap Event.string?
    stringReferences := events.filterMap Event.reference?
    diagnostics := events.filterMap Event.fault? }

theorem gathered_append (events more : List Event) :
    gathered (events ++ more) = gathered events ++ gathered more := by
  simp only [gathered, List.filterMap_append]
  rfl

theorem gathered_references (references : List Symbol) (events : List Event) :
    gathered (references.map .reference ++ events) =
      { gathered events with
        stringReferences := references ++ (gathered events).stringReferences } := by
  induction references with
  | nil => rfl
  | cons reference references ih =>
      rw [List.map_cons, List.cons_append, ← List.singleton_append, gathered_append, ih]
      rfl

/-- Wherever the text stands, its blocks hold what they were printed for. -/
def Shows (text : List Char) (found : Nat → Structure) : Prop :=
  ∀ o rest, ∃ events, scan ⟨o, text ++ rest⟩ = events ++ scan ⟨o + utf8Length text, rest⟩ ∧
    gathered events = found o

/-- Text without an at sign holds nothing. -/
theorem scan_free {text : List Char} (outside : '@' ∉ text) (o : Nat) (rest : List Char) :
    scan ⟨o, text ++ rest⟩ = scan ⟨o + utf8Length text, rest⟩ := by
  refine scan_congr ?_
  have hsplit := Cursor.split_startsWith_append (p := (· == '@')) (fun c hc => by
    cases h : c == '@' with
    | false => rfl
    | true => exact absurd (beq_iff_eq.1 h ▸ hc) outside) rest
  simp only [nextBlock, Cursor.upTo, hsplit, Cursor.after, utf8Length_append, Nat.add_assoc]

theorem shows_free {text : List Char} (outside : '@' ∉ text) : Shows text fun _ => .empty :=
  fun o rest => ⟨[], scan_free outside o rest, rfl⟩

/-- A block is met, and the scan goes on where its content has been read. -/
theorem scan_block (kind : Word) (blanks : Blanks) (delimiter : Delimiter) (o : Nat)
    (rest : List Char) :
    scan ⟨o, head kind blanks delimiter ++ rest⟩ =
      let block := Block.content o (String.ofList (lower kind.text)) delimiter
        ⟨o + utf8Length (head kind blanks delimiter), rest⟩
      block.events ++ scan block.next := by
  have hnext : nextBlock ⟨o, '@' :: (kind.text ++ (blanks.text ++ opening delimiter :: rest))⟩ =
      ⟨o, '@' :: (kind.text ++ (blanks.text ++ opening delimiter :: rest))⟩ := rfl
  rw [head_eq, scan_of_cons (congrArg Cursor.rest hnext), hnext, block_at]

theorem shows_block {kind : Word} {blanks : Blanks} {delimiter : Delimiter} {body : List Char}
    {found : Nat → Structure}
    (h : ∀ o rest, ∃ events,
      Block.content o (String.ofList (lower kind.text)) delimiter
          ⟨o + utf8Length (head kind blanks delimiter), body ++ rest⟩ =
        ⟨events, ⟨o + utf8Length (head kind blanks delimiter) + utf8Length body, rest⟩⟩ ∧
      gathered events = found o) :
    Shows (head kind blanks delimiter ++ body) found := by
  intro o rest
  obtain ⟨events, hcontent, hgathered⟩ := h o rest
  refine ⟨events, ?_, hgathered⟩
  rw [List.append_assoc, scan_block, hcontent, utf8Length_append, Nat.add_assoc]

theorem shows_skipped {kind : Word} (known : String.ofList (lower kind.text) = "comment" ∨
      String.ofList (lower kind.text) = "preamble") (blanks : Blanks) {body : List Char}
    (balanced : Balanced (fun _ => true) 0 body) :
    Shows (Item.skipped kind known blanks body balanced).text fun _ => .empty := by
  refine shows_block fun o rest => ⟨[], ?_, rfl⟩
  have htext : body ++ ['}'] ++ rest = body ++ '}' :: rest := by simp
  rw [htext, Block.content, if_pos known]
  simp only [Block.skipped, untilEnd?_balanced balanced, Cursor.after]

theorem shows_string {kind : Word} (known : String.ofList (lower kind.text) = "string")
    (blanks : Blanks) (delimiter : Delimiter) (before : Blanks) (assignment : Assignment)
    (after : Blanks) :
    Shows (Item.string kind known blanks delimiter before assignment after).text
      fun o => (Item.string kind known blanks delimiter before assignment after).found o := by
  refine shows_block fun o rest => ?_
  have htext : before.text ++ (assignment.text ++ (after.text ++ [delimiter.closing])) ++ rest =
      before.text ++ (assignment.text ++ (after.text ++ delimiter.closing :: rest)) := by simp
  have hstart : o + utf8Length (head kind blanks delimiter) + utf8Length before.text =
      o + utf8Length (head kind blanks delimiter ++ before.text) := by
    rw [utf8Length_append, Nat.add_assoc]
  generalize hs : o + utf8Length (head kind blanks delimiter ++ before.text) = start at hstart
  refine ⟨(assignment.references start).map .reference ++
    [.string (.ofText start assignment.name.text)], ?_, ?_⟩
  · have hsize : delimiter.closing.utf8Size = 1 := by cases delimiter <;> decide
    have hstop : start + utf8Length assignment.text + utf8Length after.text + 1 =
        o + utf8Length (head kind blanks delimiter) + utf8Length
          (before.text ++ (assignment.text ++ (after.text ++ [delimiter.closing]))) := by
      rw [← hstart]
      simp only [utf8Length_append, utf8Length_cons, utf8Length_nil, hsize]
      omega
    rw [htext, known]
    simp only [Block.content, Block.strings]
    rw [fields_blanks, hstart, fields_assignment assignment (endsValue_close after rest),
      fields_blanks, fields_close, hstop]
    simp [Fields.stop, Fields.faults]
  · rw [gathered_references]
    simp only [Item.found, hs]
    simp [gathered, Event.entry?, Event.string?, Event.reference?, Event.fault?, Structure.empty]

/-- A key ends where the text after it begins. -/
theorem endsKey_blanks (blanks : Blanks) {c : Char} {rest : List Char}
    (hc : Block.endsKey delimiter (c :: rest) = true) :
    Block.endsKey delimiter (blanks.text ++ c :: rest) = true := by
  obtain ⟨text, hblank⟩ := blanks
  cases text with
  | nil => exact hc
  | cons d text =>
      have hd := hblank d List.mem_cons_self
      simp [Block.endsKey, startsWith, hd]

theorem endsKey_tail (tail : Tail) (rest : List Char) :
    Block.endsKey delimiter (tail.text ++ delimiter.closing :: rest) = true := by
  have hclosing : Block.endsKey delimiter (delimiter.closing :: rest) = true := by
    simp [Block.endsKey, startsWith]
  have hcomma (before after : Blanks) (rest : List Char) :
      Block.endsKey delimiter (comma before after ++ rest) = true := by
    rw [comma, List.append_assoc]
    exact endsKey_blanks before (by simp [Block.endsKey, startsWith])
  cases tail with
  | close blanks => exact endsKey_blanks blanks hclosing
  | trailing before after => exact hcomma before after _
  | field before after assignment tail =>
      rw [Tail.text, List.append_assoc]
      exact hcomma before after _

theorem shows_entry {kind : Word}
    (ordinary : String.ofList (lower kind.text) ∉ ["comment", "preamble", "string"])
    (blanks : Blanks) (delimiter : Delimiter) (before : Blanks) (key : Key delimiter)
    (tail : Tail) :
    Shows (Item.entry kind ordinary blanks delimiter before key tail).text
      fun o => (Item.entry kind ordinary blanks delimiter before key tail).found o := by
  refine shows_block fun o rest => ?_
  have htext : before.text ++ (key.text ++ (tail.text ++ [delimiter.closing])) ++ rest =
      before.text ++ (key.text ++ (tail.text ++ delimiter.closing :: rest)) := by simp
  have hstart : o + utf8Length (head kind blanks delimiter) + utf8Length before.text =
      o + utf8Length (head kind blanks delimiter ++ before.text) := by
    rw [utf8Length_append, Nat.add_assoc]
  generalize hs : o + utf8Length (head kind blanks delimiter ++ before.text) = start at hstart
  have hsize : delimiter.closing.utf8Size = 1 := by cases delimiter <;> decide
  have hstop : start + utf8Length key.text + utf8Length tail.text + 1 =
      o + utf8Length (head kind blanks delimiter) + utf8Length
        (before.text ++ (key.text ++ (tail.text ++ [delimiter.closing]))) := by
    rw [← hstart]
    simp only [utf8Length_append, utf8Length_cons, utf8Length_nil, hsize]
    omega
  have hkeyBlank : skipBlanks ⟨start, key.text ++ (tail.text ++ delimiter.closing :: rest)⟩ =
      ⟨start, key.text ++ (tail.text ++ delimiter.closing :: rest)⟩ := by
    exact skipBlanks_here (startsWith_key key _)
  obtain ⟨fields, hread, hfields⟩ := @fields_tail delimiter tail (start + utf8Length key.text) rest
  simp only [List.mem_cons, List.not_mem_nil, or_false, not_or] at ordinary
  obtain ⟨hcomment, hpreamble, hstring⟩ := ordinary
  refine ⟨(tail.references (start + utf8Length key.text)).map .reference ++
    [.entry ⟨String.ofList (lower kind.text), some (.ofText start key.text),
      Item.title? tail.assignments, ⟨o, start + utf8Length key.text + utf8Length tail.text + 1⟩⟩],
    ?_, ?_⟩
  · rw [htext, hstop]
    simp only [Block.content, hcomment, hpreamble, hstring, or_self, if_false, Block.entry]
    rw [skipBlanks_append before.blank, hstart, hkeyBlank,
      key_read key (Or.inr (endsKey_tail tail rest))]
    simp only [key.nonempty, if_false, hread, fieldText?_title hfields, hstop]
    simp [Fields.faults]
  · rw [gathered_references]
    simp only [Item.found, hs]
    have hspan : o + utf8Length (Item.entry kind (by simp [hcomment, hpreamble, hstring]) blanks
        delimiter before key tail).text =
          start + utf8Length key.text + utf8Length tail.text + 1 := by
      rw [hstop, Item.text, utf8Length_append (head kind blanks delimiter), Nat.add_assoc]
    simp [gathered, Event.entry?, Event.string?, Event.reference?, Event.fault?, Structure.empty,
      hspan]

/-! ## Whole bibliographies -/

/-- What is found, with the checks that need the whole file. -/
def checked (s : Structure) : Structure :=
  { s with
    diagnostics := Diagnostic.sorted (s.diagnostics ++ (repeated [] s.keys).map duplicateKey ++
      (s.stringReferences.filter fun reference => !s.definesString reference.name).map
        undefinedString) }

theorem ofEvents_eq (events : List Event) : Structure.ofEvents events = checked (gathered events) :=
  rfl

theorem shows_item (item : Item) : Shows item.text fun o => item.found o := by
  cases item with
  | free text outside => exact shows_free outside
  | skipped kind known blanks body balanced => exact shows_skipped known blanks balanced
  | string kind known blanks delimiter before assignment after =>
      exact shows_string known blanks delimiter before assignment after
  | entry kind ordinary blanks delimiter before key tail =>
      exact shows_entry ordinary blanks delimiter before key tail

theorem shows_text (items : List Item) : Shows (text items) fun o => found o items := by
  induction items with
  | nil => exact fun o rest => ⟨[], rfl, rfl⟩
  | cons item items ih =>
      intro o rest
      obtain ⟨events, hscan, hfound⟩ := shows_item item o (text items ++ rest)
      obtain ⟨more, hmore, hrest⟩ := ih (o + utf8Length item.text) rest
      refine ⟨events ++ more, ?_, ?_⟩
      · have htext : text (item :: items) = item.text ++ text items := rfl
        rw [htext, List.append_assoc, hscan, hmore, utf8Length_append, Nat.add_assoc,
          List.append_assoc]
      · rw [gathered_append, hfound, hrest]
        rfl

/-- A symbol is repeated if its name has been seen, before the list or earlier in it. -/
theorem repeated_eq (seen : List String) (symbols : List Symbol) :
    repeated seen symbols = (symbols.zipIdx.filter fun (s, i) =>
      s.name ∈ seen ∨ s.name ∈ (symbols.take i).map Symbol.name).map Prod.fst := by
  induction symbols generalizing seen with
  | nil => rfl
  | cons s symbols ih =>
      have htail (names : List String) (h : ∀ name, name ∈ names ↔ name = s.name ∨ name ∈ seen) :
          (((symbols.zipIdx 1).filter fun (t, i) =>
              t.name ∈ seen ∨ t.name ∈ ((s :: symbols).take i).map Symbol.name).map Prod.fst) =
            repeated names symbols := by
        rw [ih, List.zipIdx_succ, List.filter_map, List.map_map]
        congr 1
        apply List.filter_congr
        rintro ⟨t, i⟩ -
        simp only [Function.comp_apply, List.take_succ_cons, List.map_cons, List.mem_cons, h,
          decide_eq_decide]
        rw [or_assoc, or_left_comm]
      rw [repeated, List.zipIdx_cons]
      by_cases hs : s.name ∈ seen
      · rw [if_pos hs, List.filter_cons_of_pos (by simpa using hs), List.map_cons]
        congr 1
        exact (htail seen fun name => ⟨Or.inr, fun h => h.elim (· ▸ hs) id⟩).symm
      · rw [if_neg hs, List.filter_cons_of_neg (by simpa using hs)]
        exact (htail (s.name :: seen) fun name => List.mem_cons).symm

theorem repeated_nil (symbols : List Symbol) : repeated [] symbols = repeats symbols := by
  simp [repeated_eq, repeats]

theorem diagnostics_found (items : List Item) (o : Nat) : (found o items).diagnostics = [] := by
  induction items generalizing o with
  | nil => rfl
  | cons item items ih =>
      have hitem : (item.found o).diagnostics = [] := by cases item <;> rfl
      show (item.found o).diagnostics ++ (found _ items).diagnostics = []
      rw [hitem, ih]
      rfl

/-- **Analysis undoes printing.** -/
theorem analyze_bibliography (items : List Item) :
    analyze (String.ofList (text items)) =
      { found 0 items with diagnostics := Diagnostic.sorted (problems (found 0 items)) } := by
  obtain ⟨events, hscan, hfound⟩ := shows_text items 0 []
  have hnil : scan ⟨0 + utf8Length (text items), []⟩ = [] := scan_of_nil rfl
  rw [analyze, Cursor.ofString, String.toList_ofList, ← List.append_nil (text items), hscan, hnil,
    List.append_nil]
  rw [ofEvents_eq, hfound, checked, diagnostics_found, List.nil_append,
    repeated_nil]
  rfl

end Markup

end Manuscript.Bibtex

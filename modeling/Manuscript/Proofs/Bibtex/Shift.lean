/-
# Manuscript.Proofs.Bibtex.Shift -- a bibliography does not know where it stands

A block that stands `n` bytes further on is read the same and ends `n` bytes further on
(`Block.shift_read`), so the scan meets the same events there (`shift_scan`).  The checks over
the whole file compare names, and move along as well (`Structure.shift_ofEvents`).
-/
import Manuscript.Proofs.Bibtex.MarkupReading
import Manuscript.Proofs.Text.Shift

namespace Manuscript.Bibtex

set_option autoImplicit false

open Text Markup

variable (n : Nat)

/-! ## Values -/

theorem shift_skipBlanks (k : Cursor) : skipBlanks (k.shift n) = (skipBlanks k).shift n :=
  congrArg Prod.snd (Cursor.shift_upTo n k _)

theorem shift_readName (k : Cursor) :
    readName (k.shift n) = ((readName k).1, (readName k).2.shift n) := Cursor.shift_upTo n k _

namespace Piece

def shift : Piece → Piece
  | .text content next => .text content (next.shift n)
  | .word name next => .word (name.shift n) (next.shift n)
  | .nothing => .nothing
  | .unclosed => .unclosed

@[simp] theorem content_shift (piece : Piece) : (piece.shift n).content = piece.content := by
  cases piece <;> rfl

@[simp] theorem next?_shift (piece : Piece) :
    (piece.shift n).next? = piece.next?.map (Cursor.shift n) := by
  cases piece <;> rfl

@[simp] theorem shift_eq_unclosed (piece : Piece) :
    piece.shift n = .unclosed ↔ piece = .unclosed := by
  cases piece <;> simp [shift]

theorem reference?_shift (piece : Piece) :
    (piece.shift n).reference? = piece.reference?.map (Symbol.shift n) := by
  cases piece with
  | word name next =>
      simp only [shift, reference?, Symbol.shift]
      split <;> rfl
  | _ => rfl

theorem shift_read (delimiter : Delimiter) (k : Cursor) :
    read delimiter (k.shift n) = (read delimiter k).shift n := by
  unfold read
  rw [Cursor.rest_shift]
  split
  · rfl
  · split
    · rw [Cursor.shift_after]
      rfl
    · rfl
  · split
    · rw [Cursor.shift_after]
      rfl
    · rfl
  · split
    · rfl
    · rw [shift_readName]
      cases readName k with
      | mk name next =>
          cases name with
          | nil => rfl
          | cons c name =>
              simp only [Cursor.offset_shift, Symbol.shift_ofText]
              rfl

end Piece

namespace Value

def shift (value : Value) : Value :=
  { value with
    references := value.references.map (Symbol.shift n)
    next := value.next.shift n }

theorem shift_read (delimiter : Delimiter) (k : Cursor) :
    read delimiter (k.shift n) = (read delimiter k).shift n := by
  have hpiece (k : Cursor) : Piece.read delimiter (skipBlanks (k.shift n)) =
      (Piece.read delimiter (skipBlanks k)).shift n := by
    rw [shift_skipBlanks, Piece.shift_read]
  induction k using read_induction delimiter with
  | nothing k h =>
      rw [read_of_none h, read_of_none (by rw [hpiece, Piece.next?_shift, h]; rfl), hpiece,
        shift_skipBlanks]
      simp [shift]
  | last k next h hend =>
      have hend' : ∀ rest, (skipBlanks (next.shift n)).rest ≠ '#' :: rest := by
        rw [shift_skipBlanks]
        exact hend
      rw [read_of_last h hend,
        read_of_last (by rw [hpiece, Piece.next?_shift, h]; rfl) hend', hpiece, shift_skipBlanks,
        Piece.reference?_shift]
      cases (Piece.read delimiter (skipBlanks k)).reference? <;> simp [shift]
  | more k next rest h hmore ih =>
      have hmore' : (skipBlanks (next.shift n)).rest = '#' :: rest := by
        rw [shift_skipBlanks]
        exact hmore
      have hnext : (⟨(skipBlanks (next.shift n)).offset + 1, rest⟩ : Cursor) =
          Cursor.shift n ⟨(skipBlanks next).offset + 1, rest⟩ := by
        rw [shift_skipBlanks]
        rfl
      rw [read_of_more h hmore,
        read_of_more (by rw [hpiece, Piece.next?_shift, h]; rfl) hmore', hnext, ih, hpiece,
        Piece.reference?_shift]
      cases (Piece.read delimiter (skipBlanks k)).reference? <;> simp [shift]

end Value

/-! ## Events -/

def Entry.shift (e : Entry) : Entry :=
  { e with key := e.key.map (Symbol.shift n), span := e.span.shift n }

def Event.shift : Event → Event
  | .entry e => .entry (e.shift n)
  | .string name => .string (name.shift n)
  | .reference name => .reference (name.shift n)
  | .fault diagnostic => .fault (diagnostic.shift n)

/-! ## Fields -/

theorem shift_skipField (delimiter : Delimiter) (depth : Nat) (k : Cursor) :
    skipField delimiter depth (k.shift n) = (skipField delimiter depth k).shift n :=
  Cursor.shift_after n k _ _

def Field.shift (field : Field) : Field := { field with name := field.name.shift n }

namespace Fields

def shift (fields : Fields) : Fields :=
  { fields with
    fields := fields.fields.map (Field.shift n)
    events := fields.events.map (Event.shift n)
    next := fields.next.shift n }

namespace Step

def shift : Step → Step
  | .stop terminated k => .stop terminated (k.shift n)
  | .go field events k =>
      .go (field.map (Field.shift n)) (events.map (Event.shift n)) (k.shift n)
  | .abandon events k => .abandon (events.map (Event.shift n)) (k.shift n)

theorem shift_recover (delimiter : Delimiter) (fault : Diagnostic) (depth : Nat) (k : Cursor) :
    recover delimiter (fault.shift n) depth (k.shift n) =
      (recover delimiter fault depth k).shift n := by
  unfold recover
  dsimp only
  rw [shift_skipField]
  unfold fieldsGoOn
  rw [Cursor.rest_shift]
  split <;> rfl

theorem shift_value (delimiter : Delimiter) (name : Symbol) (k : Cursor) :
    value delimiter (name.shift n) (k.shift n) = (value delimiter name k).shift n := by
  have hreferences : ((Value.read delimiter k).references.map (Symbol.shift n)).map
      Event.reference = ((Value.read delimiter k).references.map Event.reference).map
        (Event.shift n) := by
    rw [List.map_map, List.map_map]
    rfl
  unfold value
  rw [Value.shift_read]
  simp only [Value.shift, hreferences]
  split <;> rfl

theorem shift_read (delimiter : Delimiter) (here : Cursor) :
    read delimiter (here.shift n) = (read delimiter here).shift n := by
  unfold read
  rw [Cursor.rest_shift]
  split
  · rfl
  · rename_i c cs hcs
    dsimp only
    rw [Cursor.offset_shift, Cursor.shift_add, shift_readName]
    split
    · rfl
    split
    · rfl
    split
    · rfl
    cases readName here with
    | mk name after =>
        cases name with
        | nil => exact shift_recover n delimiter (missingEquals ⟨here.offset, here.offset + 1⟩) _ _
        | cons d name =>
            dsimp only
            rw [shift_skipBlanks, Cursor.rest_shift, Symbol.shift_ofText]
            split
            · rw [Cursor.shift_after, shift_value]
            · exact shift_recover n delimiter
                (missingEquals (Symbol.ofText here.offset (d :: name)).span) 0 _

end Step

theorem shift_read (delimiter : Delimiter) (k : Cursor) :
    read delimiter (k.shift n) = (read delimiter k).shift n := by
  have hstep (k : Cursor) : Step.read delimiter (skipBlanks (k.shift n)) =
      (Step.read delimiter (skipBlanks k)).shift n := by
    rw [shift_skipBlanks, Step.shift_read]
  induction k using read_induction delimiter with
  | stop k terminated k' h =>
      rw [read_of_stop h, read_of_stop (by rw [hstep, h]; rfl)]
      rfl
  | go k field events k' h ih =>
      rw [read_of_go h, read_of_go (by rw [hstep, h]; rfl), ih]
      cases field <;> simp [shift]
  | abandon k events k' h =>
      rw [read_of_abandon h, read_of_abandon (by rw [hstep, h]; rfl)]
      rfl

theorem shift_faults (fields : Fields) (start : Nat) :
    (fields.shift n).faults (n + start) = (fields.faults start).map (Event.shift n) := by
  unfold faults
  rw [show (fields.shift n).terminated = fields.terminated from rfl]
  cases fields.terminated <;> rfl

end Fields

/-! ## Blocks -/

namespace Block

def shift (block : Block) : Block := ⟨block.events.map (Event.shift n), block.next.shift n⟩

theorem shift_skipped (start : Nat) (delimiter : Delimiter) (k : Cursor) :
    skipped (n + start) delimiter (k.shift n) = (skipped start delimiter k).shift n := by
  unfold skipped
  rw [Cursor.rest_shift]
  split
  · rw [Cursor.shift_after]
    rfl
  · rw [Cursor.shift_after]
    rfl

theorem shift_strings (start : Nat) (delimiter : Delimiter) (k : Cursor) :
    strings (n + start) delimiter (k.shift n) = (strings start delimiter k).shift n := by
  unfold strings
  dsimp only
  rw [Fields.shift_read, Fields.shift_faults]
  simp [shift, Fields.shift, Function.comp_def, Field.shift, Event.shift]

theorem fieldText?_shift (name : String) (fields : List Field) :
    fieldText? name (fields.map (Field.shift n)) = fieldText? name fields := by
  unfold fieldText?
  rw [List.find?_map, Option.map_map]
  rfl

theorem shift_entry (start : Nat) (kind : String) (delimiter : Delimiter) (k : Cursor) :
    entry (n + start) kind delimiter (k.shift n) = (entry start kind delimiter k).shift n := by
  unfold entry
  dsimp only
  rw [shift_skipBlanks, Cursor.shift_upTo]
  dsimp only
  rw [Fields.shift_read, Fields.shift_faults, Cursor.offset_shift, Symbol.shift_ofText]
  simp only [Fields.shift, fieldText?_shift]
  split <;> simp [shift, Event.shift, Entry.shift, Span.shift, missingKey, Diagnostic.shift]

theorem shift_content (start : Nat) (kind : String) (delimiter : Delimiter) (k : Cursor) :
    content (n + start) kind delimiter (k.shift n) = (content start kind delimiter k).shift n := by
  unfold content
  split
  · exact shift_skipped n start delimiter k
  split
  · exact shift_strings n start delimiter k
  · exact shift_entry n start kind delimiter k

/-- **A block is read the same further on.** -/
theorem shift_read (start : Nat) (k : Cursor) :
    read (n + start) (k.shift n) = (read start k).shift n := by
  unfold read
  rw [shift_readName]
  cases readName k with
  | mk name after =>
      cases name with
      | nil => rfl
      | cons c name =>
          dsimp only
          rw [shift_skipBlanks, Cursor.rest_shift]
          split
          · rw [Cursor.shift_after, shift_content]
          · rw [Cursor.shift_after, shift_content]
          · rfl

theorem shift_at (offset : Nat) (c : Char) (cs : List Char) :
    Block.at (n + offset) c cs = (Block.at offset c cs).shift n := by
  rw [Block.at, Cursor.shift_add, shift_read]
  rfl

end Block

theorem shift_nextBlock (k : Cursor) : nextBlock (k.shift n) = (nextBlock k).shift n :=
  congrArg Prod.snd (Cursor.shift_upTo n k _)

/-- **A bibliography further on has the same events.** -/
theorem shift_scan (k : Cursor) : scan (k.shift n) = (scan k).map (Event.shift n) := by
  induction k using scan_induction with
  | nil k h =>
      rw [scan_of_nil h, scan_of_nil (by rw [shift_nextBlock]; exact h)]
      rfl
  | cons k c cs h ih =>
      have h' : (nextBlock (k.shift n)).rest = c :: cs := by
        rw [shift_nextBlock]
        exact h
      rw [scan_of_cons h, scan_of_cons h', shift_nextBlock, Cursor.offset_shift, Block.shift_at,
        List.map_append, ← ih]
      rfl

/-! ## Structures -/

theorem shift_repeated (seen : List String) (symbols : List Symbol) :
    repeated seen (symbols.map (Symbol.shift n)) =
      (repeated seen symbols).map (Symbol.shift n) := by
  induction symbols generalizing seen with
  | nil => rfl
  | cons s symbols ih =>
      have hname : (s.shift n).name = s.name := rfl
      rw [List.map_cons, repeated, repeated, ih, ih, hname]
      split <;> rfl

namespace Structure

def shift (s : Structure) : Structure :=
  { entries := s.entries.map (Entry.shift n)
    strings := s.strings.map (Symbol.shift n)
    stringReferences := s.stringReferences.map (Symbol.shift n)
    diagnostics := s.diagnostics.map (Diagnostic.shift n) }

theorem keys_shift (s : Structure) : (s.shift n).keys = s.keys.map (Symbol.shift n) := by
  unfold keys shift
  rw [List.filterMap_map, List.map_filterMap]
  rfl

theorem definesString_shift (s : Structure) (name : String) :
    (s.shift n).definesString name = s.definesString name := by
  unfold definesString shift
  rw [List.map_map]
  rfl

theorem shift_gathered (events : List Event) :
    gathered (events.map (Event.shift n)) = (gathered events).shift n := by
  simp only [gathered, shift, Structure.mk.injEq]
  refine ⟨?_, ?_, ?_, ?_⟩ <;> exact filterMap_moved (by rintro (_ | _) <;> rfl) events

theorem shift_checked (s : Structure) : checked (s.shift n) = (checked s).shift n := by
  have hduplicates : (repeated [] (s.shift n).keys).map duplicateKey =
      ((repeated [] s.keys).map duplicateKey).map (Diagnostic.shift n) := by
    rw [keys_shift, shift_repeated, List.map_map, List.map_map]
    rfl
  have hundeclared : ((s.shift n).stringReferences.filter fun reference =>
        !(s.shift n).definesString reference.name).map undefinedString =
      ((s.stringReferences.filter fun reference => !s.definesString reference.name).map
        undefinedString).map (Diagnostic.shift n) := by
    simp only [definesString_shift]
    rw [shift, List.filter_map, List.map_map, List.map_map]
    rfl
  unfold checked
  rw [hduplicates, hundeclared]
  show Structure.mk _ _ _ _ = Structure.mk _ _ _ _
  rw [← Diagnostic.sorted_shift, List.map_append, List.map_append]
  rfl

/-- **What the events tell moves along.** -/
theorem shift_ofEvents (events : List Event) :
    ofEvents (events.map (Event.shift n)) = (ofEvents events).shift n := by
  rw [ofEvents_eq, ofEvents_eq, shift_gathered, shift_checked]

end Structure

end Manuscript.Bibtex

/-
# Manuscript.Proofs.Bytewise.Value -- the fields of a bibliography, by offsets

Values and fields of a bibliography, read by offsets with every access checked, and
`.ok` of what the readers over characters find (`value_at`, `fields_at`).

There are no comments here, so the loops over braces and quotes are shown to follow the
searches over characters as the one over brackets is (`Follows`).  A value is a loop over
its pieces and a block a loop over its fields; both gather what they read in the state of
the loop, where the readers over characters put it in front of what the rest is read to.
So each loop is compared with whatever was gathered before.  A field keeps the span of
its name, and the name is cut out later, where it is used: the text still has it there
(`slice_name`).
-/
import Manuscript.Proofs.Bytewise.Group
import Manuscript.Proofs.Bibtex.Reading

namespace Manuscript.Bytewise

set_option autoImplicit false

open Text Bibtex

/-! ## Readings -/

section

variable (text : List Char)

def blanksEnd (i : Nat) : Checked Nat := seek text (fun b => !b.any isAsciiBlank) i

/-- The end of the name at an offset, perhaps the offset itself. -/
def nameEnd (i : Nat) : Checked Nat := seek text (fun b => !b.any isNameChar) i

def balancedTurn (depth i : Nat) (b : Byte) : Checked (Turn Nat (Option Nat)) :=
  if b = some '\\' then pure (.on depth (i + 2))
  else if b = some '{' then pure (.on (depth + 1) (i + 1))
  else if b = some '}' then do
    let depth ← minus depth 1
    if depth = 0 then pure (.done (some i)) else pure (.on depth (i + 1))
  else pure (.on depth (i + 1))

/-- The brace that closes the text whose brace is at an offset. -/
def balanced? (opening : Nat) : Checked (Option Nat) :=
  scanBytes text (fun _ _ => none) balancedTurn 0 opening

def quotedTurn (depth i : Nat) (b : Byte) : Checked (Turn Nat (Option Nat)) :=
  if b = some '\\' then pure (.on depth (i + 2))
  else if b = some '{' then pure (.on (depth + 1) (i + 1))
  else if b = some '}' then pure (.on (depth - 1) (i + 1))
  else if b = some '"' ∧ depth = 0 then pure (.done (some i))
  else pure (.on depth (i + 1))

/-- The quote that closes the text whose quote is at an offset. -/
def quoted? (opening : Nat) : Checked (Option Nat) :=
  scanBytes text (fun _ _ => none) quotedTurn 0 (opening + 1)

/-- A piece of a value by its offsets. -/
inductive Found where
  | piece (content : List Char) (reference : Option Symbol) (next : Nat)
  /-- No piece starts here. -/
  | nothing
  /-- The input ends inside the piece. -/
  | unclosed
deriving DecidableEq, Repr

/-- The piece between two delimiters, if there is a second one. -/
def enclosed (opening : Nat) : Option Nat → Checked Found
  | some closing => do
      let content ← slice text (opening + 1) closing
      pure (.piece content none (closing + 1))
  | none => pure .unclosed

def piece (close : Char) (i : Nat) : Checked Found :=
  if i < utf8Length text then
    if ascii? text i = some '{' then do enclosed text i (← balanced? text i)
    else if ascii? text i = some '"' then do enclosed text i (← quoted? text i)
    else if ascii? text i = some close ∨ ascii? text i = some ',' then pure .nothing
    else do
      let stop ← nameEnd text i
      if stop = i then pure .nothing
      else do
        let name ← slice text i stop
        let symbol : Symbol := ⟨String.ofList name, ⟨i, stop⟩⟩
        pure (.piece name (if startsWith Char.isDigit name then none else some symbol) stop)
  else pure .unclosed

/-- What was read of a value, by offsets. -/
structure ValueRead where
  text : Option (List Char)
  references : List Symbol
  next : Nat
deriving DecidableEq, Repr

def valueTurn (close : Char) (read : List Char × List Symbol) (i : Nat) :
    Checked (Turn (List Char × List Symbol) ValueRead) := do
  let here ← blanksEnd text i
  match ← piece text close here with
  | .unclosed => pure (.done ⟨none, read.2, here⟩)
  | .nothing => pure (.done ⟨some read.1, read.2, here⟩)
  | .piece content reference next => do
      let read := (read.1 ++ content, read.2 ++ reference.toList)
      let sign ← blanksEnd text next
      if ascii? text sign = some '#' then pure (.on read (sign + 1))
      else pure (.done ⟨some read.1, read.2, sign⟩)

/-- The value at an offset. -/
def value (close : Char) (i : Nat) : Checked ValueRead :=
  loop text (valueTurn text close) ([], []) i

def recoverTurn (close : Char) (depth i : Nat) (b : Byte) : Checked (Turn Nat (Bool × Nat)) :=
  if b = some '{' then pure (.on (depth + 1) (i + 1))
  else if b = some '}' ∧ 0 < depth then do
    let depth ← minus depth 1
    pure (.on depth (i + 1))
  else if b = some ',' ∧ depth = 0 then pure (.done (true, i))
  else if b = some '@' ∧ depth = 0 then pure (.done (false, i))
  else if depth = 0 ∧ b = some close then pure (.done (true, i))
  else pure (.on depth (i + 1))

/-- Whether fields go on after what is no field, and where. -/
def recover (close : Char) (i : Nat) : Checked (Bool × Nat) :=
  scanBytes text (fun _ i => (false, i)) (recoverTurn close) 0 i

/-- The fields of a block by their offsets: the span of each name, and its value. -/
structure FieldsRead where
  values : List (Span × List Char)
  events : List Event
  terminated : Bool
  next : Nat
deriving DecidableEq, Repr

/-- What was read of the fields so far. -/
abbrev Gathered := List (Span × List Char) × List Event

def recoverField (close : Char) (read : Gathered) (fault : Diagnostic) (i : Nat) :
    Checked (Turn Gathered FieldsRead) := do
  let next ← recover text close i
  let events := read.2 ++ [.fault fault]
  if next.1 then pure (.on (read.1, events) next.2)
  else pure (.done ⟨read.1, events, false, next.2⟩)

def fieldValue (close : Char) (read : Gathered) (name : Span) (i : Nat) :
    Checked (Turn Gathered FieldsRead) := do
  let found ← value text close i
  let events := read.2 ++ found.references.map Event.reference
  match found.text with
  | some value => pure (.on (read.1 ++ [(name, value)], events) found.next)
  | none => pure (.done ⟨read.1, events, false, found.next⟩)

/-- Reads on behind the name of a field. -/
def namedField (close : Char) (read : Gathered) (name : Span) :
    Checked (Turn Gathered FieldsRead) := do
  let sign ← blanksEnd text name.stop
  if ascii? text sign = some '=' then fieldValue text close read name (sign + 1)
  else recoverField text close read (missingEquals name) sign

def fieldTurn (close : Char) (read : Gathered) (i : Nat) : Checked (Turn Gathered FieldsRead) := do
  let here ← blanksEnd text i
  match (bytes text)[here]? with
  | none => pure (.done ⟨read.1, read.2, false, here⟩)
  | some b =>
      if b = some close then pure (.done ⟨read.1, read.2, true, here + 1⟩)
      else if b = some ',' then pure (.on read (here + 1))
      else if b = some '@' then pure (.done ⟨read.1, read.2, false, here⟩)
      else do
        let stop ← nameEnd text here
        if stop = here then recoverField text close read (missingEquals ⟨here, here + 1⟩) here
        else namedField text close read ⟨here, stop⟩

/-- The fields from an offset up to and including the closing delimiter. -/
def fields (close : Char) (i : Nat) : Checked FieldsRead :=
  loop text (fieldTurn text close) ([], []) i

end

/-! ## White space and names -/

section

variable {text cs : List Char} {c : Char} {i : Nat} {k : Cursor} {delimiter : Delimiter}

theorem ascii_of_isNameChar (c : Char) (h : isNameChar c = true) : c.val ≤ 127 := by
  simp only [isNameChar, Char.isAlphanum, Bool.or_eq_true, beq_iff_eq] at h
  rcases h with ((((((h | h) | rfl) | rfl) | rfl) | rfl) | rfl) | rfl
  · exact ascii_of_isAlpha c h
  · exact ascii_of_isDigit c h
  all_goals decide

theorem ascii_closing (delimiter : Delimiter) : delimiter.closing.val ≤ 127 := by
  cases delimiter <;> decide

theorem at_skipBlanks (h : At text k) : At text (skipBlanks k) := h.trans (reaches_skipBlanks k)

theorem at_readName (h : At text k) : At text (readName k).2 := h.trans (reaches_readName k)

theorem blanksEnd_at (h : At text k) : blanksEnd text k.offset = .ok (skipBlanks k).offset :=
  seek_class ascii_of_isAsciiBlank h

theorem nameEnd_at (h : At text k) : nameEnd text k.offset = .ok (readName k).2.offset :=
  seek_class ascii_of_isNameChar h

theorem readName_offset_eq_iff : (readName k).2.offset = k.offset ↔ (readName k).1 = [] :=
  upTo_offset_eq_iff

/-! ## Pieces -/

/-- The braces of a text in braces. -/
theorem follows_balanced : Follows balancedTurn (· + 1) inBraces? where
  pass _ _ := rfl
  nil _ _ := rfl
  escaped depth c cs := by simp [inBraces?]
  plain depth i c := by
    by_cases hslash : c = '\\'
    · subst hslash
      exact .escape rfl rfl fun cs => by simp [inBraces?]
    by_cases hopen : c = '{'
    · subst hopen
      exact .next (depth + 1) rfl fun cs => by simp [inBraces?]
    by_cases hclose : c = '}'
    · subst hclose
      cases depth with
      | zero => exact .stop fun cs => rfl
      | succ depth => exact .next depth (by simp [balancedTurn]) fun cs => by simp [inBraces?]
    · exact .next depth (by simp [balancedTurn, hslash, hopen, hclose])
        fun cs => by simp [inBraces?, hslash, hopen, hclose]

/-- The braces and the quote of a text in quotes. -/
theorem follows_quoted : Follows quotedTurn id inQuotes? where
  pass _ _ := rfl
  nil _ _ := rfl
  escaped depth c cs := by simp [inQuotes?]
  plain depth i c := by
    by_cases hslash : c = '\\'
    · subst hslash
      exact .escape rfl rfl fun cs => by simp [inQuotes?]
    by_cases hopen : c = '{'
    · subst hopen
      exact .next (depth + 1) rfl fun cs => by simp [inQuotes?]
    by_cases hclose : c = '}'
    · subst hclose
      exact .next (depth - 1) rfl fun cs => by simp [inQuotes?]
    by_cases hquote : c = '"' ∧ depth = 0
    · obtain ⟨rfl, rfl⟩ := hquote
      exact .stop fun cs => rfl
    · exact .next depth (by simp [quotedTurn, hslash, hopen, hclose, hquote])
        fun cs => by simp [inQuotes?, hslash, hopen, hclose, hquote]

theorem balanced?_at (h : At text ⟨i, '{' :: cs⟩) :
    balanced? text i = .ok (behind (i + 1) (inBraces? 0 false cs)) := by
  have hturn : balancedTurn 0 i (Byte.ofChar '{') = .ok (.on 1 (i + 1)) := rfl
  rw [balanced?, scanBytes_on h hturn (by omega)]
  exact (follows_balanced.scan h.next 0).1

theorem quoted?_at (h : At text ⟨i, '"' :: cs⟩) :
    quoted? text i = .ok (behind (i + 1) (inQuotes? 0 false cs)) :=
  (follows_quoted.scan h.next 0).1

/-- A piece as it is read by offsets. -/
def Found.ofPiece : Piece → Found
  | .text content next => .piece content none next.offset
  | .word name next =>
      .piece name.name.toList
        (if startsWith Char.isDigit name.name.toList then none else some name) next.offset
  | .nothing => .nothing
  | .unclosed => .unclosed

/-- Between two ASCII delimiters the content is cut out. -/
theorem enclosed_at {opening closing : Char} {content rest : List Char}
    (hopening : opening.val ≤ 127) (hclosing : closing.val ≤ 127)
    (h : At text ⟨i, opening :: (content ++ closing :: rest)⟩) :
    enclosed text i (some (i + 1 + utf8Length content)) =
      .ok (.piece content none (i + utf8Length (opening :: content ++ [closing]))) := by
  have hsize := Char.utf8Size_eq_one_iff.2 hopening
  have hcontent := h.next
  rw [hsize] at hcontent
  rw [enclosed, slice_at hcontent]
  simp [hsize, Char.utf8Size_eq_one_iff.2 hclosing, Nat.add_assoc, Nat.add_comm,
    Nat.add_left_comm]

theorem piece_at (h : At text k) :
    piece text delimiter.closing k.offset = .ok (.ofPiece (Piece.read delimiter k)) := by
  obtain ⟨i, cs⟩ := k
  cases cs with
  | nil =>
      have hlength := h.length_eq
      rw [utf8Length_nil, Nat.add_zero] at hlength
      rw [piece, if_neg (by simp [hlength])]
      rfl
  | cons c cs =>
      rw [piece, if_pos h.lt_length, ascii?_at h, nameEnd_at h]
      by_cases hbrace : c = '{'
      · subst hbrace
        rw [if_pos (by decide), balanced?_at h, ok_bind]
        cases hfound : inBraces? 0 false cs with
        | none => simp [Piece.read, hfound, behind, enclosed, Found.ofPiece]
        | some parts =>
            have happend := inBraces?_append hfound
            rw [← happend] at h
            refine (enclosed_at (by decide) (by decide) h).trans ?_
            simp [Piece.read, hfound, Found.ofPiece, Cursor.after]
      by_cases hquote : c = '"'
      · subst hquote
        rw [if_neg (by decide), if_pos (by decide), quoted?_at h, ok_bind]
        cases hfound : inQuotes? 0 false cs with
        | none => simp [Piece.read, hfound, behind, enclosed, Found.ofPiece]
        | some parts =>
            have happend := inQuotes?_append hfound
            rw [← happend] at h
            refine (enclosed_at (by decide) (by decide) h).trans ?_
            simp [Piece.read, hfound, Found.ofPiece, Cursor.after]
      rw [Piece.read_other hbrace hquote]
      by_cases hstop : c = delimiter.closing ∨ c = ','
      · simp [hbrace, hquote, hstop, Found.ofPiece, ascii_closing]
      have hempty : (readName ⟨i, c :: cs⟩).2.offset = i ↔ isNameChar c = false :=
        readName_offset_eq_iff.trans readName_eq_nil_iff
      have hslice : slice text i (readName ⟨i, c :: cs⟩).2.offset =
          .ok (readName ⟨i, c :: cs⟩).1 := slice_upTo h
      by_cases hname : isNameChar c = false
      · simp [hbrace, hquote, hstop, Found.ofPiece, ascii_closing, hempty.2 hname, hname]
      · simp [hbrace, hquote, hstop, Found.ofPiece, ascii_closing, mt hempty.1 hname, hname,
          hslice, Symbol.ofText]
        rfl

/-- The ASCII character at a place is the next one. -/
theorem ascii?_eq_some_iff {a : Char} (ha : a.val ≤ 127) (h : At text k) :
    ascii? text k.offset = some a ↔ ∃ rest, k.rest = a :: rest := by
  obtain ⟨i, cs⟩ := k
  cases cs with
  | nil => simp [ascii?_end h]
  | cons c cs => simp [ascii?_at h, ha]

theorem ofPiece_eq_piece {p : Piece} {next : Cursor} (h : p.next? = some next) :
    Found.ofPiece p = .piece p.content p.reference? next.offset := by
  cases p <;> cases h <;> rfl

/-! ## Values -/

theorem reaches_sign {next : Cursor} {rest : List Char} (h : (skipBlanks next).rest = c :: rest) :
    next.Reaches ((skipBlanks next).after [c] rest) :=
  (reaches_skipBlanks next).trans (Cursor.reaches_after h.symm)

/-- The loop over the pieces, with the text and the references of the pieces before. -/
theorem value_loop (h : At text k) (content : List Char) (references : List Symbol) :
    loop text (valueTurn text delimiter.closing) (content, references) k.offset =
      .ok ⟨(Value.read delimiter k).text.map (content ++ ·),
        references ++ (Value.read delimiter k).references,
        (Value.read delimiter k).next.offset⟩ := by
  induction k using Value.read_induction delimiter generalizing content references with
  | nothing k hnone =>
      refine loop_done ?_
      rw [valueTurn, blanksEnd_at h, ok_bind, piece_at (at_skipBlanks h), ok_bind,
        Value.read_of_none hnone]
      generalize Piece.read delimiter (skipBlanks k) = p at hnone
      cases p with
      | text content next => cases hnone
      | word name next => cases hnone
      | nothing => simp [Found.ofPiece]
      | unclosed => simp [Found.ofPiece]
  | last k next hnext hend =>
      have hread := reaches_piece hnext
      have hafter := (at_skipBlanks h).trans hread.1
      have hsign : ascii? text (skipBlanks next).offset ≠ some '#' := fun hsign =>
        let ⟨rest, hrest⟩ := (ascii?_eq_some_iff (by decide) (at_skipBlanks hafter)).1 hsign
        hend rest hrest
      refine loop_done ?_
      rw [valueTurn, blanksEnd_at h, ok_bind, piece_at (at_skipBlanks h), ok_bind,
        ofPiece_eq_piece hnext]
      simp only [blanksEnd_at hafter, ok_bind, if_neg hsign, Value.read_of_last hnext hend]
      rfl
  | more k next rest hnext hmore ih =>
      have hread := reaches_piece hnext
      have hafter := (at_skipBlanks h).trans hread.1
      have hsign := (ascii?_eq_some_iff (by decide) (at_skipBlanks hafter)).2 ⟨rest, hmore⟩
      have hnumber := reaches_sign hmore
      have hturn : valueTurn text delimiter.closing (content, references) k.offset =
          .ok (.on (content ++ (Piece.read delimiter (skipBlanks k)).content,
            references ++ (Piece.read delimiter (skipBlanks k)).reference?.toList)
            ((skipBlanks next).offset + 1)) := by
        rw [valueTurn, blanksEnd_at h, ok_bind, piece_at (at_skipBlanks h), ok_bind,
          ofPiece_eq_piece hnext]
        simp only [blanksEnd_at hafter, ok_bind, if_pos hsign]
        rfl
      have hlt := h.lt_of_reaches (((reaches_skipBlanks k).trans hread.1).trans hnumber)
        (Nat.lt_of_le_of_lt hnumber.length_le
          (Nat.lt_of_lt_of_le hread.2 (reaches_skipBlanks k).length_le))
      rw [loop_on hturn hlt.1 hlt.2, ih (hafter.trans hnumber), Value.read_of_more hnext hmore]
      simp [Function.comp_def]

theorem value_at (h : At text k) :
    value text delimiter.closing k.offset =
      .ok ⟨(Value.read delimiter k).text, (Value.read delimiter k).references,
        (Value.read delimiter k).next.offset⟩ := by
  rw [value, value_loop h]
  simp

/-! ## Fields -/

/-- Where fields go on after a fault, if they do. -/
def recovered (k : Cursor) : Bool × Nat := (fieldsGoOn k, k.offset)

/-- Where fields do not go on, a turn counts the braces. -/
theorem recoverTurn_pass {depth : Nat}
    (hstop : ¬(depth = 0 ∧ (c = ',' ∨ c = '@' ∨ c = delimiter.closing))) :
    recoverTurn delimiter.closing depth i (Byte.ofChar c) =
      .ok (.on (if c = '{' then depth + 1 else if c = '}' then depth - 1 else depth) (i + 1)) := by
  by_cases hopen : c = '{'
  · subst hopen
    rfl
  by_cases hclose : c = '}'
  · subst hclose
    cases depth with
    | zero =>
        have hne : delimiter.closing ≠ '}' := fun h => hstop ⟨rfl, .inr (.inr h.symm)⟩
        cases delimiter with
        | brace => exact absurd rfl hne
        | parenthesis => rfl
    | succ depth => rfl
  · have hcomma : ¬(c = ',' ∧ depth = 0) := fun h => hstop ⟨h.2, .inl h.1⟩
    have hat : ¬(c = '@' ∧ depth = 0) := fun h => hstop ⟨h.2, .inr (.inl h.1)⟩
    have hend : ¬(depth = 0 ∧ c = delimiter.closing) := fun h => hstop ⟨h.1, .inr (.inr h.2)⟩
    simp [recoverTurn, hopen, hclose, hcomma, hat, hend, ascii_closing]

theorem recover_scan (h : At text ⟨i, cs⟩) (depth : Nat) :
    scanBytes text (fun _ i => (false, i)) (recoverTurn delimiter.closing) depth i =
      .ok (recovered (skipField delimiter depth ⟨i, cs⟩)) := by
  induction cs generalizing i depth with
  | nil => exact scanBytes_nil h
  | cons c cs ih =>
      by_cases hstop : depth = 0 ∧ (c = ',' ∨ c = '@' ∨ c = delimiter.closing)
      · have hskip : skipField delimiter depth ⟨i, c :: cs⟩ = ⟨i, c :: cs⟩ := by
          simp [skipField, untilField, hstop, Cursor.after]
        rw [hskip]
        refine scanBytes_done h ?_
        obtain ⟨rfl, rfl | rfl | rfl⟩ := hstop
        · rfl
        · rfl
        · cases delimiter <;> rfl
      · have hskip : skipField delimiter depth ⟨i, c :: cs⟩ = skipField delimiter
            (if c = '{' then depth + 1 else if c = '}' then depth - 1 else depth)
            ⟨i + c.utf8Size, cs⟩ := by
          simp [skipField, untilField, hstop, Cursor.after, Nat.add_assoc]
        rw [hskip, ← ih h.next]
        refine scanBytes_next h (recoverTurn_pass hstop) fun _ _ => ?_
        simp [recoverTurn]

theorem recover_at (h : At text k) :
    recover text delimiter.closing k.offset = .ok (recovered (skipField delimiter 0 k)) :=
  recover_scan h 0

/-- Recovering at a character that starts no field, inside the group it may open. -/
theorem recover_nameless (h : At text ⟨i, c :: cs⟩) (hclose : c ≠ delimiter.closing)
    (hcomma : c ≠ ',') (hat : c ≠ '@') :
    recover text delimiter.closing i =
      .ok (recovered (skipField delimiter (if c = '{' then 1 else 0) ⟨i + c.utf8Size, cs⟩)) := by
  have hskip : skipField delimiter 0 ⟨i, c :: cs⟩ =
      skipField delimiter (if c = '{' then 1 else 0) ⟨i + c.utf8Size, cs⟩ := by
    simp [skipField, untilField, hclose, hcomma, hat, Cursor.after, Nat.add_assoc]
  rw [← hskip]
  exact recover_at h

def fieldSpan (f : Field) : Span × List Char := (f.name.span, f.value)

/-- What a step among the fields does to what was read before. -/
def Gathered.turn (read : Gathered) : Fields.Step → Turn Gathered FieldsRead
  | .stop terminated k => .done ⟨read.1, read.2, terminated, k.offset⟩
  | .go field events k => .on (read.1 ++ field.toList.map fieldSpan, read.2 ++ events) k.offset
  | .abandon events k => .done ⟨read.1, read.2 ++ events, false, k.offset⟩

variable {read : Gathered}

theorem recoverField_eq {fault : Diagnostic} {depth : Nat}
    (h : recover text delimiter.closing i = .ok (recovered (skipField delimiter depth k))) :
    recoverField text delimiter.closing read fault i =
      .ok (read.turn (.recover delimiter fault depth k)) := by
  rw [recoverField, h, ok_bind, Fields.Step.recover, recovered]
  cases fieldsGoOn (skipField delimiter depth k) <;> simp [Gathered.turn]

theorem fieldValue_at (h : At text k) (name : Symbol) :
    fieldValue text delimiter.closing read name.span k.offset =
      .ok (read.turn (.value delimiter name k)) := by
  rw [fieldValue, value_at h, ok_bind, Fields.Step.value]
  cases (Value.read delimiter k).text <;> simp [Gathered.turn, fieldSpan]

/-- What stands behind the name of a field. -/
theorem namedField_at (h : At text ⟨i, c :: cs⟩) (hclose : c ≠ delimiter.closing)
    (hcomma : c ≠ ',') (hat : c ≠ '@') (hname : (readName ⟨i, c :: cs⟩).1 ≠ []) :
    namedField text delimiter.closing read ⟨i, (readName ⟨i, c :: cs⟩).2.offset⟩ =
      .ok (read.turn (.read delimiter ⟨i, c :: cs⟩)) := by
  have hafter := at_readName h
  have hsign := at_skipBlanks hafter
  rw [namedField, blanksEnd_at hafter, ok_bind]
  by_cases hassign : ∃ more, (skipBlanks (readName ⟨i, c :: cs⟩).2).rest = '=' :: more
  · rw [if_pos ((ascii?_eq_some_iff (by decide) hsign).2 hassign)]
    obtain ⟨more, hmore⟩ := hassign
    rw [Fields.Step.read_assignment hclose hcomma hat hname hmore]
    exact fieldValue_at (hafter.trans (reaches_sign hmore)) (Symbol.ofText i _)
  · rw [if_neg (mt (ascii?_eq_some_iff (by decide) hsign).1 hassign),
      Fields.Step.read_signless hclose hcomma hat hname fun more hmore => hassign ⟨more, hmore⟩]
    exact recoverField_eq (recover_at hsign)

theorem fieldTurn_at (h : At text k) :
    fieldTurn text delimiter.closing read k.offset =
      .ok (read.turn (.read delimiter (skipBlanks k))) := by
  have hhere := at_skipBlanks h
  rw [fieldTurn, blanksEnd_at h, ok_bind]
  generalize skipBlanks k = here at hhere
  obtain ⟨i, cs⟩ := here
  cases cs with
  | nil =>
      have hlength := hhere.length_eq
      rw [utf8Length_nil, Nat.add_zero] at hlength
      simp [hlength, Fields.Step.read, Gathered.turn]
  | cons c cs =>
      simp only [first_byte_at hhere, ofChar_eq_some_iff (ascii_closing delimiter)]
      by_cases hclose : c = delimiter.closing
      · have hsize := Char.utf8Size_eq_one_iff.2 (ascii_closing delimiter)
        subst hclose
        simp [Fields.Step.read, Gathered.turn, hsize]
      by_cases hcomma : c = ','
      · subst hcomma
        simp [Fields.Step.read, Gathered.turn, hclose]
        rfl
      by_cases hat : c = '@'
      · subst hat
        simp [Fields.Step.read, Gathered.turn, hclose]
      · have hbyte {a : Char} (ha : a.val ≤ 127) (hne : c ≠ a) : Byte.ofChar c ≠ some a :=
          mt (ofChar_eq_some_iff ha).1 hne
        rw [if_neg hclose, if_neg (hbyte (by decide) hcomma), if_neg (hbyte (by decide) hat),
          nameEnd_at hhere, ok_bind]
        by_cases hname : (readName ⟨i, c :: cs⟩).1 = []
        · rw [if_pos (readName_offset_eq_iff.2 hname),
            Fields.Step.read_nameless hclose hcomma hat hname]
          exact recoverField_eq (recover_nameless hhere hclose hcomma hat)
        · rw [if_neg (mt readName_offset_eq_iff.1 hname)]
          exact namedField_at hhere hclose hcomma hat hname

/-- The loop over the fields, with what was gathered before. -/
theorem fields_loop (h : At text k) (read : Gathered) :
    loop text (fieldTurn text delimiter.closing) read k.offset =
      .ok ⟨read.1 ++ (Fields.read delimiter k).fields.map fieldSpan,
        read.2 ++ (Fields.read delimiter k).events, (Fields.read delimiter k).terminated,
        (Fields.read delimiter k).next.offset⟩ := by
  induction k using Fields.read_induction delimiter generalizing read with
  | stop k terminated k' hstep =>
      refine loop_done ((fieldTurn_at h).trans ?_)
      rw [hstep, Fields.read_of_stop hstep]
      simp [Gathered.turn, Fields.stop]
  | go k field events k' hstep ih =>
      have hreach := (reaches_skipBlanks k).trans (hstep ▸ Fields.Step.reaches_read delimiter _)
      have hlt := h.lt_of_reaches hreach
        (Nat.lt_of_lt_of_le (Fields.Step.go_length hstep) (reaches_skipBlanks k).length_le)
      have hturn := @fieldTurn_at text k delimiter read h
      rw [hstep] at hturn
      rw [loop_on hturn hlt.1 hlt.2, ih (h.trans hreach), Fields.read_of_go hstep]
      simp
  | abandon k events k' hstep =>
      refine loop_done ((fieldTurn_at h).trans ?_)
      rw [hstep, Fields.read_of_abandon hstep]
      simp [Gathered.turn]

theorem fields_at (h : At text k) :
    fields text delimiter.closing k.offset =
      .ok ⟨(Fields.read delimiter k).fields.map fieldSpan, (Fields.read delimiter k).events,
        (Fields.read delimiter k).terminated, (Fields.read delimiter k).next.offset⟩ :=
  fields_loop h ([], [])

/-! ## The names of fields -/

/-- After a fault no field was read. -/
theorem recover_ne_field {fault : Diagnostic} {depth : Nat} {f : Field} {events : List Event}
    {next : Cursor} : Fields.Step.recover delimiter fault depth k ≠ .go (some f) events next := by
  rw [Fields.Step.recover]
  cases fieldsGoOn (skipField delimiter depth k) <;> simp

theorem name_of_value {name : Symbol} {f : Field} {events : List Event} {next : Cursor}
    (h : Fields.Step.value delimiter name k = .go (some f) events next) : f.name = name := by
  rw [Fields.Step.value] at h
  cases htext : (Value.read delimiter k).text with
  | none => simp [htext] at h
  | some value =>
      simp only [htext, Fields.Step.go.injEq, Option.some.injEq] at h
      exact h.1 ▸ rfl

/-- A field that a step reads has its name there. -/
theorem name_of_go {f : Field} {events : List Event} {next : Cursor}
    (h : Fields.Step.read delimiter k = .go (some f) events next) :
    f.name = .ofText k.offset (readName k).1 := by
  obtain ⟨i, cs⟩ := k
  cases cs with
  | nil => cases h
  | cons c cs =>
      by_cases hclose : c = delimiter.closing
      · simp only [Fields.Step.read, if_pos hclose] at h
        cases h
      by_cases hcomma : c = ','
      · simp only [Fields.Step.read, if_neg hclose, if_pos hcomma] at h
        cases h
      by_cases hat : c = '@'
      · simp only [Fields.Step.read, if_neg hclose, if_neg hcomma, if_pos hat] at h
        cases h
      by_cases hname : (readName ⟨i, c :: cs⟩).1 = []
      · exact absurd (Fields.Step.read_nameless hclose hcomma hat hname ▸ h) recover_ne_field
      by_cases hassign : ∃ more, (skipBlanks (readName ⟨i, c :: cs⟩).2).rest = '=' :: more
      · obtain ⟨more, hmore⟩ := hassign
        exact name_of_value (Fields.Step.read_assignment hclose hcomma hat hname hmore ▸ h)
      · have hsignless := Fields.Step.read_signless hclose hcomma hat hname
          fun more hmore => hassign ⟨more, hmore⟩
        exact absurd (hsignless ▸ h) recover_ne_field

/-- The text has the name of a field where its span says. -/
theorem slice_name (h : At text k) {f : Field} (hf : f ∈ (Fields.read delimiter k).fields) :
    slice text f.name.span.start f.name.span.stop = .ok f.name.name.toList := by
  induction k using Fields.read_induction delimiter with
  | stop k terminated k' hstep =>
      rw [Fields.read_of_stop hstep] at hf
      cases hf
  | go k field events k' hstep ih =>
      have hreach := (reaches_skipBlanks k).trans (hstep ▸ Fields.Step.reaches_read delimiter _)
      rw [Fields.read_of_go hstep] at hf
      rcases List.mem_append.1 hf with hhere | hlater
      · obtain rfl : field = some f := Option.mem_toList.1 hhere
        rw [name_of_go hstep, Symbol.ofText, String.toList_ofList]
        exact slice_upTo (at_skipBlanks h)
      · exact ih (h.trans hreach) hlater
  | abandon k events k' hstep =>
      rw [Fields.read_of_abandon hstep] at hf
      cases hf

end

end Manuscript.Bytewise

/-
# Manuscript.Proofs.Bibtex.Reading -- the readers of a bibliography, one step at a time

What a value, a list of fields and a block are read to is a matter of their first step and of
what is read after it.  The equations are stated here once, over cursors, so that a proof about
a text follows the text and not the recursion of its readers.

White space before a value or before fields does not matter (`Value.read_skipBlanks`,
`Fields.read_skipBlanks`), and neither does text between blocks (`scan_congr`).
-/
import Manuscript.Proofs.Bibtex.Markup
import Manuscript.Proofs.Bibtex.Placement

namespace Manuscript.Bibtex

set_option autoImplicit false

open Text

/-! ## White space and names -/

theorem skipBlanks_append {blanks : List Char} (h : ∀ c ∈ blanks, isAsciiBlank c = true)
    (o : Nat) (rest : List Char) :
    skipBlanks ⟨o, blanks ++ rest⟩ = skipBlanks ⟨o + utf8Length blanks, rest⟩ := by
  have hsplit := Cursor.split_startsWith_append (p := (!isAsciiBlank ·))
    (fun c hc => by rw [h c hc]; rfl) rest
  simp only [skipBlanks, Cursor.upTo, hsplit, Cursor.after, utf8Length_append, Nat.add_assoc]

theorem skipBlanks_here {k : Cursor} (h : startsWith isAsciiBlank k.rest = false) :
    skipBlanks k = k := by
  obtain ⟨o, rest⟩ := k
  have hsplit := @Cursor.split_startsWith (!isAsciiBlank ·) [] rest (fun _ h => by cases h) (by
    cases rest with
    | nil => exact Or.inl rfl
    | cons c cs =>
        have hc : isAsciiBlank c = false := h
        exact Or.inr (by simp [startsWith, hc]))
  simp only [List.nil_append] at hsplit
  simp [skipBlanks, Cursor.upTo, hsplit, Cursor.after]

/-- After blanks there is no blank. -/
theorem startsWith_skipBlanks (k : Cursor) :
    startsWith isAsciiBlank (skipBlanks k).rest = false := by
  obtain ⟨o, rest⟩ := k
  show startsWith isAsciiBlank (Cursor.split _ rest).2 = false
  induction rest with
  | nil => rfl
  | cons c cs ih =>
      rw [Cursor.split]
      split
      · rename_i hc
        simpa [startsWith] using hc
      · exact ih

@[simp] theorem skipBlanks_skipBlanks (k : Cursor) : skipBlanks (skipBlanks k) = skipBlanks k :=
  skipBlanks_here (startsWith_skipBlanks k)

theorem readName_append {name : List Char} (h : ∀ c ∈ name, isNameChar c = true) {rest : List Char}
    (hrest : startsWith isNameChar rest = false) (o : Nat) :
    readName ⟨o, name ++ rest⟩ = (name, ⟨o + utf8Length name, rest⟩) := by
  have hsplit := @Cursor.split_startsWith (!isNameChar ·) name rest
    (fun c hc => by rw [h c hc]; rfl) (by
      cases rest with
      | nil => exact Or.inl rfl
      | cons c cs =>
          have hc : isNameChar c = false := hrest
          exact Or.inr (by simp [startsWith, hc]))
  simp only [readName, Cursor.upTo, hsplit]
  rfl

theorem readName_rest (k : Cursor) : k.rest = (readName k).1 ++ (readName k).2.rest :=
  (Cursor.upTo_append _ k).symm

theorem reaches_readName (k : Cursor) : k.Reaches (readName k).2 := Cursor.reaches_upTo _ k

theorem isNameChar_of_mem_readName (k : Cursor) : ∀ c ∈ (readName k).1, isNameChar c = true := by
  intro c hc
  have := Cursor.forall_mem_split (!isNameChar ·) k.rest c hc
  simpa using this

/-- A name is read to its end. -/
theorem startsWith_readName (k : Cursor) :
    startsWith isNameChar (readName k).2.rest = false := by
  have hstop := Cursor.split_stop (startsWith (!isNameChar ·)) k.rest
  show startsWith isNameChar (Cursor.split _ k.rest).2 = false
  rcases hstop with hnil | hstop
  · rw [hnil]
    rfl
  · cases hrest : (Cursor.split (startsWith (!isNameChar ·)) k.rest).2 with
    | nil => rfl
    | cons c cs =>
        rw [hrest] at hstop
        simpa [startsWith] using hstop

/-- A character of a name is none that is not. -/
theorem ne_of_isNameChar {c d : Char} (hc : isNameChar c = true) (hd : isNameChar d = false) :
    c ≠ d := by
  rintro rfl
  rw [hc] at hd
  cases hd

namespace Markup

/-- No word goes on with the text. -/
def EndsWord (rest : List Char) : Prop := startsWith isNameChar rest = false

theorem endsWord_cons {c : Char} (h : isNameChar c = false) (rest : List Char) :
    EndsWord (c :: rest) := h

theorem isNameChar_of_isAsciiBlank {c : Char} (h : isAsciiBlank c = true) :
    isNameChar c = false := by
  simp only [isAsciiBlank, Bool.or_eq_true, beq_iff_eq] at h
  rcases h with (((rfl | rfl) | rfl) | rfl) | rfl <;> decide

theorem endsWord_blanks (blanks : Blanks) {rest : List Char} (h : EndsWord rest) :
    EndsWord (blanks.text ++ rest) := by
  obtain ⟨text, hblank⟩ := blanks
  cases text with
  | nil => exact h
  | cons c text => exact isNameChar_of_isAsciiBlank (hblank c List.mem_cons_self)

theorem skipBlanks_blanks (blanks : Blanks) {c : Char} (hc : isAsciiBlank c = false) (o : Nat)
    (rest : List Char) :
    skipBlanks ⟨o, blanks.text ++ c :: rest⟩ = ⟨o + utf8Length blanks.text, c :: rest⟩ := by
  rw [skipBlanks_append blanks.blank, skipBlanks_here]
  exact hc

end Markup

/-! ## Pieces -/

theorem readName_eq_nil_iff {o : Nat} {c : Char} {cs : List Char} :
    (readName ⟨o, c :: cs⟩).1 = [] ↔ isNameChar c = false := by
  cases hc : isNameChar c <;> simp [readName, Cursor.upTo, Cursor.split, startsWith, hc]

namespace Piece

variable {delimiter : Delimiter} {o : Nat} {c : Char} {cs : List Char}

/-- A place where no text in braces or quotes starts. -/
theorem read_other (hopen : c ≠ '{') (hquote : c ≠ '"') :
    read delimiter ⟨o, c :: cs⟩ =
      if (c = delimiter.closing ∨ c = ',') ∨ isNameChar c = false then .nothing
      else .word (Symbol.ofText o (readName ⟨o, c :: cs⟩).1) (readName ⟨o, c :: cs⟩).2 := by
  unfold read
  split
  · rename_i h
    cases h
  · rename_i h
    exact absurd (List.cons.inj h).1 hopen
  · rename_i h
    exact absurd (List.cons.inj h).1 hquote
  · rename_i h
    cases h
    by_cases hend : c = delimiter.closing ∨ c = ','
    · rw [if_pos hend, if_pos (Or.inl hend)]
    · have hnil := @readName_eq_nil_iff o c cs
      cases hname : readName ⟨o, c :: cs⟩ with
      | mk name next =>
          rw [hname] at hnil
          cases name <;> simp_all

end Piece

/-! ## Values -/

namespace Value

variable {delimiter : Delimiter} {k next : Cursor}

/-- A value that starts with no piece. -/
theorem read_of_none (h : (Piece.read delimiter (skipBlanks k)).next? = none) :
    read delimiter k = ⟨if Piece.read delimiter (skipBlanks k) = .unclosed then none else some [],
      [], skipBlanks k⟩ := by
  rw [read]
  simp only
  split
  · rfl
  · rename_i next hnext
    rw [h] at hnext
    cases hnext

/-- A value that ends with its first piece. -/
theorem read_of_last (h : (Piece.read delimiter (skipBlanks k)).next? = some next)
    (hend : ∀ rest, (skipBlanks next).rest ≠ '#' :: rest) :
    read delimiter k = ⟨some (Piece.read delimiter (skipBlanks k)).content,
      (Piece.read delimiter (skipBlanks k)).reference?.toList, skipBlanks next⟩ := by
  rw [read]
  simp only
  split
  · rename_i hnone
    rw [h] at hnone
    cases hnone
  · rename_i next' hnext
    rw [h] at hnext
    cases hnext
    split
    · rename_i rest hrest
      exact absurd hrest (hend rest)
    · rfl

/-- A value that goes on after its first piece. -/
theorem read_of_more (h : (Piece.read delimiter (skipBlanks k)).next? = some next)
    {rest : List Char} (hmore : (skipBlanks next).rest = '#' :: rest) :
    read delimiter k =
      let more := read delimiter ⟨(skipBlanks next).offset + 1, rest⟩
      ⟨more.text.map ((Piece.read delimiter (skipBlanks k)).content ++ ·),
        (Piece.read delimiter (skipBlanks k)).reference?.toList ++ more.references, more.next⟩ := by
  rw [read]
  simp only
  split
  · rename_i hnone
    rw [h] at hnone
    cases hnone
  · rename_i next' hnext
    rw [h] at hnext
    cases hnext
    split
    · rename_i rest' hrest
      rw [hmore] at hrest
      cases hrest
      rfl
    · rename_i hno
      exact absurd hmore (hno rest)

/-- A value is read up, one piece after another. -/
theorem read_induction (delimiter : Delimiter) {motive : Cursor → Prop}
    (nothing : ∀ k, (Piece.read delimiter (skipBlanks k)).next? = none → motive k)
    (last : ∀ k next, (Piece.read delimiter (skipBlanks k)).next? = some next →
      (∀ rest, (skipBlanks next).rest ≠ '#' :: rest) → motive k)
    (more : ∀ k next rest, (Piece.read delimiter (skipBlanks k)).next? = some next →
      (skipBlanks next).rest = '#' :: rest → motive ⟨(skipBlanks next).offset + 1, rest⟩ →
      motive k)
    (k : Cursor) : motive k := by
  induction k using read.induct delimiter with
  | case1 k _ _ h => exact nothing k h
  | case2 k _ _ next h _ rest hrest ih => exact more k next rest h hrest ih
  | case3 k _ _ next h _ hend => exact last k next h hend

/-- Blanks before a value do not matter. -/
theorem read_skipBlanks (delimiter : Delimiter) (k : Cursor) :
    read delimiter (skipBlanks k) = read delimiter k := by
  have htwice := skipBlanks_skipBlanks k
  cases h : (Piece.read delimiter (skipBlanks k)).next? with
  | none => rw [read_of_none h, read_of_none (by rw [htwice]; exact h), htwice]
  | some next =>
      by_cases hmore : ∃ rest, (skipBlanks next).rest = '#' :: rest
      · obtain ⟨rest, hmore⟩ := hmore
        rw [read_of_more h hmore, read_of_more (by rw [htwice]; exact h) hmore, htwice]
      · have hend : ∀ rest, (skipBlanks next).rest ≠ '#' :: rest := fun rest hrest =>
          hmore ⟨rest, hrest⟩
        rw [read_of_last h hend, read_of_last (by rw [htwice]; exact h) hend, htwice]

end Value

/-! ## Fields -/

namespace Fields.Step

variable {delimiter : Delimiter} {o : Nat} {c : Char} {cs : List Char}

/-- A step at a place where neither the fields nor one of them end. -/
theorem read_inside (hclose : c ≠ delimiter.closing) (hcomma : c ≠ ',') (hat : c ≠ '@') :
    read delimiter ⟨o, c :: cs⟩ =
      match readName ⟨o, c :: cs⟩ with
      | ([], _) => recover delimiter (missingEquals ⟨o, o + 1⟩) (if c = '{' then 1 else 0)
          ⟨o + c.utf8Size, cs⟩
      | (name, after) =>
          match (skipBlanks after).rest with
          | '=' :: cs => value delimiter (Symbol.ofText o name) ((skipBlanks after).after ['='] cs)
          | _ => recover delimiter (missingEquals (Symbol.ofText o name).span) 0
              (skipBlanks after) :=
  (if_neg hclose).trans ((if_neg hcomma).trans (if_neg hat))

theorem read_nameless (hclose : c ≠ delimiter.closing) (hcomma : c ≠ ',') (hat : c ≠ '@')
    (hname : (readName ⟨o, c :: cs⟩).1 = []) :
    read delimiter ⟨o, c :: cs⟩ = recover delimiter (missingEquals ⟨o, o + 1⟩)
      (if c = '{' then 1 else 0) ⟨o + c.utf8Size, cs⟩ := by
  rw [read_inside hclose hcomma hat]
  generalize readName ⟨o, c :: cs⟩ = found at hname
  obtain ⟨name, after⟩ := found
  obtain rfl : name = [] := hname
  rfl

theorem read_assignment (hclose : c ≠ delimiter.closing) (hcomma : c ≠ ',') (hat : c ≠ '@')
    (hname : (readName ⟨o, c :: cs⟩).1 ≠ []) {more : List Char}
    (hsign : (skipBlanks (readName ⟨o, c :: cs⟩).2).rest = '=' :: more) :
    read delimiter ⟨o, c :: cs⟩ = value delimiter (Symbol.ofText o (readName ⟨o, c :: cs⟩).1)
      ((skipBlanks (readName ⟨o, c :: cs⟩).2).after ['='] more) := by
  rw [read_inside hclose hcomma hat]
  generalize readName ⟨o, c :: cs⟩ = found at hname hsign ⊢
  obtain ⟨name, after⟩ := found
  cases name with
  | nil => exact absurd rfl hname
  | cons d name => simp only [hsign]

theorem read_signless (hclose : c ≠ delimiter.closing) (hcomma : c ≠ ',') (hat : c ≠ '@')
    (hname : (readName ⟨o, c :: cs⟩).1 ≠ [])
    (hsign : ∀ more, (skipBlanks (readName ⟨o, c :: cs⟩).2).rest ≠ '=' :: more) :
    read delimiter ⟨o, c :: cs⟩ = recover delimiter
      (missingEquals (Symbol.ofText o (readName ⟨o, c :: cs⟩).1).span) 0
      (skipBlanks (readName ⟨o, c :: cs⟩).2) := by
  rw [read_inside hclose hcomma hat]
  generalize readName ⟨o, c :: cs⟩ = found at hname hsign ⊢
  obtain ⟨name, after⟩ := found
  cases name with
  | nil => exact absurd rfl hname
  | cons d name =>
      dsimp only at hsign ⊢
      split
      · rename_i more hmore
        exact absurd hmore (hsign more)
      · rfl

end Fields.Step

namespace Fields

variable {delimiter : Delimiter} {k k' : Cursor}

theorem read_of_stop {terminated : Bool}
    (h : Step.read delimiter (skipBlanks k) = .stop terminated k') :
    read delimiter k = stop terminated k' := by
  rw [read]
  simp only
  split <;> rename_i h' <;> rw [h] at h' <;> cases h'
  rfl

theorem read_of_go {field : Option Field} {events : List Event}
    (h : Step.read delimiter (skipBlanks k) = .go field events k') :
    read delimiter k =
      { read delimiter k' with
        fields := field.toList ++ (read delimiter k').fields
        events := events ++ (read delimiter k').events } := by
  rw [read]
  simp only
  split <;> rename_i h' <;> rw [h] at h' <;> cases h'
  rfl

theorem read_of_abandon {events : List Event}
    (h : Step.read delimiter (skipBlanks k) = .abandon events k') :
    read delimiter k = ⟨[], events, false, k'⟩ := by
  rw [read]
  simp only
  split <;> rename_i h' <;> rw [h] at h' <;> cases h'
  rfl

/-- Fields are read up, one step after another. -/
theorem read_induction (delimiter : Delimiter) {motive : Cursor → Prop}
    (stop : ∀ k terminated k', Step.read delimiter (skipBlanks k) = .stop terminated k' → motive k)
    (go : ∀ k field events k', Step.read delimiter (skipBlanks k) = .go field events k' →
      motive k' → motive k)
    (abandon : ∀ k events k', Step.read delimiter (skipBlanks k) = .abandon events k' → motive k)
    (k : Cursor) : motive k := by
  induction k using read.induct delimiter with
  | case1 k _ terminated k' h => exact stop k terminated k' h
  | case2 k _ field events k' h ih => exact go k field events k' h ih
  | case3 k _ events k' h => exact abandon k events k' h

/-- Blanks before fields do not matter. -/
theorem read_skipBlanks (delimiter : Delimiter) (k : Cursor) :
    read delimiter (skipBlanks k) = read delimiter k := by
  have htwice := skipBlanks_skipBlanks k
  cases h : Step.read delimiter (skipBlanks k) with
  | stop terminated k' => rw [read_of_stop h, read_of_stop (by rw [htwice]; exact h)]
  | go field events k' => rw [read_of_go h, read_of_go (by rw [htwice]; exact h)]
  | abandon events k' => rw [read_of_abandon h, read_of_abandon (by rw [htwice]; exact h)]

end Fields

/-! ## Blocks -/

namespace Block

open Markup

variable {start : Nat} {k : Cursor}

theorem read_nameless (hname : (readName k).1 = []) : read start k = ⟨[], k⟩ := by
  unfold read
  split
  · rfl
  · rename_i hne hread
    rw [hread] at hname
    exact absurd hname hne

/-- A block whose type is followed by a delimiter. -/
theorem read_opened (hname : (readName k).1 ≠ []) {delimiter : Delimiter} {rest : List Char}
    (hopen : (skipBlanks (readName k).2).rest = opening delimiter :: rest) :
    read start k = content start (String.ofList (lower (readName k).1)) delimiter
      ⟨(skipBlanks (readName k).2).offset + 1, rest⟩ := by
  unfold read
  split
  · rename_i hread
    rw [hread] at hname
    exact absurd rfl hname
  · rename_i hread
    rw [hread] at hopen ⊢
    cases delimiter <;> (simp only [opening] at hopen; simp only [hopen]; rfl)

theorem read_unopened (hname : (readName k).1 ≠ [])
    (hopen : ∀ delimiter rest, (skipBlanks (readName k).2).rest ≠ opening delimiter :: rest) :
    read start k = ⟨[.fault (missingDelimiter (String.ofList (lower (readName k).1))
      ⟨start, (readName k).2.offset⟩)], skipBlanks (readName k).2⟩ := by
  unfold read
  split
  · rename_i hread
    rw [hread] at hname
    exact absurd rfl hname
  · rename_i hread
    rw [hread] at hopen ⊢
    dsimp only at hopen ⊢
    split
    · rename_i rest hrest
      exact absurd hrest (hopen .brace rest)
    · rename_i rest hrest
      exact absurd hrest (hopen .parenthesis rest)
    · rfl

end Block

namespace Markup

variable {delimiter : Delimiter}

theorem head_eq (kind : Word) (blanks : Blanks) (delimiter : Delimiter) (rest : List Char) :
    head kind blanks delimiter ++ rest =
      '@' :: (kind.text ++ (blanks.text ++ opening delimiter :: rest)) := by
  simp [head]

/-- A block is read as what its head announces. -/
theorem block_at (kind : Word) (blanks : Blanks) (delimiter : Delimiter) (o : Nat)
    (rest : List Char) :
    Block.at o '@' (kind.text ++ (blanks.text ++ opening delimiter :: rest)) =
      Block.content o (String.ofList (lower kind.text)) delimiter
        ⟨o + utf8Length (head kind blanks delimiter), rest⟩ := by
  obtain ⟨name, hne, hname⟩ := kind
  have hopening : isAsciiBlank (opening delimiter) = false ∧
      isNameChar (opening delimiter) = false ∧ (opening delimiter).utf8Size = 1 := by
    cases delimiter <;> decide
  obtain ⟨hblank, hword, hsize⟩ := hopening
  have hread := readName_append hname (endsWord_blanks blanks (endsWord_cons hword rest)) (o + 1)
  have hhere := skipBlanks_blanks blanks hblank (o + 1 + utf8Length name) rest
  have hlength : o + 1 + utf8Length name + utf8Length blanks.text + 1 =
      o + utf8Length (head ⟨name, hne, hname⟩ blanks delimiter) := by
    have hat : Char.utf8Size '@' = 1 := by decide
    simp only [head, utf8Length_cons, utf8Length_append, utf8Length_nil, hsize, hat]
    omega
  have hopened := @Block.read_opened o ⟨o + 1, name ++ (blanks.text ++ opening delimiter :: rest)⟩
    (by rw [hread]; exact hne) delimiter rest (by rw [hread, hhere])
  rw [hread, hhere, hlength] at hopened
  exact hopened

theorem startsWith_key (key : Key delimiter) (rest : List Char) :
    startsWith isAsciiBlank (key.text ++ rest) = false := by
  obtain ⟨text, hne, hchars⟩ := key
  cases text with
  | nil => exact absurd rfl hne
  | cons c text =>
      have hc := hchars c List.mem_cons_self
      simp only [isKeyChar, Bool.and_eq_true, Bool.not_eq_true'] at hc
      exact hc.2

/-- A key is read up to where no key goes on. -/
theorem key_read (key : Key delimiter) {rest : List Char}
    (hrest : rest = [] ∨ Block.endsKey delimiter rest = true) (o : Nat) :
    Cursor.upTo (Block.endsKey delimiter) ⟨o, key.text ++ rest⟩ =
      (key.text, ⟨o + utf8Length key.text, rest⟩) := by
  have hkey : ∀ c ∈ key.text, (c == ',' || c == delimiter.closing || c == '{' || c == '}' ||
      isAsciiBlank c) = false := by
    intro c hc
    have hchar := key.chars c hc
    simp only [isKeyChar, List.mem_cons, List.not_mem_nil, or_false, not_or, Bool.and_eq_true,
      decide_eq_true_eq, Bool.not_eq_true'] at hchar
    simp [hchar]
  have hsplit := Cursor.split_startsWith hkey hrest
  simp only [Cursor.upTo, Block.endsKey, hsplit]
  rfl

end Markup

/-- A scan goes on with the next block, however far away that is. -/
theorem scan_congr {k k' : Cursor} (h : nextBlock k = nextBlock k') : scan k = scan k' := by
  cases hrest : (nextBlock k).rest with
  | nil =>
      have hrest' : (nextBlock k').rest = [] := h ▸ hrest
      rw [scan_of_nil hrest, scan_of_nil hrest']
  | cons c cs =>
      have hrest' : (nextBlock k').rest = c :: cs := h ▸ hrest
      rw [scan_of_cons hrest, scan_of_cons hrest', h]

end Manuscript.Bibtex

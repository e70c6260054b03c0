/-
# Manuscript.Bibtex.Value -- the value of a field

A value is made of pieces joined by number signs: text in braces, text in quotes,
or a bare word, which refers to a declared string unless it starts with a digit.
Its text is that of its pieces, with braces dropped and blanks squeezed.

Reading a value ends without a text when the input ends inside it; the reading then
goes on at the piece that never closes.
-/
import Manuscript.Bibtex.Structure
import Manuscript.Text.Cursor

namespace Manuscript.Bibtex

set_option autoImplicit false

open Text

/-- The characters of entry types, field names and bare words. -/
def isNameChar (c : Char) : Bool :=
  c.isAlphanum || c == '_' || c == '-' || c == ':' || c == '.' || c == '+' || c == '/'

/-- The place after any ASCII white space. -/
def skipBlanks (k : Cursor) : Cursor := (k.upTo (startsWith (!isAsciiBlank ·))).2

/-- The longest name at a place, perhaps empty. -/
def readName (k : Cursor) : List Char × Cursor := k.upTo (startsWith (!isNameChar ·))

/-- The two ways to delimit an entry. -/
inductive Delimiter where
  | brace
  | parenthesis
deriving DecidableEq, Repr

def Delimiter.closing : Delimiter → Char
  | .brace => '}'
  | .parenthesis => ')'

/-! ## Pieces -/

/-- The text before the brace that closes a group with `depth` groups open inside it, and
what follows that brace. -/
def inBraces? (depth : Nat) (escaped : Bool) : List Char → Option (List Char × List Char)
  | [] => none
  | c :: cs =>
      let go := fun (depth : Nat) (escaped : Bool) =>
        (inBraces? depth escaped cs).map fun (read, rest) => (c :: read, rest)
      if escaped then go depth false
      else if c = '\\' then go depth true
      else if c = '{' then go (depth + 1) false
      else if c = '}' then
        match depth with
        | 0 => some ([], cs)
        | depth + 1 => go depth false
      else go depth false

/-- The text before the quote that closes a string, and what follows it.  Quotes inside
braces do not close it. -/
def inQuotes? (depth : Nat) (escaped : Bool) : List Char → Option (List Char × List Char)
  | [] => none
  | c :: cs =>
      let go := fun (depth : Nat) (escaped : Bool) =>
        (inQuotes? depth escaped cs).map fun (read, rest) => (c :: read, rest)
      if escaped then go depth false
      else if c = '\\' then go depth true
      else if c = '{' then go (depth + 1) false
      else if c = '}' then go (depth - 1) false
      else if c = '"' ∧ depth = 0 then some ([], cs)
      else go depth false

inductive Piece where
  /-- Text in braces or quotes. -/
  | text (content : List Char) (next : Cursor)
  | word (name : Symbol) (next : Cursor)
  /-- No piece starts here. -/
  | nothing
  /-- The input ends inside the piece. -/
  | unclosed
deriving DecidableEq, Repr

namespace Piece

/-- The piece that starts at a place without white space before it. -/
def read (delimiter : Delimiter) (k : Cursor) : Piece :=
  match k.rest with
  | [] => .unclosed
  | '{' :: cs =>
      match inBraces? 0 false cs with
      | some (content, rest) => .text content (k.after ('{' :: content ++ ['}']) rest)
      | none => .unclosed
  | '"' :: cs =>
      match inQuotes? 0 false cs with
      | some (content, rest) => .text content (k.after ('"' :: content ++ ['"']) rest)
      | none => .unclosed
  | c :: _ =>
      if c = delimiter.closing ∨ c = ',' then .nothing
      else match readName k with
        | ([], _) => .nothing
        | (name, next) => .word (Symbol.ofText k.offset name) next

def content : Piece → List Char
  | .text content _ => content
  | .word name _ => name.name.toList
  | _ => []

/-- The string a piece refers to: names cannot start with a digit. -/
def reference? : Piece → Option Symbol
  | .word name _ => if startsWith Char.isDigit name.name.toList then none else some name
  | _ => none

def next? : Piece → Option Cursor
  | .text _ next => some next
  | .word _ next => some next
  | _ => none

end Piece

theorem inBraces?_append {depth : Nat} {escaped : Bool} {cs read rest : List Char}
    (h : inBraces? depth escaped cs = some (read, rest)) : read ++ '}' :: rest = cs := by
  induction cs generalizing depth escaped read rest with
  | nil => simp [inBraces?] at h
  | cons c cs ih =>
    have step : ∀ d e, ((inBraces? d e cs).map fun p => (c :: p.1, p.2)) = some (read, rest) →
        read ++ '}' :: rest = c :: cs := by
      intro d e he
      obtain ⟨⟨r, s⟩, hr, hs⟩ := Option.map_eq_some_iff.1 he
      simp only [Prod.mk.injEq] at hs
      obtain ⟨rfl, rfl⟩ := hs
      simp [ih hr]
    unfold inBraces? at h
    repeat' split at h
    all_goals first
      | exact step _ _ h
      | (rename_i hc _; simp only [Option.some.injEq, Prod.mk.injEq] at h
         obtain ⟨rfl, rfl⟩ := h; simp [hc])

theorem inQuotes?_append {depth : Nat} {escaped : Bool} {cs read rest : List Char}
    (h : inQuotes? depth escaped cs = some (read, rest)) : read ++ '"' :: rest = cs := by
  induction cs generalizing depth escaped read rest with
  | nil => simp [inQuotes?] at h
  | cons c cs ih =>
    have step : ∀ d e, ((inQuotes? d e cs).map fun p => (c :: p.1, p.2)) = some (read, rest) →
        read ++ '"' :: rest = c :: cs := by
      intro d e he
      obtain ⟨⟨r, s⟩, hr, hs⟩ := Option.map_eq_some_iff.1 he
      simp only [Prod.mk.injEq] at hs
      obtain ⟨rfl, rfl⟩ := hs
      simp [ih hr]
    unfold inQuotes? at h
    repeat' split at h
    all_goals first
      | exact step _ _ h
      | (rename_i hc; simp only [Option.some.injEq, Prod.mk.injEq] at h
         obtain ⟨rfl, rfl⟩ := h; simp [hc.1])

theorem reaches_skipBlanks (k : Cursor) : k.Reaches (skipBlanks k) := Cursor.reaches_upTo _ k

/-- A piece is not empty. -/
theorem reaches_piece {delimiter : Delimiter} {k next : Cursor}
    (h : (Piece.read delimiter k).next? = some next) :
    k.Reaches next ∧ next.rest.length < k.rest.length := by
  unfold Piece.read at h
  split at h
  · simp [Piece.next?] at h
  · rename_i cs hcs
    split at h
    · rename_i content rest hr
      cases h
      have happ := inBraces?_append hr
      refine ⟨Cursor.reaches_after (by simp [hcs, happ]), ?_⟩
      simp [Cursor.after, hcs, ← happ]
      omega
    · simp [Piece.next?] at h
  · rename_i cs hcs
    split at h
    · rename_i content rest hr
      cases h
      have happ := inQuotes?_append hr
      refine ⟨Cursor.reaches_after (by simp [hcs, happ]), ?_⟩
      simp [Cursor.after, hcs, ← happ]
      omega
    · simp [Piece.next?] at h
  · split at h
    · simp [Piece.next?] at h
    · split at h
      · simp [Piece.next?] at h
      · rename_i name next' hne hr
        cases h
        have hreach := Cursor.reaches_upTo (startsWith (!isNameChar ·)) k
        have happ := Cursor.upTo_append (startsWith (!isNameChar ·)) k
        simp only [readName] at hr
        rw [hr] at hreach happ
        refine ⟨hreach, ?_⟩
        cases name with
        | nil => simp at hne
        | cons c name =>
            simp only [← happ, List.length_append, List.length_cons]
            omega

/-! ## Values -/

/-- What was read of a value: its text unless the input ended inside it, the strings it
refers to, and where reading goes on. -/
structure Value where
  text : Option (List Char)
  references : List Symbol
  next : Cursor
deriving DecidableEq, Repr

namespace Value

/-- The value at a place. -/
def read (delimiter : Delimiter) (k : Cursor) : Value :=
  let here := skipBlanks k
  let piece := Piece.read delimiter here
  match _h : piece.next? with
  | none => ⟨if piece = .unclosed then none else some [], [], here⟩
  | some next =>
      let after := skipBlanks next
      match _h' : after.rest with
      | '#' :: rest =>
          let more := read delimiter (after.after ['#'] rest)
          ⟨more.text.map (piece.content ++ ·), piece.reference?.toList ++ more.references,
            more.next⟩
      | _ => ⟨some piece.content, piece.reference?.toList, after⟩
termination_by k.rest.length
decreasing_by
  have h1 : here.rest.length ≤ k.rest.length := (reaches_skipBlanks k).length_le
  have h2 := (reaches_piece _h).2
  have h3 : after.rest.length ≤ next.rest.length := (reaches_skipBlanks next).length_le
  have h4 := congrArg List.length _h'
  simp only [List.length_cons, Cursor.after] at *
  omega

theorem reaches_next (delimiter : Delimiter) (k : Cursor) :
    k.Reaches (read delimiter k).next := by
  induction k using read.induct delimiter with
  | case1 k here piece h =>
    unfold read
    simp only
    split
    · exact reaches_skipBlanks k
    · rename_i next h'
      simp [piece, here] at h
      simp [h] at h'
  | case2 k here piece next h after rest h' ih =>
    have hn := (reaches_skipBlanks k).trans (reaches_piece h).1
    have ha := hn.trans (reaches_skipBlanks next)
    have hs : after.Reaches (after.after ['#'] rest) := Cursor.reaches_after (by simp [h'])
    unfold read
    simp only
    split
    · exact reaches_skipBlanks k
    · rename_i next' hn'
      simp only [piece, here] at h
      rw [h] at hn'
      cases hn'
      split
      · rename_i rest' hr'
        simp only [after] at h'
        rw [h'] at hr'
        cases hr'
        exact (ha.trans hs).trans ih
      · exact ha
  | case3 k here piece next h after hno =>
    have ha := ((reaches_skipBlanks k).trans (reaches_piece h).1).trans (reaches_skipBlanks next)
    unfold read
    simp only
    split
    · exact reaches_skipBlanks k
    · rename_i next' hn'
      simp only [piece, here] at h
      rw [h] at hn'
      cases hn'
      split
      · rename_i rest' hr'
        exact absurd hr' (hno rest')
      · exact ha

/-- The text of a value as it is shown. -/
def plain (text : List Char) : String :=
  String.ofList (squeeze (text.filter fun c => c != '{' && c != '}'))

end Value

end Manuscript.Bibtex

/-
# Manuscript.Text.LineIndex -- byte offsets and editor positions

An editor names a place by a zero-based line and a column in UTF-16 units, the
analysis by a byte offset.  A `LineIndex` holds where the lines of a text start;
it does not hold the text, which every conversion takes again.

`position` never fails: an offset past the end is the end, and an offset inside a
character is the start of that character.  `offset?` fails only on a line that the
text does not have; a column past the end of a line is the end of the line, before
its line break, and a column inside a surrogate pair is the end of the pair.
-/
import Manuscript.Text.Span

namespace Manuscript

set_option autoImplicit false

open Text

/-- A place as an editor names it. -/
structure Position where
  line : Nat
  column : Nat
deriving DecidableEq, Repr, Inhabited

/-- Two places of one text. -/
structure Range where
  start : Position
  stop : Position
deriving DecidableEq, Repr, Inhabited

/-- Where the lines of a text start, and where the text ends. -/
structure LineIndex where
  starts : List Nat
  length : Nat
deriving DecidableEq, Repr, Inhabited

namespace LineIndex

/-- The offset after each line feed of a text that begins at `offset`. -/
def startsAfter : Nat → List Char → List Nat
  | _, [] => []
  | offset, c :: cs =>
      let next := offset + c.utf8Size
      if c = '\n' then next :: startsAfter next cs else startsAfter next cs

def ofText (text : List Char) : LineIndex := ⟨0 :: startsAfter 0 text, utf8Length text⟩

def ofString (text : String) : LineIndex := ofText text.toList

/-- The number of lines; an empty text has one. -/
def lineCount (i : LineIndex) : Nat := i.starts.length

def lineStart? (i : LineIndex) (line : Nat) : Option Nat := i.starts[line]?

/-- The last line that starts at or before `offset`. -/
def lineOf (i : LineIndex) (offset : Nat) : Nat := (i.starts.takeWhile (· ≤ offset)).length - 1

/-- The characters of `text` from byte `start` that end at or before byte `stop`. -/
def textBetween (text : List Char) (start stop : Nat) : List Char :=
  takeWithin (stop - start) ((dropBytes? start text).getD [])

/-- The place of a byte offset. -/
def position (i : LineIndex) (text : List Char) (offset : Nat) : Position :=
  let offset := min offset i.length
  let line := i.lineOf offset
  let start := i.starts[line]?.getD 0
  ⟨line, utf16Length (textBetween text start offset)⟩

/-- A line without its line break, which is a line feed or carriage return and line feed. -/
def withoutBreak (line : List Char) : List Char :=
  match line.reverse with
  | '\n' :: '\r' :: before => before.reverse
  | '\n' :: before => before.reverse
  | _ => line

/-- The characters of a line, without its line break. -/
def lineText? (i : LineIndex) (text : List Char) (line : Nat) : Option (List Char) :=
  i.starts[line]?.map fun start =>
    withoutBreak (textBetween text start (i.starts[line + 1]?.getD i.length))

/-- The bytes of the characters that begin before a column. -/
def bytesBefore : Nat → List Char → Nat
  | _, [] => 0
  | 0, _ => 0
  | n + 1, c :: cs => c.utf8Size + bytesBefore (n + 1 - utf16Size c) cs

/-- The byte offset of a place, if the text has its line. -/
def offset? (i : LineIndex) (text : List Char) (p : Position) : Option Nat := do
  let start ← i.lineStart? p.line
  let line ← i.lineText? text p.line
  pure (start + bytesBefore p.column line)

end LineIndex

end Manuscript

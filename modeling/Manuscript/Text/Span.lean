/-
# Manuscript.Text.Span -- byte offsets into a text

Positions in a source file count the bytes of its UTF-8 form.  A `Span` is a
half-open range of such offsets, a `Symbol` a name with the span it was read from.

A text is handled as its list of characters, and `utf8Length` is the number of
bytes a list of characters takes.  An offset is a boundary of a text when it is
the length of one of its beginnings: `dropBytes?` cuts a text at an offset and
answers nothing off a boundary, and `slice?` reads a span the same way.
`takeWithin` is the forgiving form: the longest beginning that fits.
-/
import Manuscript.Text.Blank

namespace Manuscript.Text

set_option autoImplicit false

/-- The bytes a list of characters takes in UTF-8. -/
def utf8Length (cs : List Char) : Nat := cs.foldr (fun c n => c.utf8Size + n) 0

@[simp] theorem utf8Length_nil : utf8Length [] = 0 := rfl

@[simp] theorem utf8Length_cons (c : Char) (cs : List Char) :
    utf8Length (c :: cs) = c.utf8Size + utf8Length cs := rfl

@[simp] theorem utf8Length_append (as bs : List Char) :
    utf8Length (as ++ bs) = utf8Length as + utf8Length bs := by
  induction as with
  | nil => simp
  | cons c as ih => rw [List.cons_append, utf8Length_cons, utf8Length_cons, ih, Nat.add_assoc]

/-- The UTF-16 units of one character. -/
def utf16Size (c : Char) : Nat := if c.toNat ≤ 0xFFFF then 1 else 2

/-- The UTF-16 units of a list of characters. -/
def utf16Length (cs : List Char) : Nat := cs.foldr (fun c n => utf16Size c + n) 0

@[simp] theorem utf16Length_nil : utf16Length [] = 0 := rfl

@[simp] theorem utf16Length_cons (c : Char) (cs : List Char) :
    utf16Length (c :: cs) = utf16Size c + utf16Length cs := rfl

/-! ## Cutting at an offset -/

/-- What follows the first `n` bytes, if the offset `n` is a boundary. -/
def dropBytes? : Nat → List Char → Option (List Char)
  | 0, cs => some cs
  | _ + 1, [] => none
  | n + 1, c :: cs => if c.utf8Size ≤ n + 1 then dropBytes? (n + 1 - c.utf8Size) cs else none

/-- The first `n` bytes, if the offset `n` is a boundary. -/
def takeBytes? : Nat → List Char → Option (List Char)
  | 0, _ => some []
  | _ + 1, [] => none
  | n + 1, c :: cs =>
      if c.utf8Size ≤ n + 1 then (takeBytes? (n + 1 - c.utf8Size) cs).map (c :: ·) else none

/-- The longest beginning of at most `n` bytes. -/
def takeWithin : Nat → List Char → List Char
  | _, [] => []
  | n, c :: cs => if c.utf8Size ≤ n then c :: takeWithin (n - c.utf8Size) cs else []

end Manuscript.Text

namespace Manuscript

set_option autoImplicit false

open Text

/-- A half-open range of byte offsets. -/
structure Span where
  start : Nat
  stop : Nat
deriving DecidableEq, Repr, Inhabited

namespace Span

/-- The number of bytes covered; nothing when the ends are out of order. -/
def length (s : Span) : Nat := s.stop - s.start

def isEmpty (s : Span) : Bool := s.start == s.stop

/-- Both ends count, so that a cursor right after a word is on it. -/
def touches (s : Span) (offset : Nat) : Bool := s.start ≤ offset && offset ≤ s.stop

end Span

namespace Text

/-- The characters a span covers, if it lies in the text and ends on boundaries. -/
def slice? (text : List Char) (s : Span) : Option (List Char) :=
  if s.start ≤ s.stop then (dropBytes? s.start text).bind (takeBytes? s.length) else none

end Text

/-- A name and where it was read. -/
structure Symbol where
  name : String
  span : Span
deriving DecidableEq, Repr, Inhabited

namespace Symbol

/-- The symbol whose name is written at `offset`. -/
def ofText (offset : Nat) (name : List Char) : Symbol :=
  ⟨String.ofList name, ⟨offset, offset + utf8Length name⟩⟩

/-- The symbol a text written at `offset` holds between its outer blanks, if any. -/
def trimmed? (offset : Nat) (content : List Char) : Option Symbol :=
  match trim content with
  | [] => none
  | word => some (Symbol.ofText (offset + utf8Length (content.takeWhile isBlank)) word)

end Symbol

end Manuscript

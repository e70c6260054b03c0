/-
# Manuscript.Text.Blank -- white space, and text without it

Three classes of blank characters meet in a source file: the Unicode white space
that separates words (`isBlank`), the ASCII white space that separates the tokens
of a bibliography (`isAsciiBlank`), and the ASCII blanks that may stand between a
command and its argument (`isLayout`).  Each is a table; the first contains the
other two (`isBlank_of_isAsciiBlank`, `isBlank_of_isLayout`).

`trim` cuts blanks at both ends, `words` cuts a text at its blanks, and
`squeeze` joins the words again with single spaces.
-/

namespace Manuscript.Text

set_option autoImplicit false

/-- The Unicode property White_Space. -/
def isBlank (c : Char) : Bool :=
  let n := c.toNat
  (0x09 ≤ n && n ≤ 0x0D) || n == 0x20 || n == 0x85 || n == 0xA0 || n == 0x1680
    || (0x2000 ≤ n && n ≤ 0x200A) || n == 0x2028 || n == 0x2029 || n == 0x202F
    || n == 0x205F || n == 0x3000

/-- ASCII white space: space, tab, line feed, form feed and carriage return. -/
def isAsciiBlank (c : Char) : Bool :=
  c == ' ' || c == '\t' || c == '\n' || c == '\x0c' || c == '\r'

/-- The blanks that may stand between a command and its argument. -/
def isLayout (c : Char) : Bool :=
  c == ' ' || c == '\t' || c == '\r' || c == '\n'

theorem isBlank_of_isAsciiBlank {c : Char} (h : isAsciiBlank c = true) : isBlank c = true := by
  simp only [isAsciiBlank, Bool.or_eq_true, beq_iff_eq] at h
  rcases h with (((rfl | rfl) | rfl) | rfl) | rfl <;> decide

theorem isAsciiBlank_of_isLayout {c : Char} (h : isLayout c = true) : isAsciiBlank c = true := by
  simp only [isLayout, Bool.or_eq_true, beq_iff_eq] at h
  rcases h with ((rfl | rfl) | rfl) | rfl <;> decide

theorem isBlank_of_isLayout {c : Char} (h : isLayout c = true) : isBlank c = true :=
  isBlank_of_isAsciiBlank (isAsciiBlank_of_isLayout h)

/-! ## Trimming -/

def trimStart (cs : List Char) : List Char := cs.dropWhile isBlank

def trimEnd (cs : List Char) : List Char := (cs.reverse.dropWhile isBlank).reverse

/-- The text without the blanks at its ends. -/
def trim (cs : List Char) : List Char := trimEnd (trimStart cs)

/-! ## Words -/

/-- The maximal runs of characters that are not blank, in order. -/
def words : List Char → List (List Char)
  | [] => []
  | c :: cs =>
      if isBlank c then words cs
      else match cs with
        | [] => [[c]]
        | d :: _ =>
            if isBlank d then [c] :: words cs
            else match words cs with
              | [] => [[c]]
              | w :: ws => (c :: w) :: ws

/-- The words of a text with one space between neighbours. -/
def squeeze (cs : List Char) : List Char := [' '].intercalate (words cs)

end Manuscript.Text

/-
# Manuscript.Text.Case -- letters A to Z without their case

File extensions, entry kinds, field names and typed beginnings are compared with
the case of the letters A to Z ignored and everything else exact.  `lower` is that
lower-casing and `sameLetters` the comparison; `sameLetters_iff` says that two
texts compare equal exactly when they lower to the same text.
-/

namespace Manuscript.Text

set_option autoImplicit false

/-- The text with A to Z in lower case. -/
def lower (cs : List Char) : List Char := cs.map Char.toLower

/-- Equality up to the case of A to Z. -/
def sameLetters : List Char → List Char → Bool
  | [], [] => true
  | a :: as, b :: bs => a.toLower == b.toLower && sameLetters as bs
  | _, _ => false

theorem sameLetters_iff (as bs : List Char) : sameLetters as bs = true ↔ lower as = lower bs := by
  induction as generalizing bs with
  | nil => cases bs <;> simp [sameLetters, lower]
  | cons a as ih => cases bs <;> simp_all [sameLetters, lower]

end Manuscript.Text

/-
# Manuscript.Text.Digit -- numbers written with ASCII digits

`numberOf? radix` reads a list of digits as a number, and no other list; letters
stand for the digits from ten on in either case.  `scalar?` is the character with
a number, where there is one.
-/

namespace Manuscript.Text

set_option autoImplicit false

/-- The value of a hexadecimal digit. -/
def hexValue? (c : Char) : Option Nat :=
  if '0' ≤ c ∧ c ≤ '9' then some (c.toNat - 0x30)
  else if 'a' ≤ c ∧ c ≤ 'f' then some (c.toNat - 0x57)
  else if 'A' ≤ c ∧ c ≤ 'F' then some (c.toNat - 0x37)
  else none

/-- The value of a digit below a radix of at most sixteen. -/
def digitValue? (radix : Nat) (c : Char) : Option Nat := do
  let d ← hexValue? c
  if d < radix then some d else none

def numberOf? (radix : Nat) (cs : List Char) : Option Nat :=
  cs.foldlM (fun n c => (digitValue? radix c).map (n * radix + ·)) 0

/-- The character with a number; surrogates and larger numbers have none. -/
def scalar? (n : Nat) : Option Char := if n.isValidChar then some (Char.ofNat n) else none

end Manuscript.Text

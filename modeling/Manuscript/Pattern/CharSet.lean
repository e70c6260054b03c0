/-
# Manuscript.Pattern.CharSet -- sets of characters

What a pattern may ask of one character.  Runs, as the tables of Unicode give them,
are combined as sets; `folded` closes a set under change of case.

`contains` decides one character; `runs` lists the whole set.
-/
import Manuscript.Unicode.Fold
import Manuscript.Unicode.Property

namespace Manuscript

set_option autoImplicit false

open Text Unicode

inductive CharSet where
  | empty
  | range (first last : Char)
  | table (runs : Runs)
  | blank
  | union (a b : CharSet)
  | inter (a b : CharSet)
  | minus (a b : CharSet)
  | complement (a : CharSet)
  /-- The set with every character that differs from one of its own in case alone. -/
  | folded (a : CharSet)
  /-- The same for the letters A to Z only. -/
  | foldedAscii (a : CharSet)
deriving DecidableEq, Repr, Inhabited

namespace CharSet

def contains : CharSet → Char → Bool
  | empty, _ => false
  | range first last, c => first.toNat ≤ c.toNat && c.toNat ≤ last.toNat
  | table runs, c => runs.contains c.toNat
  | blank, c => isBlank c
  | union a b, c => a.contains c || b.contains c
  | inter a b, c => a.contains c && b.contains c
  | minus a b, c => a.contains c && !b.contains c
  | complement a, c => !a.contains c
  | folded a, c => (caseVariants c).any fun variant => a.contains variant
  | foldedAscii a, c => a.contains c || a.contains c.toLower || a.contains c.toUpper

/-- Every character that case folding knows. -/
def foldable : List Char :=
  foldRuns.flatMap fun r =>
    (Runs.spaced r.stride r.last (r.last - r.first + 1) r.first).flatMap fun n =>
      [Char.ofNat n, Char.ofNat ((n : Int) + r.shift).toNat]

def asciiLetters : List Char :=
  (List.range 26).flatMap fun n => [Char.ofNat (0x41 + n), Char.ofNat (0x61 + n)]

/-- The members of a set that may have variants: all of a small set, else the letters in it. -/
def lettersIn (letters : List Char) (runs : Runs) : List Char :=
  if runs.size ≤ 64 then runs.members.map Char.ofNat
  else letters.filter fun c => runs.contains c.toNat

def withVariants (letters : List Char) (variantsOf : Char → List Char) (runs : Runs) : Runs :=
  let variants := (lettersIn letters runs).flatMap variantsOf
  runs.union (.ofList (variants.map fun c => (c.toNat, c.toNat)))

/-- The runs of a set. -/
def runs : CharSet → Runs
  | empty => .empty
  | range first last => if first ≤ last then ⟨#[(first.toNat, last.toNat)]⟩ else .empty
  | table runs => runs
  | blank => whiteSpace
  | union a b => a.runs.union b.runs
  | inter a b => a.runs.inter b.runs
  | minus a b => a.runs.minus b.runs
  | complement a => a.runs.complement
  | folded a => withVariants foldable caseVariants a.runs
  | foldedAscii a => withVariants asciiLetters (fun c => [c.toLower, c.toUpper]) a.runs

def word : CharSet := table Unicode.word

def digit : CharSet := table Unicode.decimalNumber

def single (c : Char) : CharSet := range c c

def any : CharSet := complement empty

/-- The characters of a list. -/
def ofList (cs : List Char) : CharSet := cs.foldr (fun c set => union (single c) set) empty

/-- What is in one of the two sets but not in both. -/
def either (a b : CharSet) : CharSet := union (minus a b) (minus b a)

/-! ## ASCII classes -/

def asciiLower : CharSet := range 'a' 'z'

def asciiUpper : CharSet := range 'A' 'Z'

def asciiDigit : CharSet := range '0' '9'

def asciiAlpha : CharSet := union asciiUpper asciiLower

def asciiAlnum : CharSet := union asciiDigit asciiAlpha

def asciiWord : CharSet := union asciiAlnum (single '_')

def asciiSpace : CharSet := union (range '\t' '\r') (single ' ')

/-- The classes that have a name between brackets and colons. -/
def named : List (String × CharSet) :=
  [("alnum", asciiAlnum),
   ("alpha", asciiAlpha),
   ("ascii", range '\x00' '\x7f'),
   ("blank", ofList ['\t', ' ']),
   ("cntrl", union (range '\x00' '\x1f') (single '\x7f')),
   ("digit", asciiDigit),
   ("graph", range '!' '~'),
   ("lower", asciiLower),
   ("print", range ' ' '~'),
   ("punct", union (union (range '!' '/') (range ':' '@'))
      (union (range '[' '\x60') (range '\x7b' '~'))),
   ("space", asciiSpace),
   ("upper", asciiUpper),
   ("word", asciiWord),
   ("xdigit", union asciiDigit (union (range 'A' 'F') (range 'a' 'f')))]

end CharSet

end Manuscript

/-
# Manuscript.Url.Domain -- names of hosts

A domain may be spelled in many ways.  Every character is first replaced by the way it
is spelled in domains, which drops case and variants, and parts are joined
(`spelled?`).  The labels between the dots then say the name, and a label that starts
with `xn--` says it in the letters of ASCII (`said?`).  A label is well formed if it
starts with no mark and its joiners stand where they have an effect; and where some
label is read from right to left, every label is read in one direction.

`Domain.ascii?` gives the domain in ASCII and without case, if it is well formed.
-/
import Manuscript.Unicode.Composition
import Manuscript.Unicode.Direction
import Manuscript.Unicode.Joining
import Manuscript.Url.Punycode
import Manuscript.Url.Spelling

namespace Manuscript.Url.Domain

set_option autoImplicit false

open Unicode

/-! ## Spelling -/

def shortest (cs : List Char) : List Char := (composed (cs.map Char.toNat)).map Char.ofNat

def spelled? (domain : List Char) : Option (List Char) := do
  let parts ← domain.mapM fun c => Spelling.spell? c.toNat
  pure (shortest (parts.flatten.map Char.ofNat))

def isSpelled (c : Char) : Bool := Spelling.spell? c.toNat == some [c.toNat]

/-- The labels between the dots of a domain. -/
def labels : List Char → List (List Char)
  | [] => [[]]
  | '.' :: cs => [] :: labels cs
  | c :: cs =>
      match labels cs with
      | [] => [[c]]
      | l :: ls => (c :: l) :: ls

/-! ## Labels in the letters of ASCII -/

/-- No label in the letters of ASCII is longer, without its first four. -/
def asciiLimit : Nat := 2000

/-- No label that is not ASCII is longer. -/
def limit : Nat := 1000

/-- The label that four letters and `cs` stand for.  It could not be written as it is, and
it is spelled the one way it could be. -/
def decode? (cs : List Char) : Option (List Char) := do
  guard (cs.length ≤ asciiLimit && cs.getLast? != some '-')
  let label ← Punycode.decode? cs
  guard (label.any (!Punycode.isBasic ·) && label.all isSpelled && shortest label == label)
  pure label

/-- What a label says. -/
def said? (label : List Char) : Option (List Char) :=
  match label with
  | 'x' :: 'n' :: '-' :: '-' :: cs => decode? cs
  | _ => some label

/-- A label as it is written. -/
def write? (label : List Char) : Option (List Char) :=
  if label.all Punycode.isBasic then some label
  else if label.length ≤ limit then some ("xn--".toList ++ Punycode.encode label)
  else none

/-! ## Marks and joiners -/

def startsWithMark (label : List Char) : Bool :=
  match label with
  | c :: _ => mark.contains c.toNat
  | [] => false

/-- The class of marks that take a vowel from the letter before. -/
def vowelKiller : Nat := 9

/-- Whether the first character that is not passed over joins its neighbour. -/
def meets (joining : Runs) (cs : List Char) : Bool :=
  match cs.dropWhile fun c => passedOver.contains c.toNat && !joining.contains c.toNat with
  | c :: _ => joining.contains c.toNat
  | [] => false

/-- Whether joiners have an effect in a label whose first characters are `before`, the
last of them first: after a mark that takes the vowel, or, for the one that keeps letters
apart, between letters that would be joined. -/
def joinersApply (before : List Char) : List Char → Bool
  | [] => true
  | c :: cs =>
      let killed := match before with
        | d :: _ => markClass d.toNat == vowelKiller
        | [] => false
      let applies :=
        if c = '\u200D' then killed
        else if c = '\u200C' then killed || meets joinsNext before && meets joinsPrevious cs
        else true
      applies && joinersApply (c :: before) cs

/-! ## Directions -/

def directions (label : List Char) : List Direction := label.map (Direction.ofNumber ·.toNat)

def isRightToLeft (d : Direction) : Bool :=
  d ∈ [.rightToLeft, .arabicLetter, .arabicNumber]

/-- Characters that go with both directions. -/
def isShared (d : Direction) : Bool :=
  d ∈ [.europeanNumber, .europeanSeparator, .commonSeparator, .europeanTerminator, .neutral,
    .boundary, .nonspacing]

/-- Whether all characters go with the direction of the first one, and the last but for
marks fixes it. -/
def isDirected (label : List Direction) : Bool :=
  match label with
  | [] => true
  | first :: rest =>
      let last := ((rest.reverse.dropWhile (· == .nonspacing)).head?).getD first
      match first with
      | .left =>
          rest.all (fun d => d == .left || isShared d) && last ∈ [.left, .europeanNumber]
      | .rightToLeft | .arabicLetter =>
          rest.all (fun d => isRightToLeft d || isShared d) &&
            (isRightToLeft last || last == .europeanNumber) &&
            !(.europeanNumber ∈ rest && .arabicNumber ∈ rest)
      | _ => false

/-! ## Domains -/

def isWellFormed (names : List (List Char)) : Bool :=
  names.all (fun name => !startsWithMark name && joinersApply [] name) &&
    (names.all (fun name => !(directions name).any isRightToLeft) ||
      names.all fun name => isDirected (directions name))

def ascii? (domain : List Char) : Option (List Char) := do
  let written := labels (← spelled? domain)
  guard (isWellFormed (← written.mapM said?))
  pure (['.'].intercalate (← written.mapM write?))

end Manuscript.Url.Domain

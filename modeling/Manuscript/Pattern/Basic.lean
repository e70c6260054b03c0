/-
# Manuscript.Pattern.Basic -- patterns of text

A `Pattern` says how a stretch of text may look.  `Pattern.ends` lists the places
where a match that begins at a given place may end, the preferred one first: an
earlier branch before a later one, and for a repetition more rounds before fewer
when it is greedy and fewer before more when it is not.  What follows a place
depends on the place alone, so a place that is reached again later in the list is
left out, and the lists are never longer than the text.

`Pattern.find?` looks for the first place where a match begins and takes its
preferred end.
-/
import Manuscript.Pattern.CharSet

namespace Manuscript

set_option autoImplicit false

/-- What may be asked of a place without reading on. -/
inductive Assertion where
  | textStart
  | textEnd
  /-- After the start of the text or a line feed. -/
  | lineStart
  | lineEnd
  /-- The same where a carriage return may break a line too. -/
  | anyLineStart
  | anyLineEnd
  /-- Exactly one neighbour is a character of words. -/
  | boundary (letters : CharSet)
  | noBoundary (letters : CharSet)
  | wordStart (letters : CharSet)
  | wordEnd (letters : CharSet)
  | notAfterWord (letters : CharSet)
  | notBeforeWord (letters : CharSet)
deriving DecidableEq, Repr, Inhabited

inductive Pattern where
  | nothing
  /-- One character of a set. -/
  | one (set : CharSet)
  | assert (assertion : Assertion)
  | seq (first second : Pattern)
  | either (first second : Pattern)
  /-- At least so many rounds, and at most so many more. -/
  | repeated (body : Pattern) (least : Nat) (more : Option Nat) (greedy : Bool)
  /-- Remembers what was read under a number. -/
  | group (index : Nat) (body : Pattern)
deriving DecidableEq, Repr, Inhabited

/-- A place in a text: the character before it, the text after it, and what groups read. -/
structure Place where
  before : Option Char
  rest : List Char
  groups : List (Nat × List Char)
deriving DecidableEq, Repr, Inhabited

namespace Place

/-- What distinguishes the places of one text. -/
def left (p : Place) : Nat := p.rest.length

/-- The text after `p` that is read when a match ends at `q`. -/
def read (p q : Place) : List Char := p.rest.take (p.left - q.left)

/-- The places that differ from those seen and from all before them. -/
def distinctFrom : List Nat → List Place → List Place
  | _, [] => []
  | seen, p :: ps =>
      if p.left ∈ seen then distinctFrom seen ps else p :: distinctFrom (p.left :: seen) ps

/-- Each place once, where it comes first. -/
def distinct (ps : List Place) : List Place := distinctFrom [] ps

end Place

namespace Assertion

def meets (set : CharSet) : Option Char → Bool
  | some c => set.contains c
  | none => false

def holds (a : Assertion) (p : Place) : Bool :=
  let next := p.rest.head?
  match a with
  | textStart => p.before.isNone
  | textEnd => next.isNone
  | lineStart => p.before.isNone || p.before == some '\n'
  | lineEnd => next.isNone || next == some '\n'
  | anyLineStart =>
      p.before.isNone || p.before == some '\n' || (p.before == some '\r' && next != some '\n')
  | anyLineEnd =>
      next.isNone || next == some '\r' || (next == some '\n' && p.before != some '\r')
  | boundary letters => meets letters p.before != meets letters next
  | noBoundary letters => meets letters p.before == meets letters next
  | wordStart letters => !meets letters p.before && meets letters next
  | wordEnd letters => meets letters p.before && !meets letters next
  | notAfterWord letters => !meets letters p.before
  | notBeforeWord letters => !meets letters next

end Assertion

namespace Pattern

/-! ## Repetition -/

/-- The ends of exactly `n` rounds. -/
def rounds (step : Place → List Place) : Nat → List Place → List Place
  | 0, ps => ps
  | n + 1, ps => if ps.isEmpty then [] else rounds step n (Place.distinct (ps.flatMap step))

/-- A place among the ends of more rounds. -/
def ranked (greedy : Bool) (p : Place) (later : List Place) : List Place :=
  if greedy then later ++ [p] else p :: later

/-- The ends of at most `n` rounds. -/
def upTo (step : Place → List Place) (greedy : Bool) : Nat → Place → List Place
  | 0, p => [p]
  | n + 1, p => Place.distinct (ranked greedy p ((step p).flatMap (upTo step greedy n)))

/-- What is found from one place after the other, and the places that were met.  Nothing is
looked for from a place that was met before. -/
def inTurn (visit : List Nat → Place → List Place × List Nat) :
    List Nat → List Place → List Place × List Nat
  | seen, [] => ([], seen)
  | seen, p :: ps =>
      if p.left ∈ seen then inTurn visit seen ps
      else
        let found := visit seen p
        let others := inTurn visit found.2 ps
        (found.1 ++ others.1, others.2)

/-- The ends of any number of rounds from places with at most `n - 1` characters left, and the
places that were met.  A round that reads nothing leads nowhere new. -/
def anyRounds (step : Place → List Place) (greedy : Bool) :
    Nat → List Nat → List Place → List Place × List Nat
  | 0, seen, _ => ([], seen)
  | n + 1, seen, ps =>
      inTurn (fun seen p =>
        let next := (step p).filter fun q => q.left < p.left
        let later := anyRounds step greedy n (p.left :: seen) next
        (ranked greedy p later.1, later.2)) seen ps

theorem anyRounds_cons {step : Place → List Place} {greedy : Bool} {n : Nat} {seen : List Nat}
    {p : Place} {ps : List Place} (hseen : p.left ∉ seen) :
    (anyRounds step greedy (n + 1) seen (p :: ps)).1 =
      let later := anyRounds step greedy n (p.left :: seen)
        ((step p).filter fun q => q.left < p.left)
      ranked greedy p later.1 ++ (anyRounds step greedy (n + 1) later.2 ps).1 := by
  rw [anyRounds, inTurn, if_neg hseen]
  rfl

theorem anyRounds_cons_of_mem {step : Place → List Place} {greedy : Bool} {n : Nat}
    {seen : List Nat} {p : Place} {ps : List Place} (hseen : p.left ∈ seen) :
    anyRounds step greedy (n + 1) seen (p :: ps) = anyRounds step greedy (n + 1) seen ps := by
  rw [anyRounds, inTurn, if_pos hseen]
  rfl

/-- The ends of at most so many rounds from one of the places. -/
def further (step : Place → List Place) (greedy : Bool) (most : Option Nat) (ps : List Place) :
    List Place :=
  match most with
  | some n => Place.distinct (ps.flatMap (upTo step greedy n))
  | none => (anyRounds step greedy ((ps.map Place.left).foldl max 0 + 1) [] ps).1

/-! ## Matching -/

/-- Where a match that begins at a place may end, the preferred end first. -/
def ends : Pattern → Place → List Place
  | nothing, p => [p]
  | one set, p =>
      match p.rest with
      | [] => []
      | c :: cs => if set.contains c then [⟨some c, cs, p.groups⟩] else []
  | assert a, p => if a.holds p then [p] else []
  | seq a b, p => Place.distinct ((a.ends p).flatMap b.ends)
  | either a b, p => Place.distinct (a.ends p ++ b.ends p)
  | repeated a least more greedy, p => further a.ends greedy more (rounds a.ends least [p])
  | group i a, p => (a.ends p).map fun q => { q with groups := (i, p.read q) :: q.groups }

/-- Where a match begins and ends. -/
structure Match where
  start : Place
  stop : Place
deriving DecidableEq, Repr

/-- What the group with this number read last, if it took part in the match. -/
def Match.group? (m : Match) (index : Nat) : Option (List Char) := m.stop.groups.lookup index

def findFrom (p : Pattern) : Option Char → List Char → Option Match
  | before, [] =>
      let start : Place := ⟨before, [], []⟩
      (p.ends start).head?.map fun stop => ⟨start, stop⟩
  | before, c :: cs =>
      let start : Place := ⟨before, c :: cs, []⟩
      match (p.ends start).head? with
      | some stop => some ⟨start, stop⟩
      | none => findFrom p (some c) cs

/-- The first match in a text. -/
def find? (p : Pattern) (text : List Char) : Option Match := p.findFrom none text

/-- Whether the text holds a match. -/
def isMatch (p : Pattern) (text : List Char) : Bool := (p.find? text).isSome

/-! ## Writing patterns -/

def char (c : Char) : Pattern := one (.single c)

/-- One character that is none of these. -/
def noneOf (cs : List Char) : Pattern := one (.complement (.ofList cs))

def many (p : Pattern) : Pattern := repeated p 0 none true

def manyOne (p : Pattern) : Pattern := repeated p 1 none true

def optional (p : Pattern) : Pattern := repeated p 0 (some 1) true

def sequence (ps : List Pattern) : Pattern := ps.foldr seq nothing

end Pattern

end Manuscript

/-
# Manuscript.Pattern.Search -- whether a text holds a match

To know whether a pattern occurs in a text, the order of matches does not matter.  So
all places of the text are followed at once: `reached` gives the places where a match
may end that begins at one of the given places, each place once and in the order of
the text.  The work is bounded by the length of the text for every part of the
pattern, however its repetitions are nested.

Rounds that lead from a set of places to the same set change nothing any more, and
after more rounds than there are characters the set stays the same; so large counts
cost no more than the text is long.
-/
import Manuscript.Pattern.Basic
import Std.Data.HashSet

namespace Manuscript

set_option autoImplicit false

namespace Place

/-- Two lists of places in the order of the text as one. -/
def merge : List Place → List Place → List Place
  | [], qs => qs
  | ps, [] => ps
  | p :: ps, q :: qs =>
      if q.left < p.left then p :: merge ps (q :: qs)
      else if p.left < q.left then q :: merge (p :: ps) qs
      else p :: merge ps qs
termination_by ps qs => ps.length + qs.length

/-- The places of a text, from the first to the end. -/
def all : Option Char → List Char → List Place
  | before, [] => [⟨before, [], []⟩]
  | before, c :: cs => ⟨before, c :: cs, []⟩ :: all (some c) cs

def sameAs (ps qs : List Place) : Bool := ps.map left == qs.map left

def mostLeft (ps : List Place) : Nat := (ps.map left).foldl max 0

end Place

namespace Pattern

/-- The places after exactly `n` rounds. -/
def afterRounds (step : List Place → List Place) : Nat → List Place → List Place
  | 0, ps => ps
  | n + 1, ps =>
      let next := step ps
      if Place.sameAs ps next then ps else afterRounds step n next

/-- The places met in at most `n` rounds, those of each round apart. -/
def newPlaces (step : List Place → List Place) :
    Nat → Std.HashSet Nat → List Place → List (List Place)
  | 0, _, ps => [ps]
  | n + 1, seen, ps =>
      let seen := seen.insertMany (ps.map Place.left)
      let next := (step ps).filter fun q => !seen.contains q.left
      if next.isEmpty then [ps] else ps :: newPlaces step n seen next

/-- The places after at most so many rounds. -/
def withinRounds (step : List Place → List Place) (most : Option Nat) (ps : List Place) :
    List Place :=
  let enough := Place.mostLeft ps + 1
  let n := match most with
    | some most => min most enough
    | none => enough
  let places := (newPlaces step n ∅ ps).flatten
  places.mergeSort fun p q => q.left ≤ p.left

/-- Where a match may end that begins at one of the places. -/
def reached : Pattern → List Place → List Place
  | nothing, ps => ps
  | one set, ps => ps.filterMap fun p => match p.rest with
      | [] => none
      | c :: cs => if set.contains c then some ⟨some c, cs, []⟩ else none
  | assert a, ps => ps.filter a.holds
  | seq a b, ps => b.reached (a.reached ps)
  | either a b, ps => Place.merge (a.reached ps) (b.reached ps)
  | repeated a least more _, ps =>
      let least := min least (Place.mostLeft ps + 2)
      withinRounds a.reached more (afterRounds a.reached least ps)
  | group _ a, ps => a.reached ps

/-- Whether the pattern matches somewhere in a text. -/
def occursIn (p : Pattern) (text : List Char) : Bool := !(p.reached (Place.all none text)).isEmpty

end Pattern

end Manuscript

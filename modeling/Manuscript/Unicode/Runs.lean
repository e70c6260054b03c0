/-
# Manuscript.Unicode.Runs -- sets of characters as runs of their numbers

A set of characters is kept as its runs: the first and the last number of each, in
increasing order and with gaps between them.  Sets are combined as whole lists of
runs, and one number is looked up by halving the list (`contains`).

The tables are written as texts (`ofText`): a number is a run of its own, `A-B` runs
from one number to another, and in `A-B/S` only every number at distance S is meant.
All numbers are hexadecimal.
-/
import Manuscript.Text.Blank
import Manuscript.Text.Digit

namespace Manuscript.Unicode

set_option autoImplicit false

open Text

structure Runs where
  bounds : Array (Nat × Nat)
deriving DecidableEq, Repr, Inhabited

namespace Runs

/-- The largest number of a character. -/
def last : Nat := 0x10FFFF

def toList (s : Runs) : List (Nat × Nat) := s.bounds.toList

/-! ## Looking up -/

/-- Whether a number is in a run from place `lo` up to place `hi`. -/
def search (bounds : Array (Nat × Nat)) (n lo hi : Nat) : Bool :=
  if lo < hi then
    let middle := (lo + hi) / 2
    let (first, last) := bounds.getD middle (0, 0)
    if n < first then search bounds n lo middle
    else if last < n then search bounds n (middle + 1) hi
    else true
  else false
termination_by hi - lo

def contains (s : Runs) (n : Nat) : Bool := search s.bounds n 0 s.bounds.size

/-! ## Listing -/

def size (s : Runs) : Nat :=
  s.toList.foldl (fun n (first, last) => n + (last + 1 - first)) 0

def members (s : Runs) : List Nat :=
  s.toList.flatMap fun (first, last) => List.range' first (last + 1 - first)

/-! ## Sets -/

/-- Runs in increasing order, those that touch made one. -/
def join : List (Nat × Nat) → List (Nat × Nat)
  | [] => []
  | [r] => [r]
  | r :: s :: rs =>
      if s.1 ≤ r.2 + 1 then join ((r.1, max r.2 s.2) :: rs) else r :: join (s :: rs)
termination_by rs => rs.length

def ofList (runs : List (Nat × Nat)) : Runs :=
  ⟨(join (runs.mergeSort fun r s => r.1 ≤ s.1)).toArray⟩

/-- What is between runs, from a number on. -/
def gaps : Nat → List (Nat × Nat) → List (Nat × Nat)
  | next, [] => if next ≤ last then [(next, last)] else []
  | next, (a, b) :: rs =>
      if next < a then (next, a - 1) :: gaps (b + 1) rs else gaps (b + 1) rs

def empty : Runs := ⟨#[]⟩

def all : Runs := ⟨#[(0, last)]⟩

def complement (s : Runs) : Runs := ⟨(gaps 0 s.toList).toArray⟩

def unions (sets : List Runs) : Runs := ofList (sets.flatMap toList)

def union (s t : Runs) : Runs := unions [s, t]

def inter (s t : Runs) : Runs := (s.complement.union t.complement).complement

def minus (s t : Runs) : Runs := (s.complement.union t).complement

/-! ## Texts -/

/-- The numbers from `first` to `last` at a distance, at most `n` of them. -/
def spaced (distance last : Nat) : Nat → Nat → List Nat
  | 0, _ => []
  | n + 1, first =>
      if first ≤ last then first :: spaced distance last n (first + distance) else []

def numberAt (cs : List Char) : Nat := (numberOf? 16 cs).getD 0

/-- The runs a word stands for. -/
def ofWord (word : List Char) : List (Nat × Nat) :=
  match word.span (· != '-') with
  | (n, []) => [(numberAt n, numberAt n)]
  | (first, _ :: rest) =>
      match rest.span (· != '/') with
      | (last, []) => [(numberAt first, numberAt last)]
      | (last, _ :: distance) =>
          let (first, last) := (numberAt first, numberAt last)
          (spaced (numberAt distance) last (last - first + 1) first).map fun n => (n, n)

/-- The set a text writes down, its words in increasing order. -/
def ofText (text : String) : Runs := ofList ((words text.toList).flatMap ofWord)

end Runs

/-- A set with the names it goes by. -/
structure NamedRuns where
  names : List String
  runs : Runs

/-- The set of a table with a name. -/
def named? (table : List NamedRuns) (name : String) : Option Runs :=
  (table.find? (name ∈ ·.names)).map NamedRuns.runs

end Manuscript.Unicode

/-
# Manuscript.Unicode.Mapping -- what characters stand for

A mapping gives some characters a sequence of others.  It is written as a text:
`A>B,C` gives one character its sequence, and `A-B>C` or `A-B/S>C` gives each of a run
its own character, the first one `C` and the others at the same distance.  Entries are
in increasing order, so that one is found by halving.
-/
import Manuscript.Unicode.Runs

namespace Manuscript.Unicode

set_option autoImplicit false

open Text

structure Mapping where
  entries : Array (Nat × List Nat)
deriving Repr, Inhabited

namespace Mapping

/-- The sequence of `n` among the entries from place `lo` up to place `hi`. -/
def search (entries : Array (Nat × List Nat)) (n lo hi : Nat) : Option (List Nat) :=
  if lo < hi then
    let middle := (lo + hi) / 2
    let (key, target) := entries.getD middle (0, [])
    if n < key then search entries n lo middle
    else if key < n then search entries n (middle + 1) hi
    else some target
  else none
termination_by hi - lo

def get? (m : Mapping) (n : Nat) : Option (List Nat) := search m.entries n 0 m.entries.size

/-- The numbers between commas. -/
def sequence : List Char → List Nat
  | [] => [0]
  | c :: cs =>
      if c = ',' then 0 :: sequence cs
      else match sequence cs with
        | [] => []
        | n :: ns => ((hexValue? c).getD 0 * Nat.pow 16 (digitsBefore cs) + n) :: ns
where
  digitsBefore (cs : List Char) : Nat := (cs.takeWhile (· != ',')).length

/-- The entries a word stands for. -/
def ofWord (word : List Char) : List (Nat × List Nat) :=
  match word.span (· != '>') with
  | (_, []) => []
  | (keys, _ :: target) =>
      let target := sequence target
      let runs := Runs.ofWord keys
      let first := (runs.head?.map Prod.fst).getD 0
      runs.flatMap fun (a, b) => (List.range' a (b + 1 - a)).map fun n =>
        (n, match target with
          | [t] => [t + (n - first)]
          | target => target)

def ofText (text : String) : Mapping := ⟨((words text.toList).flatMap ofWord).toArray⟩

end Mapping

end Manuscript.Unicode

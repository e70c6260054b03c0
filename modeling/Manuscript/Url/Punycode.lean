/-
# Manuscript.Url.Punycode -- labels in the letters of ASCII

A label is taken for its ASCII characters and the insertions that put all others into
place (`Insertion`), smaller characters first.  An insertion is written as its distance
from the one before it, on a walk that tries every place for one character and then
goes on to the next character (`distances`, `insertions?`).  Distances are written in
digits a to z and 0 to 9, the least first; a digit below the threshold of its place is
the last of its number, and thresholds follow the size of the numbers so far
(`adapted`).

`Punycode.encode` gives the written form of a label and `Punycode.decode?` its label.
-/
import Manuscript.Text.Digit

namespace Manuscript.Url.Punycode

set_option autoImplicit false

/-! ## Insertions -/

/-- A character and its place in the text of all smaller ones. -/
structure Insertion where
  point : Nat
  place : Nat
deriving DecidableEq, Repr

def isBasic (c : Char) : Bool := c.toNat < 0x80

/-- The insertions of the rest of a label after the characters `before`. -/
def collect (before : List Char) : List Char → List Insertion
  | [] => []
  | c :: cs =>
      let later := collect (c :: before) cs
      if isBasic c then later
      else ⟨c.toNat, before.countP fun d => d.toNat ≤ c.toNat⟩ :: later

/-- The insertions of a label, those of one character from left to right. -/
def insertionsOf (label : List Char) : List Insertion :=
  (collect [] label).mergeSort fun a b => a.point ≤ b.point

/-- How far each insertion is from `next`, the first one that may follow; the text has
`count` characters by then. -/
def distances (next : Insertion) (count : Nat) : List Insertion → List Nat
  | [] => []
  | i :: is =>
      ((i.point - next.point) * (count + 1) + i.place - next.place) ::
        distances ⟨i.point, i.place + 1⟩ (count + 1) is

/-- No walk goes further than this. -/
def walkLimit : Nat := 0x100000000

/-- The insertions at the given distances. -/
def insertions? (next : Insertion) (count : Nat) : List Nat → Option (List Insertion)
  | [] => some []
  | d :: ds => do
      let steps := next.place + d
      guard (steps < walkLimit)
      let i : Insertion := ⟨next.point + steps / (count + 1), steps % (count + 1)⟩
      guard i.point.isValidChar
      pure (i :: (← insertions? ⟨i.point, i.place + 1⟩ (count + 1) ds))

def start : Insertion := ⟨0x80, 0⟩

def insert (text : List Char) (i : Insertion) : List Char :=
  text.take i.place ++ Char.ofNat i.point :: text.drop i.place

/-! ## Numbers -/

def digit (n : Nat) : Char :=
  if n < 26 then Char.ofNat (0x61 + n) else Char.ofNat (0x30 + n - 26)

def digitValue? (c : Char) : Option Nat :=
  if c.isLower then some (c.toNat - 0x61)
  else if c.isDigit then some (c.toNat - 0x30 + 26)
  else none

/-- The threshold of the place `k`, which goes up by 36 from one place to the next. -/
def threshold (bias k : Nat) : Nat := max 1 (min 26 (k - bias))

theorem threshold_pos (bias k : Nat) : 0 < threshold bias k := by
  unfold threshold
  omega

/-- The digits of a number from the place `k` on. -/
def digits (bias k n : Nat) : List Char :=
  let t := threshold bias k
  if n < t then [digit n]
  else digit (t + (n - t) % (36 - t)) :: digits bias (k + 36) ((n - t) / (36 - t))
termination_by n
decreasing_by
  have := threshold_pos bias k
  have := Nat.div_le_self (n - threshold bias k) (36 - threshold bias k)
  omega

/-- The bias for numbers of the size of `n`. -/
def biasOf (n : Nat) : Nat :=
  if 455 < n then 36 + biasOf (n / 35) else 36 * n / (n + 38)
termination_by n
decreasing_by exact Nat.div_lt_self (by omega) (by omega)

/-- The bias after the number `n` of a text that has `count` characters then. -/
def adapted (n count : Nat) (first : Bool) : Nat :=
  let n := if first then n / 700 else n / 2
  biasOf (n + n / count)

def write (bias count : Nat) (first : Bool) : List Nat → List Char
  | [] => []
  | n :: ns => digits bias 36 n ++ write (adapted n (count + 1) first) (count + 1) false ns

/-- The number whose digits from the place `k` on come next, and what follows it. -/
def number? (bias k weight : Nat) : List Char → Option (Nat × List Char)
  | [] => none
  | c :: cs =>
      let t := threshold bias k
      match digitValue? c with
      | none => none
      | some d =>
          if d < t then some (d * weight, cs)
          else if weight * (36 - t) < walkLimit then
            (number? bias (k + 36) (weight * (36 - t)) cs).map fun (n, rest) =>
              (d * weight + n, rest)
          else none

theorem number?_length {bias k weight n : Nat} {cs rest : List Char}
    (h : number? bias k weight cs = some (n, rest)) : rest.length < cs.length := by
  induction cs generalizing k weight n with
  | nil => simp [number?] at h
  | cons c cs ih =>
      simp only [number?] at h
      split at h
      · simp at h
      · split at h
        · cases h
          simp
        · split at h
          · obtain ⟨⟨m, r⟩, hr, h⟩ := Option.map_eq_some_iff.1 h
            cases h
            exact Nat.lt_succ_of_lt (ih hr)
          · simp at h

/-- All numbers of a text. -/
def read? (bias count : Nat) (first : Bool) (cs : List Char) : Option (List Nat) :=
  if cs = [] then some []
  else
    match h : number? bias 36 1 cs with
    | none => none
    | some (n, rest) =>
        have := number?_length h
        (read? (adapted n (count + 1) first) (count + 1) false rest).map (n :: ·)
termination_by cs.length

def firstBias : Nat := 72

/-! ## Labels -/

def encode (label : List Char) : List Char :=
  let basic := label.filter isBasic
  let numbers := distances start basic.length (insertionsOf label)
  basic ++ (if basic = [] then [] else ['-']) ++ write firstBias basic.length true numbers

/-- What stands before and after the last hyphen; a hyphen at the start does not count. -/
def splitBasic (cs : List Char) : List Char × List Char :=
  match cs.reverse.span (· != '-') with
  | (_, []) | (_, [_]) => ([], cs)
  | (numbers, _ :: basic) => (basic.reverse, numbers.reverse)

def decode? (cs : List Char) : Option (List Char) := do
  let (basic, numbers) := splitBasic cs
  guard (basic.all isBasic)
  let insertions ← insertions? start basic.length (← read? firstBias basic.length true numbers)
  pure (insertions.foldl insert basic)

end Manuscript.Url.Punycode

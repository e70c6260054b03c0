/-
# Manuscript.Pattern.Size -- how large a machine a pattern needs

A pattern is matched by a machine that reads bytes, forwards or backwards.  The
machine has a state for each byte or set of bytes to be read, for each choice, each
assertion and each end of a group; rounds that are counted are written out.  A state
costs 32 bytes, each way out of a choice 4 more, and each range of a set of bytes 8.

`Pattern.isSmall` holds of the patterns whose two machines fit into ten mebibytes.
Two savings count: forwards, sets of characters share the states that read the last
bytes of their characters, and backwards those that read the first; and branches that
begin alike share the beginning.
-/
import Manuscript.Pattern.Basic
import Manuscript.Pattern.Bytes
import Std.Data.HashMap

namespace Manuscript.Pattern

set_option autoImplicit false

open Unicode

/-! ## What a pattern reads -/

/-- Whether the pattern reads nothing however it matches. -/
def readsNothing : Pattern → Bool
  | nothing => true
  | one _ => false
  | assert _ => true
  | seq a b => a.readsNothing && b.readsNothing
  | either a b => a.readsNothing && b.readsNothing
  | repeated a least more _ => (a.readsNothing && more.isSome) || (least == 0 && more == some 0)
  | group _ a => a.readsNothing

/-- Whether the pattern matches only by reading something. -/
def readsSomething : Pattern → Bool
  | nothing => false
  | one _ => true
  | assert _ => false
  | seq a b => a.readsSomething || b.readsSomething
  | either a b => a.readsSomething && b.readsSomething
  | repeated a least _ _ => least != 0 && a.readsSomething
  | group _ a => a.readsSomething

/-! ## Costs -/

/-- The bytes of the machines that read forwards and backwards. -/
structure Cost where
  forward : Nat
  backward : Nat
deriving DecidableEq, Repr, Inhabited

namespace Cost

def both (n : Nat) : Cost := ⟨n, n⟩

def add (a b : Cost) : Cost := ⟨a.forward + b.forward, a.backward + b.backward⟩

def times (n : Nat) (a : Cost) : Cost := ⟨n * a.forward, n * a.backward⟩

def sum (costs : List Cost) : Cost := costs.foldr add (both 0)

end Cost

def state : Nat := 32

def wayOut : Nat := 4

def byteRange : Nat := 8

/-! ## Sets of characters -/

/-- Ways to read one byte, and the states they lead to. -/
abbrev Node := List (ByteRange × Nat)

/-- States by what they read, and what they cost together. -/
structure Shared where
  known : Std.HashMap Node Nat
  cost : Nat

/-- The state that reads as a node says, a new one if there is none. -/
def Shared.intern (s : Shared) (node : Node) : Nat × Shared :=
  match s.known[node]? with
  | some id => (id, s)
  | none =>
      let id := s.known.size + 1
      (id, ⟨s.known.insert node id, s.cost + state + byteRange * node.length⟩)

/-- The state that reads one of the sequences, none longer than `n`; neighbours with the same
first byte share it. -/
def readState : Nat → List (List ByteRange) → Shared → Nat × Shared
  | 0, _, s => (0, s)
  | n + 1, sequences, s =>
      if sequences.all List.isEmpty then (0, s)
      else
        let groups := sequences.splitBy fun a b => a.head? == b.head?
        let (node, s) := groups.foldl
          (fun (node, s) group =>
            match group.head?.bind List.head? with
            | some range =>
                let (next, s) := readState n (group.map List.tail) s
                (node ++ [(range, next)], s)
            | none => (node, s))
          (([] : Node), s)
        s.intern node

/-- What a state for a set costs forwards. -/
def forwardCost (sequences : List (List ByteRange)) : Nat :=
  state + (readState 5 sequences ⟨∅, 0⟩).2.cost

/-- The beginnings of sequences in increasing order, each counted once. -/
def beginnings : List (List ByteRange) → Nat
  | [] => 0
  | [a] => a.length
  | a :: b :: rest => a.length - common a b + beginnings (b :: rest)
where
  common : List ByteRange → List ByteRange → Nat
    | a :: as, b :: bs => if a = b then common as bs + 1 else 0
    | _, _ => 0

def backwardCost (sequences : List (List ByteRange)) : Nat :=
  2 * state + wayOut * sequences.length + state * beginnings sequences

/-- A set of characters.  Sets of ASCII characters take one state and its end. -/
def setCost (set : Runs) : Cost :=
  if set.toList.all fun run => run.2 < 0x80 then
    .both (2 * state + byteRange * set.toList.length)
  else
    let sequences := sequences set
    ⟨forwardCost sequences, backwardCost sequences⟩

/-! ## Literals -/

/-- Literals without their first byte, gathered by it; and whether one is empty. -/
def byFirst (literals : List (List UInt8)) : List (UInt8 × List (List UInt8)) :=
  let firsts := (literals.filterMap List.head?).eraseDups
  firsts.map fun byte =>
    (byte, literals.filterMap fun literal => match literal with
      | b :: rest => if b = byte then some rest else none
      | [] => none)

/-- The literals before, between and after the empty ones. -/
def chunks (literals : List (List UInt8)) : List (List (List UInt8)) :=
  match literals with
  | [] => [[]]
  | [] :: rest => [] :: chunks rest
  | literal :: rest =>
      match chunks rest with
      | [] => [[literal]]
      | chunk :: later => (literal :: chunk) :: later

/-- A choice between literals of at most `n` bytes, read byte by byte. -/
def choiceOfLiterals : Nat → List (List UInt8) → Nat
  | 0, _ => 0
  | n + 1, literals =>
      if literals.all List.isEmpty then 0
      else
        let chunks := chunks literals
        let chunkCost := fun (chunk : List (List UInt8)) =>
          let groups := byFirst chunk
          let here := match groups with
            | [] => 0
            | [_] => state + wayOut
            | groups => state + wayOut + byteRange * groups.length
          here + (groups.map fun (_, rest) => choiceOfLiterals n rest).foldl (· + ·) 0
        state + wayOut * (chunks.length - 1) + (chunks.map chunkCost).foldl (· + ·) 0

/-! ## Patterns -/

/-- A piece of a branch. -/
inductive Piece where
  | literal (bytes : List UInt8)
  | set (runs : Runs)
  /-- Anything else, with its cost. -/
  | other (pattern : Pattern) (cost : Cost)
deriving DecidableEq, Repr

namespace Piece

def cost : Piece → Cost
  | literal bytes => .both (state * bytes.length)
  | set runs => setCost runs
  | other _ cost => cost

def ofSet (runs : Runs) : Piece :=
  match runs.toList with
  | [(first, last)] => if first = last then literal (bytesOf first) else set runs
  | _ => set runs

/-- The bytes of a literal that is one character long. -/
def character? : Piece → Option Nat
  | literal bytes =>
      match String.fromUTF8? ⟨bytes.toArray⟩ with
      | some text =>
          match text.toList with
          | [c] => some c.toNat
          | _ => none
      | none => none
  | _ => none

def runs? : Piece → Option Runs
  | set runs => some runs
  | _ => none

def bytes? : Piece → Option (List UInt8)
  | literal bytes => some bytes
  | _ => none

end Piece

abbrev Branch := List Piece

/-- Two branches one after the other; literals that meet are one. -/
def joinBranches : Branch → Branch → Branch
  | [], b => b
  | [.literal xs], .literal ys :: b => .literal (xs ++ ys) :: b
  | p :: a, b => p :: joinBranches a b

def branchCost (branch : Branch) : Cost :=
  if branch.isEmpty then .both state else .sum (branch.map Piece.cost)

/-- The longest common beginning of two branches. -/
def commonPieces : Branch → Branch → Branch
  | a :: as, b :: bs => if a = b then a :: commonPieces as bs else []
  | _, _ => []

/-- The common beginning of branches that all have several pieces. -/
def sharedPieces (branches : List Branch) : Branch :=
  match branches with
  | [] => []
  | first :: rest =>
      if branches.all fun branch => 2 ≤ branch.length then rest.foldl commonPieces first else []

/-- The pieces of a choice between branches: one set if all are sets or all single characters,
else what they share and a choice between the rest.  `pattern` is what the choice is called. -/
def choose (pattern : Pattern) : Nat → List Branch → Branch
  | _, [branch] => branch
  | 0, branches => branches.flatten
  | n + 1, branches =>
      let singles := branches.map fun branch => match branch with
        | [piece] => some piece
        | _ => none
      match singles.mapM fun piece => piece.bind Piece.character? with
      | some numbers => [Piece.ofSet (.ofList (numbers.map fun n => (n, n)))]
      | none =>
          match singles.mapM fun piece => piece.bind Piece.runs? with
          | some sets => [Piece.ofSet (.unions sets)]
          | none =>
              let shared := sharedPieces branches
              if !shared.isEmpty then
                joinBranches shared
                  (choose pattern n (branches.map fun branch => branch.drop shared.length))
              else match singles.mapM fun piece => piece.bind Piece.bytes? with
                | some literals =>
                    let longest := (literals.map List.length).foldl max 0
                    let forward := choiceOfLiterals (longest + 1) literals
                    let backward := choiceOfLiterals (longest + 1) (literals.map List.reverse)
                    [.other pattern ⟨state + forward, state + backward⟩]
                | none =>
                    let choice := Cost.both (2 * state + wayOut * branches.length)
                    [.other pattern (choice.add (.sum (branches.map branchCost)))]

/-- The pieces of all branches of a pattern. -/
def branches : Pattern → List Branch
  | nothing => [[]]
  | one set => [[.ofSet set.runs]]
  | assert a => [[.other (.assert a) (.both state)]]
  | seq a b => [joinBranches (closed a (branches a)) (closed b (branches b))]
  | either a b => branches a ++ branches b
  | group i a =>
      let cost := Cost.add ⟨2 * state, 0⟩ (branchCost (closed a (branches a)))
      [[.other (.group i a) cost]]
  | repeated a least more greedy =>
      let body := branchCost (closed a (branches a))
      [[.other (.repeated a least more greedy) (repeatedCost a.readsSomething body least more)]]
where
  closed (p : Pattern) (branches : List Branch) : Branch :=
    choose p ((branches.map List.length).foldl max 0 + 1) branches
  /-- Rounds of a body: the least number is written out, and each more is a choice. -/
  repeatedCost (something : Bool) (body : Cost) (least : Nat) (more : Option Nat) : Cost :=
    match least, more with
    | 0, some 1 => (Cost.both (2 * state + 2 * wayOut)).add body
    | 0, none =>
        if something then (Cost.both (state + 2 * wayOut)).add body
        else (Cost.both (3 * state + 4 * wayOut)).add body
    | least, none => (Cost.both (state + 2 * wayOut)).add (.times least body)
    | least, some 0 => .times least body
    | least, some more =>
        let first := if least = 0 then Cost.both state else .times least body
        let later := Cost.times more ((Cost.both (state + 2 * wayOut)).add body)
        (Cost.both state).add (first.add later)

/-- The machines of a pattern, which look for it anywhere in a text. -/
def cost (p : Pattern) : Cost :=
  let search := 3 * state + byteRange + 2 * wayOut
  (Cost.mk (search + 3 * state) (search + state)).add
    (branchCost (choose p p.branches.flatten.length.succ p.branches))

/-- The largest machine that is accepted. -/
def costLimit : Nat := 10 * 0x100000

def isSmall (p : Pattern) : Bool := p.cost.forward ≤ costLimit && p.cost.backward ≤ costLimit

end Manuscript.Pattern

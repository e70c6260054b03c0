/-
# Manuscript.Pattern.Parser -- reading written patterns

The notation of patterns: characters stand for themselves, `.` for any but a line
feed, brackets for sets with nested sets and the set operations `&&`, `--` and
`~~`, parentheses for groups, bars for alternatives, and `*`, `+`, `?` and counts
in braces for repetition, with `?` after them for the shortest.  Flags `i`, `m`,
`s`, `R`, `U`, `u` and `x` are set for the rest of a group or for a group of their own.

A text that is no pattern has no reading.  References back to a group and
conditions on the text around a place are no patterns, because a match could not
be found in one pass.  Without the flag `u` no set may hold a character that is not
ASCII, because it would hold parts of characters.  Nor is a text a pattern whose
parts nest too deeply, or whose machine would be too large (`Pattern.isSmall`).
-/
import Manuscript.Pattern.Property
import Manuscript.Pattern.Size
import Manuscript.Text.Digit

namespace Manuscript.Pattern

set_option autoImplicit false

open Text

structure Flags where
  ignoreCase : Bool
  multiline : Bool
  dotAll : Bool
  /-- A carriage return may break a line. -/
  anyBreak : Bool
  swapGreed : Bool
  unicode : Bool
  /-- Blanks and comments between the parts mean nothing. -/
  spaced : Bool
deriving DecidableEq, Repr

def Flags.default : Flags := ⟨false, false, false, false, false, true, false⟩

namespace Parser

/-- What is left to read, the flags in force, the number of groups so far and their names. -/
structure State where
  rest : List Char
  flags : Flags
  groups : Nat
  names : List (List Char)

abbrev Reader := StateT State Option

def rest : Reader (List Char) := State.rest <$> get

def flags : Reader Flags := State.flags <$> get

def goTo (cs : List Char) : Reader Unit := modify fun s => { s with rest := cs }

def setFlags (f : Flags) : Reader Unit := modify fun s => { s with flags := f }

/-! ## Blanks -/

def withoutComments : Bool → List Char → List Char
  | _, [] => []
  | true, c :: cs => withoutComments (c != '\n') cs
  | false, c :: cs =>
      if c == '#' then withoutComments true cs
      else if isBlank c then withoutComments false cs else c :: cs

def skipBlanks (spaced : Bool) (cs : List Char) : List Char :=
  if spaced then withoutComments false cs else cs

/-- The remaining text, after blanks where they mean nothing. -/
def visible : Reader (List Char) := do
  let cs := skipBlanks (← flags).spaced (← rest)
  goTo cs
  pure cs

/-- Goes on after a character, and after blanks where they mean nothing; the end is an error. -/
def expectMore (cs : List Char) : Reader (List Char) := do
  goTo cs
  match ← visible with
  | [] => failure
  | c :: cs => pure (c :: cs)

/-- The character that seems to come after blanks.  A comment is not passed over here, only the
sign that opens it. -/
def glimpse (spaced : Bool) (cs : List Char) : Option Char :=
  if !spaced then cs.head?
  else match trimStart cs with
    | '#' :: cs => (trimStart cs).head?
    | cs => cs.head?

/-! ## Characters and classes -/

def hexScalar? (digits : List Char) : Option Char :=
  if digits.isEmpty then none else numberOf? 16 digits >>= scalar?

/-- So many of the next characters, after each of which blanks may stand. -/
def nextVisible : Nat → Reader (List Char)
  | 0 => pure []
  | n + 1 => do
      match ← rest with
      | [] => failure
      | c :: cs => goTo cs; let _ ← visible; pure (c :: (← nextVisible n))

/-- The characters up to a closing brace, without blanks where they mean nothing. -/
def braced : Nat → Reader (List Char)
  | 0 => failure
  | n + 1 => do
      match ← visible with
      | [] => failure
      | '\x7d' :: cs => goTo cs; pure []
      | c :: cs => goTo cs; pure (c :: (← braced n))

/-- A character by its number: so many digits, or any number of them between braces.  A byte that
is not ASCII is no character without Unicode. -/
def numbered (digits : Nat) : Reader Char := do
  match ← visible with
  | '\x7b' :: cs =>
      goTo cs
      let c ← (hexScalar? (← braced (cs.length + 1)) : Option Char)
      let _ ← visible
      pure c
  | _ =>
      let c ← (hexScalar? (← nextVisible digits) : Option Char)
      if digits = 2 ∧ 0x80 ≤ c.toNat ∧ !(← flags).unicode then failure else pure c

/-- What a backslash and the next characters stand for. -/
inductive Escape where
  | char (c : Char)
  | set (s : CharSet)
  | place (a : Assertion)

/-- The letters of words, digits and blanks under the flags in force. -/
def wordSet (f : Flags) : CharSet := if f.unicode then .word else .asciiWord

def digitSet (f : Flags) : CharSet := if f.unicode then .digit else .asciiDigit

def blankSet (f : Flags) : CharSet := if f.unicode then .blank else .asciiSpace

/-- A set under the flags in force. -/
def cased (f : Flags) (s : CharSet) : CharSet :=
  if !f.ignoreCase then s else if f.unicode then .folded s else .foldedAscii s

/-- Without Unicode the complement of a class would hold parts of characters. -/
def complement (f : Flags) (s : CharSet) : Option CharSet :=
  if f.unicode then some (.complement s) else none

def class? (f : Flags) (c : Char) : Option (Option CharSet) :=
  match c with
  | 'd' => some (digitSet f)
  | 's' => some (blankSet f)
  | 'w' => some (wordSet f)
  | 'D' => some (complement f (digitSet f))
  | 'S' => some (complement f (blankSet f))
  | 'W' => some (complement f (wordSet f))
  | _ => none

/-- The property after a letter P: one letter, or a name between braces. -/
def property (negated : Bool) : Reader CharSet := do
  let set ← match ← visible with
    | [] => failure
    | '\\' :: _ => failure
    | '\x7b' :: cs => do
        goTo cs
        (Property.written? (← braced (cs.length + 1)) : Option Unicode.Runs)
    | c :: cs => do goTo cs; (Property.alone? [c] : Option Unicode.Runs)
  let f ← flags
  if !f.unicode then failure
  else
    let set := cased f (.table set)
    pure (if negated then .complement set else set)

def controlChar? : Char → Option Char
  | 'a' => some '\x07'
  | 'f' => some '\x0c'
  | 't' => some '\t'
  | 'n' => some '\n'
  | 'r' => some '\r'
  | 'v' => some '\x0b'
  | _ => none

/-- ASCII characters other than letters, digits and angle brackets stand for themselves. -/
def isPlainEscape (c : Char) : Bool := c.toNat < 0x80 && !c.isAlphanum && c != '<' && c != '>'

/-- The names of the half boundaries, written between braces after a boundary. -/
def boundaryNamed? (letters : CharSet) (name : List Char) : Option Assertion :=
  [("start", Assertion.wordStart letters), ("end", Assertion.wordEnd letters),
   ("start-half", Assertion.notAfterWord letters),
   ("end-half", Assertion.notBeforeWord letters)].lookup (String.ofList name)

/-- The letters of a name, which blanks may separate. -/
def boundaryName : Nat → Reader (List Char)
  | 0 => failure
  | n + 1 => do
      match ← rest with
      | [] => pure []
      | c :: cs =>
          if c.isAlpha || c == '-' then
            goTo cs
            let _ ← visible
            pure (c :: (← boundaryName n))
          else pure []

def boundary : Reader Assertion := do
  let letters := wordSet (← flags)
  let here ← get
  match here.rest with
  | '\x7b' :: cs =>
      goTo cs
      let _ ← visible
      match ← boundaryName (cs.length + 1), ← rest with
      | [], _ => set here; pure (.boundary letters)
      | name, '\x7d' :: after => goTo after; (boundaryNamed? letters name : Option Assertion)
      | _, _ => failure
  | _ => pure (.boundary letters)

/-- Reads what follows a backslash. -/
def escape : Reader Escape := do
  match ← rest with
  | [] => failure
  | c :: cs =>
      goTo cs
      let f ← flags
      match c, class? f c, controlChar? c with
      | _, some set, _ => Escape.set <$> (set : Option CharSet)
      | _, _, some control => pure (.char control)
      | 'p', _, _ => Escape.set <$> property false
      | 'P', _, _ => Escape.set <$> property true
      | 'x', _, _ => Escape.char <$> numbered 2
      | 'u', _, _ => Escape.char <$> numbered 4
      | 'U', _, _ => Escape.char <$> numbered 8
      | 'A', _, _ => pure (.place .textStart)
      | 'z', _, _ => pure (.place .textEnd)
      | 'b', _, _ => Escape.place <$> boundary
      | 'B', _, _ => pure (.place (.noBoundary (wordSet f)))
      | '<', _, _ => pure (.place (.wordStart (wordSet f)))
      | '>', _, _ => pure (.place (.wordEnd (wordSet f)))
      | _, _, _ => if isPlainEscape c then pure (.char c) else failure

/-! ## Sets between brackets -/

inductive SetOp where
  | inter
  | minus
  | either

def SetOp.apply : SetOp → CharSet → CharSet → CharSet
  | inter => .inter
  | minus => .minus
  | either => .either

/-- The set so far: what stands before the last operation and how deep that nests; the items after
it, how many they are and how deep the deepest nests. -/
structure SetSoFar where
  before : Option (SetOp × CharSet × Nat)
  items : CharSet
  count : Nat
  deepest : Nat

namespace SetSoFar

def ofItems (items : CharSet) (count : Nat) : SetSoFar := ⟨none, items, count, 0⟩

def add (s : SetSoFar) (item : CharSet) (depth : Nat) : SetSoFar :=
  { s with items := .union s.items item, count := s.count + 1, deepest := max s.deepest depth }

def value (f : Flags) (s : SetSoFar) : CharSet :=
  match s.before with
  | some (op, left, _) => op.apply (cased f left) (cased f s.items)
  | none => s.items

/-- Several items are one level deeper than one. -/
def depth (s : SetSoFar) : Nat :=
  let items := if s.count < 2 then s.deepest else s.deepest + 1
  match s.before with
  | some (_, _, left) => max left items + 1
  | none => items

/-- All of it becomes what stands before an operation. -/
def operate (f : Flags) (op : SetOp) (s : SetSoFar) : SetSoFar :=
  ⟨some (op, s.value f, s.depth), .empty, 0, 0⟩

end SetSoFar

/-- A class by its name between brackets and colons, and what follows it. -/
def namedClass? : List Char → Option (Bool × CharSet × List Char)
  | '[' :: ':' :: cs =>
      let (negated, cs) := match cs with
        | '^' :: cs => (true, cs)
        | _ => (false, cs)
      match cs.span (· ≠ ':') with
      | (name, ':' :: ']' :: after) =>
          (CharSet.named.lookup (String.ofList name)).map fun set => (negated, set, after)
      | _ => none
  | _ => none

/-- One character or class inside brackets. -/
def setItem : Reader Escape := do
  match ← rest with
  | [] => failure
  | '\\' :: cs => goTo cs; escape
  | c :: cs => goTo cs; pure (.char c)

def mayHold (f : Flags) (c : Char) : Bool := f.unicode || c.toNat < 0x80

def setOfItem (f : Flags) : Escape → Option CharSet
  | .char c => if mayHold f c then some (.single c) else none
  | .set s => some s
  | .place _ => none

def rangeOf (f : Flags) : Escape → Escape → Option CharSet
  | .char a, .char b =>
      if a.toNat ≤ b.toNat && mayHold f a && mayHold f b then some (.range a b) else none
  | _, _ => none

/-- A range, or one item where no range is written. -/
def setRange : Reader CharSet := do
  let first ← setItem
  let f ← flags
  match ← visible with
  | [] => failure
  | '-' :: cs =>
      if glimpse f.spaced cs ∈ [some ']', some '-'] then (setOfItem f first : Option CharSet)
      else
        let _ ← expectMore cs
        (rangeOf f first (← setItem) : Option CharSet)
  | _ => (setOfItem f first : Option CharSet)

/-- The dashes that stand for themselves at the start of a set. -/
def openingDashes : Nat → Nat → Reader Nat
  | 0, _ => failure
  | n + 1, count => do
      match ← rest with
      | '-' :: cs => let _ ← expectMore cs; openingDashes n (count + 1)
      | _ => pure count

/-- What stands first between brackets: a mark of negation, and the dashes or the bracket that
stand for themselves there. -/
def setOpening : Reader (Bool × SetSoFar) := do
  let cs ← expectMore (← rest)
  let negated ← match cs with
    | '^' :: cs => do let _ ← expectMore cs; pure true
    | _ => pure false
  let dashes ← openingDashes (cs.length + 1) 0
  match dashes, ← rest with
  | 0, ']' :: cs => let _ ← expectMore cs; pure (negated, .ofItems (.single ']') 1)
  | 0, _ => pure (negated, .ofItems .empty 0)
  | n, _ => pure (negated, .ofItems (.single '-') n)

/-- Reads a set up to its closing bracket. -/
def setBody : Nat → SetSoFar → Reader SetSoFar
  | 0, _ => failure
  | n + 1, s => do
      let f ← flags
      match ← visible with
      | [] => failure
      | ']' :: cs => goTo cs; pure s
      | '&' :: '&' :: cs => goTo cs; setBody n (s.operate f .inter)
      | '-' :: '-' :: cs => goTo cs; setBody n (s.operate f .minus)
      | '~' :: '~' :: cs => goTo cs; setBody n (s.operate f .either)
      | '[' :: cs =>
          match namedClass? ('[' :: cs) with
          | some (negated, set, after) =>
              goTo after
              let set := cased f set
              let set ← (if negated then complement f set else some set : Option CharSet)
              setBody n (s.add set 0)
          | none =>
              goTo cs
              let (negated, start) ← setOpening
              let inner ← setBody n start
              let set := cased f (inner.value f)
              let set ← (if negated then complement f set else some set : Option CharSet)
              setBody n (s.add set (inner.depth + 1))
      | _ => setBody n (s.add (← setRange) 0)

/-- Reads a set after its opening bracket; and how deep it nests. -/
def bracketed : Reader (CharSet × Nat) := do
  let f ← flags
  let (negated, start) ← setOpening
  let s ← setBody ((← rest).length + 1) start
  let set := cased f (s.value f)
  let set ← (if negated then complement f set else some set : Option CharSet)
  pure (set, s.depth + 1)

/-! ## Counts -/

/-- The digits at the start, which blanks may separate where they mean nothing, and the rest. -/
def digitsFrom (spaced : Bool) : Nat → List Char → List Char × List Char
  | 0, cs => ([], cs)
  | _, [] => ([], [])
  | n + 1, c :: cs =>
      if c.isDigit then
        let (digits, rest) := digitsFrom spaced n (skipBlanks spaced cs)
        (c :: digits, rest)
      else ([], c :: cs)

/-- A number with blanks around it, of at most 32 bits. -/
def count? (spaced : Bool) (cs : List Char) : Option (Nat × List Char) :=
  let (digits, rest) := digitsFrom spaced cs.length (trimStart cs)
  let n := digits.foldl (fun n d => if n < 0x100000000 then n * 10 + (d.toNat - 0x30) else n) 0
  if digits.isEmpty ∨ 0x100000000 ≤ n then none else some (n, skipBlanks spaced (trimStart rest))

/-- The least number of rounds and how many more there may be, after an opening brace. -/
def counts? (spaced : Bool) (cs : List Char) : Option ((Nat × Option Nat) × List Char) := do
  let (least, cs) ← count? spaced (skipBlanks spaced cs)
  match cs with
  | '\x7d' :: cs => some ((least, some 0), cs)
  | ',' :: cs =>
      match skipBlanks spaced cs with
      | '\x7d' :: cs => some ((least, none), cs)
      | cs => do
          let (most, cs) ← count? spaced cs
          match cs with
          | '\x7d' :: cs => if least ≤ most then some ((least, some (most - least)), cs) else none
          | _ => none
  | _ => none

/-! ## Groups -/

def flagUpdate? (value : Bool) (f : Flags) : Char → Option Flags
  | 'i' => some { f with ignoreCase := value }
  | 'm' => some { f with multiline := value }
  | 's' => some { f with dotAll := value }
  | 'R' => some { f with anyBreak := value }
  | 'U' => some { f with swapGreed := value }
  | 'u' => some { f with unicode := value }
  | 'x' => some { f with spaced := value }
  | _ => none

/-- The flags written between a question mark and a colon or parenthesis, none of them twice;
those after a dash are taken away. -/
def flagLetters? (value : Bool) (seen : List Char) (f : Flags) : List Char → Option Flags
  | [] => some f
  | c :: cs =>
      if c = '-' then
        if value && !cs.isEmpty then flagLetters? false seen f cs else none
      else if c ∈ seen then none
      else flagUpdate? value f c >>= fun f => flagLetters? value (c :: seen) f cs

inductive GroupKind where
  /-- A group that remembers what it read. -/
  | numbered (index : Nat)
  | plain (flags : Flags)
  /-- No group: flags for the rest of the group around it. -/
  | settings (flags : Flags)

def isNameStart (c : Char) : Bool := c == '_' || Unicode.alphabetic.contains c.toNat

def isNameChar (c : Char) : Bool :=
  isNameStart c || Unicode.number.contains c.toNat || c == '.' || c == '[' || c == ']'

def isGroupName : List Char → Bool
  | [] => false
  | c :: cs => isNameStart c && cs.all isNameChar

def freshGroup : Reader GroupKind := do
  let s ← get
  set { s with groups := s.groups + 1 }
  pure (.numbered (s.groups + 1))

/-- A group with a name, which no other group has. -/
def namedGroup (cs : List Char) : Reader GroupKind := do
  match cs.span (· ≠ '>') with
  | (_, []) => failure
  | (name, _ :: after) =>
      if !isGroupName name || (← get).names.contains name then failure
      else
        modify fun s => { s with rest := after, names := name :: s.names }
        freshGroup

/-- Reads what follows an opening parenthesis and says what kind of group it opens. -/
def groupOpening : Reader GroupKind := do
  match ← visible with
  | '?' :: '=' :: _ => failure
  | '?' :: '!' :: _ => failure
  | '?' :: '<' :: '=' :: _ => failure
  | '?' :: '<' :: '!' :: _ => failure
  | '?' :: 'P' :: '<' :: cs => namedGroup cs
  | '?' :: '<' :: cs => namedGroup cs
  | '?' :: cs =>
      match cs.span fun c => c ≠ ':' && c ≠ ')' with
      | (_, []) => failure
      | (letters, close :: after) =>
          let f ← (flagLetters? true [] (← flags) letters : Option Flags)
          goTo after
          if close = ':' then pure (.plain f)
          else if letters.isEmpty then failure
          else pure (.settings f)
  | _ => freshGroup

/-! ## Patterns -/

/-- A pattern and how deep its notation nests. -/
structure Part where
  pattern : Pattern
  depth : Nat

/-- Deeper notations are refused. -/
def depthLimit : Nat := 250

/-- What has been read of the current branch, the last item first; flags stand for nothing and
cannot be repeated. -/
abbrev Branch := List (Option Part)

/-- The depth of several parts side by side; one alone stands for itself. -/
def sideBySide (depths : List Nat) : Nat :=
  match depths with
  | [] => 0
  | [depth] => depth
  | depths => depths.foldl max 0 + 1

def Branch.part (b : Branch) : Part :=
  let pattern := match b.filterMap id with
    | [] => .nothing
    | last :: earlier => earlier.foldl (fun later p => .seq p.pattern later) last.pattern
  ⟨pattern, sideBySide (b.map fun item => (item.map Part.depth).getD 0)⟩

def alternatives (earlier : List Part) (last : Part) : Part :=
  ⟨earlier.foldl (fun later p => .either p.pattern later) last.pattern,
   sideBySide ((last :: earlier).map Part.depth)⟩

/-- So many rounds of a pattern.  More than one round of what reads nothing are one round. -/
def rounds (p : Pattern) (least : Nat) (more : Option Nat) (greedy : Bool) : Pattern :=
  let (least, more) :=
    if p.readsNothing then
      (min least 1, some (match more with
        | some more => min (least + more) 1 - min least 1
        | none => 1 - min least 1))
    else (least, more)
  if more = some 0 ∧ least = 0 then .nothing
  else if more = some 0 ∧ least = 1 then p
  else .repeated p least more greedy

/-- The last item of a branch, repeated.  Before the question mark for the shortest, blanks may
stand only after a count in braces. -/
def repeatLast (branch : Branch) (counts : Nat × Option Nat) (blanks : Bool) (after : List Char) :
    Reader Branch := do
  match branch with
  | some item :: items =>
      let f ← flags
      let cs := skipBlanks (f.spaced && blanks) after
      let (lazily, cs) := match cs with
        | '?' :: cs => (true, cs)
        | _ => (false, cs)
      goTo cs
      let pattern := rounds item.pattern counts.1 counts.2 (lazily == f.swapGreed)
      pure (some ⟨pattern, item.depth + 1⟩ :: items)
  | _ => failure

def literal (f : Flags) (c : Char) : Pattern := .one (cased f (.single c))

def dot (f : Flags) : Option Pattern :=
  if !f.unicode then none
  else if f.dotAll then some (.one .any)
  else if f.anyBreak then some (.one (.complement (.ofList ['\r', '\n'])))
  else some (.one (.complement (.single '\n')))

def startOfLine (f : Flags) : Assertion :=
  if !f.multiline then .textStart else if f.anyBreak then .anyLineStart else .lineStart

def endOfLine (f : Flags) : Assertion :=
  if !f.multiline then .textEnd else if f.anyBreak then .anyLineEnd else .lineEnd

def ofEscape (f : Flags) : Escape → Pattern
  | .char c => literal f c
  | .set s => .one s
  | .place a => .assert a

/-- Reads the alternatives of a group, or of the whole pattern, to their end. -/
def pattern : Nat → Bool → List Part → Branch → Reader Part
  | 0, _, _, _ => failure
  | n + 1, inside, earlier, branch => do
      let f ← flags
      let item := fun (p : Pattern) => pattern n inside earlier (some ⟨p, 0⟩ :: branch)
      match ← visible with
      | [] => if inside then failure else pure (alternatives earlier branch.part)
      | ')' :: cs =>
          goTo cs
          if inside then pure (alternatives earlier branch.part) else failure
      | '|' :: cs => goTo cs; pattern n inside (branch.part :: earlier) []
      | '(' :: cs =>
          goTo cs
          match ← groupOpening with
          | .settings g => setFlags g; pattern n inside earlier (none :: branch)
          | .plain g =>
              setFlags g
              let body ← pattern n true [] []
              setFlags f
              pattern n inside earlier (some { body with depth := body.depth + 1 } :: branch)
          | .numbered index =>
              let body ← pattern n true [] []
              setFlags f
              let group : Part := ⟨.group index body.pattern, body.depth + 1⟩
              pattern n inside earlier (some group :: branch)
      | '*' :: cs => pattern n inside earlier (← repeatLast branch (0, none) false cs)
      | '+' :: cs => pattern n inside earlier (← repeatLast branch (1, none) false cs)
      | '?' :: cs => pattern n inside earlier (← repeatLast branch (0, some 1) false cs)
      | '\x7b' :: cs =>
          let (counts, after) ← (counts? f.spaced cs : Option ((Nat × Option Nat) × List Char))
          pattern n inside earlier (← repeatLast branch counts true after)
      | '[' :: cs =>
          goTo cs
          let (set, depth) ← bracketed
          pattern n inside earlier (some ⟨.one set, depth⟩ :: branch)
      | '.' :: cs => goTo cs; item (← (dot f : Option Pattern))
      | '^' :: cs => goTo cs; item (.assert (startOfLine f))
      | '$' :: cs => goTo cs; item (.assert (endOfLine f))
      | '\\' :: cs => goTo cs; item (ofEscape f (← escape))
      | c :: cs => goTo cs; item (literal f c)

end Parser

/-- The pattern a text writes down. -/
def parse? (text : String) : Option Pattern := do
  let cs := text.toList
  let (part, _) ← (Parser.pattern (cs.length + 1) false [] []).run ⟨cs, .default, 0, []⟩
  if part.depth ≤ Parser.depthLimit ∧ part.pattern.isSmall then some part.pattern else none

end Manuscript.Pattern

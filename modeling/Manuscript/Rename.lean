/-
# Manuscript.Rename -- a new name in all places at once

A label and its references, or the key of a bibliography entry and its citations,
are renamed in all related documents together.  The symbol is the one the cursor
touches; where it is defined more than once, a rename could not tell the
definitions apart and is refused, as is a name that could not be read back from
where it is written.
-/
import Manuscript.Document

namespace Manuscript

set_option autoImplicit false

open Text

/-- What carries a name. -/
inductive NameSort where
  | label
  | citation
deriving DecidableEq, Repr, Inhabited

/-- A new text for a range of a document. -/
structure Edit where
  range : Range
  text : String
deriving DecidableEq, Repr, Inhabited

structure Rename where
  oldName : String
  newName : String
  /-- The documents with edits and, in the order of the text, their edits. -/
  changes : List (Url × List Edit)
deriving DecidableEq, Repr

namespace Rename

def editCount (r : Rename) : Nat :=
  r.changes.foldl (fun n change => n + change.2.length) 0

/-! ## Names -/

/-- Characters that would end the name where it is written. -/
def breaksName (c : Char) : Bool := isBlank c || c ∈ ['\x7b', '\x7d', ',', '%', '\\']

def isValidName (name : String) : Bool := name != "" && !name.toList.any breaksName

/-! ## Symbols -/

/-- The symbol under an offset, and what it names. -/
def target? (contents : Structure) (offset : Nat) : Option (Symbol × NameSort) :=
  let touched (sort : NameSort) (symbols : List Symbol) : Option (Symbol × NameSort) :=
    (symbols.find? (·.span.touches offset)).map fun symbol => (symbol, sort)
  match contents with
  | .latex s =>
      (touched .label (s.labelDefinitions ++ s.labelReferences)).or (touched .citation s.citations)
  | .bibtex s => touched .citation s.keys

/-- The symbol under the cursor. -/
def symbolAt? (origin : Document) (p : Position) : Except Error (Symbol × NameSort) :=
  match origin.offset? p >>= target? origin.contents with
  | some found => .ok found
  | none => .error (.symbolNotFound p)

/-- The definitions of names of a sort. -/
def definitions (sort : NameSort) : Structure → List Symbol
  | .latex s =>
      match sort with
      | .label => s.labelDefinitions
      | .citation => []
  | .bibtex s =>
      match sort with
      | .label => []
      | .citation => s.keys

/-- The definitions and uses of names of a sort. -/
def occurrences (sort : NameSort) : Structure → List Symbol
  | .latex s =>
      match sort with
      | .label => s.labelDefinitions ++ s.labelReferences
      | .citation => s.citations
  | .bibtex s =>
      match sort with
      | .label => []
      | .citation => s.keys

def named (name : String) (symbols : List Symbol) : List Symbol :=
  symbols.filter (·.name = name)

/-- The number of definitions of a name in a scope. -/
def definitionCount (sort : NameSort) (name : String) (related : List Document) : Nat :=
  related.foldr (fun d n => (named name (definitions sort d.contents)).length + n) 0

/-! ## Edits -/

/-- The edits of one document, in the order of the text. -/
def edits (sort : NameSort) (oldName newName : String) (d : Document) : List Edit :=
  let spans := (named oldName (occurrences sort d.contents)).map Symbol.span
  (spans.mergeSort fun a b => a.start ≤ b.start).map fun span => ⟨d.range span, newName⟩

/-- The changes with those of one more document, which come in the place of earlier ones. -/
def putChange (changes : List (Url × List Edit)) (change : Url × List Edit) :
    List (Url × List Edit) :=
  if changes.any (·.1 = change.1) then
    changes.map fun other => if other.1 = change.1 then change else other
  else changes ++ [change]

/-- The edits of all documents that have any. -/
def changesIn (sort : NameSort) (oldName newName : String) (related : List Document) :
    List (Url × List Edit) :=
  let nonempty := (related.map fun d => (d.uri, edits sort oldName newName d)).filter
    fun change => change.2 ≠ []
  nonempty.foldl putChange []

/-- The rename of the symbol at a place of the origin in the related documents. -/
def run? (origin : Document) (related : List Document) (p : Position) (newName : String) :
    Except Error Rename := do
  let (symbol, sort) ← symbolAt? origin p
  if !isValidName newName then throw (.invalidName newName)
  let count := definitionCount sort symbol.name related
  if 1 < count then throw (.ambiguousSymbol symbol.name count)
  pure ⟨symbol.name, newName, changesIn sort symbol.name newName related⟩

/-- The range and the name that a rename at a place would replace. -/
def prepare? (origin : Document) (p : Position) : Except Error (Range × String) := do
  let (symbol, _) ← symbolAt? origin p
  pure (origin.range symbol.span, symbol.name)

end Rename

end Manuscript

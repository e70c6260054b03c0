/-
# Manuscript.Completion.Offer -- completions at a place of a document

The candidates that what was typed is the start of, each name once.  Choosing an
offer replaces what was typed, and nothing else, with the name.
-/
import Manuscript.Completion.Candidate
import Manuscript.Settings.Basic

namespace Manuscript.Completion

set_option autoImplicit false

/-- A candidate and the place it would be written to. -/
structure Offer where
  candidate : Candidate
  range : Range
deriving DecidableEq, Repr, Inhabited

/-- The candidates whose names were neither seen nor come earlier. -/
def firstByNameFrom : List String → List Candidate → List Candidate
  | _, [] => []
  | seen, c :: cs =>
      if c.name ∈ seen then firstByNameFrom seen cs
      else c :: firstByNameFrom (c.name :: seen) cs

/-- The first candidate of each name. -/
def firstByName (cs : List Candidate) : List Candidate := firstByNameFrom [] cs

/-- The text of a line before an offset. -/
def lineBefore (d : Document) (line offset : Nat) : List Char :=
  let start := (d.lineIndex.lineStart? line).getD offset
  (Text.slice? d.text.toList ⟨start, offset⟩).getD []

/-- The offers at a place of a LaTeX document. -/
def offers (matcher : Matcher) (origin : Document) (related : List Document) (p : Position) :
    List Offer :=
  if origin.language ≠ .latex then []
  else match origin.offset? p with
    | none => []
    | some offset =>
        match Context.ofLine? (lineBefore origin p.line offset) with
        | none => []
        | some context =>
            let range := origin.range ⟨offset - Text.utf8Length context.typed, offset⟩
            let candidates := Candidate.all origin related context.topic
            (firstByName (candidates.filter fun c =>
              matcher.accepts c.name.toList context.typed)).map fun c => ⟨c, range⟩

end Manuscript.Completion

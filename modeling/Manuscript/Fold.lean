/-
# Manuscript.Fold -- lines that can be folded away

A section folds up to the line before the next section that is not deeper, and
never past the end of the environment it is written in; an environment folds from
its first line to its last, and so does an entry of a bibliography.

Sections are read with a stack of those still open: each new one closes the open
ones that are not above it.
-/
import Manuscript.Document

namespace Manuscript

set_option autoImplicit false

/-- The first and the last line of a stretch. -/
structure Fold where
  first : Nat
  last : Nat
deriving DecidableEq, Repr, Inhabited

namespace Fold

open Latex (Section Environment)

/-- The length of the body of an environment. -/
def bodyLength (e : Environment) : Nat := e.closing.start - e.opening.stop

/-- The environment with the shortest body, the first one of those. -/
def innermost? : List Environment → Option Environment
  | [] => none
  | e :: es =>
      match innermost? es with
      | none => some e
      | some f => if bodyLength f < bodyLength e then some f else some e

/-- The innermost environment around an offset. -/
def enclosing? (environments : List Environment) (offset : Nat) : Option Environment :=
  innermost? (environments.filter fun e =>
    e.opening.stop ≤ offset && offset < e.closing.start)

/-- A line, or the line before the end of the environment around an offset if that comes first. -/
def bounded (d : Document) (environments : List Environment) (offset line : Nat) : Nat :=
  match enclosing? environments offset with
  | some e => min line (d.lineOf e.closing.start - 1)
  | none => line

/-- A section that ends at a line. -/
def ofSection (d : Document) (environments : List Environment) (line : Nat) (s : Section) :
    Fold :=
  ⟨d.lineOf s.span.start, bounded d environments s.span.start line⟩

/-- The folds of sections, with the stack of the open ones; the innermost is on top. -/
def sectionsFrom (d : Document) (environments : List Environment) :
    List Section → List Section → List Fold
  | opened, [] => opened.reverse.map (ofSection d environments d.lastLine)
  | opened, s :: ss =>
      let isClosed := fun o : Section => s.level ≤ o.level
      (opened.takeWhile isClosed).map
          (ofSection d environments (d.lineOf s.span.start - 1))
        ++ sectionsFrom d environments (s :: opened.dropWhile isClosed) ss

def ofEnvironment (d : Document) (e : Environment) : Fold :=
  ⟨d.lineOf e.opening.start, d.lineOf e.closing.start⟩

def ofEntry (d : Document) (e : Bibtex.Entry) : Fold :=
  ⟨d.lineOf e.span.start, d.lineOf (e.span.stop - 1)⟩

def ofContents (d : Document) : List Fold :=
  match d.contents with
  | .latex s => sectionsFrom d s.environments [] s.sections ++ s.environments.map (ofEnvironment d)
  | .bibtex s => s.entries.map (ofEntry d)

/-- The order of folds: by first line, then by last line. -/
def atOrBefore (a b : Fold) : Bool :=
  a.first < b.first || (a.first == b.first && a.last ≤ b.last)

/-- The folds of a document that hide something, in order. -/
def all (d : Document) : List Fold :=
  ((ofContents d).filter fun f => f.first < f.last).mergeSort atOrBefore

end Fold

end Manuscript

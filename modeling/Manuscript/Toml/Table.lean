/-
# Manuscript.Toml.Table -- tables that are written in pieces

A document fills its tables in several ways: under a header, through the headers
of tables inside of them, and through keys with dots.  What may be added later
depends on how a table came to be (`Origin`), so the tree under construction
remembers it.

A table is opened by its header once.  Keys with dots make tables of their own and
fill only such tables, and the values of keys are closed.  A header may pass
through any table on its way to a new one, and through a list of tables to its
last.
-/
import Manuscript.Datum

namespace Manuscript.Toml

set_option autoImplicit false

/-- How a table came to be. -/
inductive Origin where
  /-- By a header of its own. -/
  | header
  /-- By the header of a table inside of it. -/
  | implied
  /-- By a key with dots. -/
  | dotted
deriving DecidableEq, Repr, Inhabited

inductive Node where
  | value (value : Datum)
  | table (origin : Origin) (entries : List (String × Node))
  /-- A list of tables, each with a header; the last one comes first. -/
  | tables (entries : List (List (String × Node)))
deriving Repr, Inhabited

abbrev Entries := List (String × Node)

namespace Entries

/-- The entries with another node at a key. -/
def put (es : Entries) (key : String) (node : Node) : Entries :=
  es.map fun e => if e.1 = key then (key, node) else e

/-- Changes the table at the end of a path, which starts at a table of the given origin.  The
tables of a path are made where they are missing, and only keys with dots make dotted ones. -/
def modify (byKey : Bool) (change : Origin → Entries → Option Entries) :
    List String → Origin → Entries → Option Entries
  | [], origin, es => change origin es
  | key :: path, _, es =>
      match es.lookup key with
      | none => do
          let origin := if byKey then .dotted else .implied
          let inner ← modify byKey change path origin []
          pure (es ++ [(key, .table origin inner)])
      | some (.table origin inner) =>
          if byKey && origin == .header then none
          else do
            let inner ← modify byKey change path origin inner
            pure (put es key (.table origin inner))
      | some (.tables (last :: earlier)) => do
          let last ← modify byKey change path .header last
          pure (put es key (.tables (last :: earlier)))
      | _ => none

/-- Adds a value under a key with dots. -/
def assign (path : List String) (key : String) (value : Datum) : Entries → Option Entries :=
  modify true (fun origin es =>
    if (origin == .dotted) == path.isEmpty then none
    else if (es.lookup key).isSome then none
    else some (es ++ [(key, .value value)])) path .header

/-- Opens the table at a key by its header. -/
def openTable (key : String) (es : Entries) : Option Entries :=
  match es.lookup key with
  | none => some (es ++ [(key, .table .header [])])
  | some (.table .implied inner) => some (put es key (.table .header inner))
  | _ => none

/-- Opens one more table of the list at a key. -/
def openItem (key : String) (es : Entries) : Option Entries :=
  match es.lookup key with
  | none => some (es ++ [(key, .tables [[]])])
  | some (.tables entries) => some (put es key (.tables ([] :: entries)))
  | _ => none

end Entries

/-! ## Documents -/

/-- What the lines of a document say. -/
inductive Statement where
  | table (path : List String) (key : String)
  | item (path : List String) (key : String)
  | assign (path : List String) (key : String) (value : Datum)

/-- A document so far: its tables, and the path of the one that is being filled. -/
structure Draft where
  entries : Entries
  current : List String

def Draft.add? (d : Draft) : Statement → Option Draft
  | .table path key => do
      let entries ← Entries.modify false (fun _ => Entries.openTable key) path .header d.entries
      pure ⟨entries, path ++ [key]⟩
  | .item path key => do
      let entries ← Entries.modify false (fun _ => Entries.openItem key) path .header d.entries
      pure ⟨entries, path ++ [key]⟩
  | .assign path key value => do
      let entries ←
        Entries.modify false (fun _ => Entries.assign path key value) d.current .header d.entries
      pure { d with entries }

mutual

def Node.datum : Node → Datum
  | .value value => value
  | .table _ entries => .table (entriesDatum entries)
  | .tables entries => .list (tablesDatum entries).reverse

def entriesDatum : List (String × Node) → List (String × Datum)
  | [] => []
  | (key, node) :: entries => (key, node.datum) :: entriesDatum entries

def tablesDatum : List (List (String × Node)) → List Datum
  | [] => []
  | entries :: others => .table (entriesDatum entries) :: tablesDatum others

end

/-- The data that statements describe, if they agree with each other. -/
def assemble? (statements : List Statement) : Option Datum := do
  let draft ← statements.foldlM Draft.add? ⟨[], []⟩
  pure (.table (entriesDatum draft.entries))

end Manuscript.Toml

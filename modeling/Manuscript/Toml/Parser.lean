/-
# Manuscript.Toml.Parser -- reading configuration files

`parse?` reads a document line by line into statements and assembles their tables.
Values are nested less than eighty deep and keys have at most eighty parts.  Every
statement and every value takes at least one character, so the length of the text
bounds the reading.
-/
import Manuscript.Toml.Scalar
import Manuscript.Toml.Table

namespace Manuscript.Toml

set_option autoImplicit false

def skipComment : List Char → List Char
  | '#' :: cs => cs.dropWhile isTextChar
  | cs => cs

/-- What follows the end of a line, with blanks and a comment before it. -/
def lineEnd? (cs : List Char) : Option (List Char) :=
  match skipComment (skipSpace cs) with
  | [] => some []
  | rest => newline? rest

/-! ## Keys -/

def isKeyChar (c : Char) : Bool := c.isAlphanum || c == '_' || c == '-'

/-- One part of a key: bare, or quoted on one line. -/
def keyPart? (cs : List Char) : Option (String × List Char) :=
  match cs with
  | '"' :: rest => (basic? rest).map fun (read, after) => (String.ofList read, after)
  | '\'' :: rest => (literal? rest).map fun (read, after) => (String.ofList read, after)
  | _ =>
      match cs.span isKeyChar with
      | ([], _) => none
      | (read, after) => some (String.ofList read, after)

/-- The parts of a key with dots between them. -/
def keyParts? : Nat → List Char → Option (List String × List Char)
  | 0, _ => none
  | n + 1, cs => do
      let (part, rest) ← keyPart? (skipSpace cs)
      match skipSpace rest with
      | '.' :: rest =>
          let (parts, after) ← keyParts? n rest
          pure (part :: parts, after)
      | after => pure ([part], after)

/-- The most parts a key may have. -/
def keyLimit : Nat := 79

/-- A key: the path to its table, its last part, and what follows. -/
def key? (cs : List Char) : Option ((List String × String) × List Char) := do
  let (parts, after) ← keyParts? keyLimit cs
  let last ← parts.getLast?
  pure ((parts.dropLast, last), after)

/-! ## Values -/

/-- Blanks, line breaks and comments between the items of a list. -/
def skipLayout : Nat → List Char → List Char
  | 0, cs => cs
  | n + 1, cs =>
      match cs with
      | '#' :: _ => skipLayout n (skipComment cs)
      | '\n' :: rest => skipLayout n rest
      | '\r' :: '\n' :: rest => skipLayout n rest
      | c :: rest => if isSpace c then skipLayout n rest else cs
      | [] => []

def layout (cs : List Char) : List Char := skipLayout (cs.length + 1) cs

/-- Lists and tables stand inside of one another less than this deep. -/
def nestingLimit : Nat := 80

mutual

/-- A value inside of at most `nestingLimit - 1 - depth` others. -/
def value? : Nat → Nat → List Char → Option (Datum × List Char)
  | 0, _, _ => none
  | n + 1, depth, cs =>
      match cs with
      | '"' :: _ => (string? cs).map fun (s, after) => (.text s, after)
      | '\'' :: _ => (string? cs).map fun (s, after) => (.text s, after)
      | 't' :: 'r' :: 'u' :: 'e' :: after => some (.truth true, after)
      | 'f' :: 'a' :: 'l' :: 's' :: 'e' :: after => some (.truth false, after)
      | '[' :: rest => if depth = 0 then none else items? n (depth - 1) [] (layout rest)
      | '\x7b' :: rest =>
          if depth = 0 then none
          else match skipSpace rest with
            | '\x7d' :: after => some (.table [], after)
            | rest => members? n (depth - 1) [] rest
      | _ => number? cs

/-- The items of a list after those read, which are given last first. -/
def items? : Nat → Nat → List Datum → List Char → Option (Datum × List Char)
  | 0, _, _, _ => none
  | n + 1, depth, read, cs =>
      match cs with
      | ']' :: after => some (.list read.reverse, after)
      | _ =>
          match value? n depth cs with
          | none => none
          | some (value, rest) =>
              match layout rest with
              | ',' :: rest => items? n depth (value :: read) (layout rest)
              | ']' :: after => some (.list (value :: read).reverse, after)
              | _ => none

/-- The members of a table on one line, after those read. -/
def members? : Nat → Nat → Entries → List Char → Option (Datum × List Char)
  | 0, _, _, _ => none
  | n + 1, depth, read, cs =>
      match key? cs with
      | some ((path, key), '=' :: rest) =>
          match value? n depth (skipSpace rest) with
          | none => none
          | some (value, rest) =>
              match Entries.assign path key value read, skipSpace rest with
              | some read, ',' :: rest => members? n depth read rest
              | some read, '\x7d' :: after => some (.table (entriesDatum read), after)
              | _, _ => none
      | _ => none

end

/-! ## Documents -/

/-- A statement at the start of a line that is neither empty nor a comment. -/
def statement? (cs : List Char) : Option (Statement × List Char) :=
  match cs with
  | '[' :: '[' :: rest =>
      match key? rest with
      | some ((path, key), ']' :: ']' :: after) => some (.item path key, after)
      | _ => none
  | '[' :: rest =>
      match key? rest with
      | some ((path, key), ']' :: after) => some (.table path key, after)
      | _ => none
  | _ =>
      match key? cs with
      | some ((path, key), '=' :: rest) =>
          (value? (2 * cs.length + 2) (nestingLimit - 1) (skipSpace rest)).map
            fun (value, after) => (.assign path key value, after)
      | _ => none

/-- The statements of a document, and no other lines. -/
def statements? : Nat → List Char → Option (List Statement)
  | 0, _ => none
  | n + 1, cs =>
      match skipSpace cs with
      | [] => some []
      | '#' :: rest => lineEnd? ('#' :: rest) >>= statements? n
      | '\n' :: rest => statements? n rest
      | '\r' :: '\n' :: rest => statements? n rest
      | rest => do
          let (statement, after) ← statement? rest
          let statements ← lineEnd? after >>= statements? n
          pure (statement :: statements)

/-- A mark of the byte order may stand at the start of a file. -/
def withoutMark : List Char → List Char
  | '\ufeff' :: cs => cs
  | cs => cs

/-- The data of a configuration file. -/
def parse? (text : String) : Option Datum :=
  let cs := withoutMark text.toList
  statements? (cs.length + 1) cs >>= assemble?

end Manuscript.Toml

namespace Manuscript

/-- Data from a configuration file: an empty list or table beside a choice, and lists may have
surplus items. -/
def Dialect.toml : Dialect where
  isPayload
    | .list [] => true
    | .table [] => true
    | _ => false
  surplus := true

end Manuscript

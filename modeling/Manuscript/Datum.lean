/-
# Manuscript.Datum -- reading records and choices from loose data

Settings and diagnostics arrive as data of a format that knows neither type.  A
record may be written as a table of its fields, with unknown ones ignored, or as a
list of its fields in their order; a choice as its name, or as a table with the
name beside an empty payload.  The formats differ in what counts as an empty
payload and in whether a list may be longer than the record: that is a `Dialect`.
-/
import Manuscript.Json.Basic

namespace Manuscript

set_option autoImplicit false

inductive Datum where
  | null
  | truth (value : Bool)
  /-- A number, known if it is a natural number. -/
  | number (value : Option Nat)
  | text (value : String)
  /-- A date or a time, which reads as a record with no field anyone knows. -/
  | moment
  | list (items : List Datum)
  | table (entries : List (String × Datum))
deriving Repr, Inhabited

/-- Where formats differ. -/
structure Dialect where
  /-- What may stand beside the name of a choice. -/
  isPayload : Datum → Bool
  /-- Whether a list may have more items than the record has fields. -/
  surplus : Bool

namespace Datum

def truth? : Datum → Option Bool
  | .truth b => some b
  | _ => none

def text? : Datum → Option String
  | .text s => some s
  | _ => none

def number? : Datum → Option Nat
  | .number n => n
  | _ => none

/-- A value that may be null. -/
def nullable? {α : Type} (read : Datum → Option α) : Datum → Option (Option α)
  | .null => some none
  | d => (read d).map some

/-- A list of values of one kind. -/
def listOf? {α : Type} (read : Datum → Option α) : Datum → Option (List α)
  | .list items => items.mapM read
  | _ => none

/-- One of the values with these names. -/
def choice? {α : Type} (dialect : Dialect) (names : List (String × α)) : Datum → Option α
  | .text name => names.lookup name
  | .table [(name, payload)] => if dialect.isPayload payload then names.lookup name else none
  | _ => none

/-- The values of a record's fields, in the order of their names. -/
def fields? (dialect : Dialect) (names : List String) : Datum → Option (List (Option Datum))
  | .table entries => some (names.map fun name => entries.lookup name)
  | .moment => some (names.map fun _ => none)
  | .list items =>
      if items.length ≤ names.length ∨ dialect.surplus then
        some (names.zipIdx.map fun (_, i) => items[i]?)
      else none
  | _ => none

/-- An absent field has its default. -/
def orDefault {α : Type} (value : Option Datum) (default : α) (read : Datum → Option α) :
    Option α :=
  match value with
  | some d => read d
  | none => some default

/-- Numbers larger than 64 bits hold are no natural numbers. -/
def naturalOf (n : Int) : Option Nat :=
  if 0 ≤ n ∧ n < 0x10000000000000000 then some n.toNat else none

mutual

def ofJson : Json → Datum
  | .null => .null
  | .bool b => .truth b
  | .integer n => .number (naturalOf n)
  | .decimal _ => .number none
  | .string s => .text s
  | .array items => .list (ofJsonItems items)
  | .object members => .table (ofJsonMembers members)

def ofJsonItems : List Json → List Datum
  | [] => []
  | item :: items => ofJson item :: ofJsonItems items

def ofJsonMembers : List (String × Json) → List (String × Datum)
  | [] => []
  | (key, value) :: members => (key, ofJson value) :: ofJsonMembers members

end

end Datum

/-- Data from an editor: nothing but null beside a choice, and no surplus items. -/
def Dialect.json : Dialect where
  isPayload
    | .null => true
    | _ => false
  surplus := false

end Manuscript

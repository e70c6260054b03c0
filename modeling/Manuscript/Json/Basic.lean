/-
# Manuscript.Json.Basic -- data in JavaScript Object Notation

The messages of an editor and the settings it sends are such data.  A number
without fraction or exponent is an `integer`; any other number keeps its text.
-/

namespace Manuscript

set_option autoImplicit false

inductive Json where
  | null
  | bool (value : Bool)
  | integer (value : Int)
  | decimal (text : String)
  | string (value : String)
  | array (items : List Json)
  | object (members : List (String × Json))
deriving Repr, Inhabited

namespace Json

def nat (n : Nat) : Json := .integer n

def ofOption {α : Type} (f : α → Json) : Option α → Json
  | some a => f a
  | none => .null

def ofList {α : Type} (f : α → Json) (items : List α) : Json := .array (items.map f)

/-- An object without the members that are absent. -/
def present (members : List (String × Option Json)) : Json :=
  .object (members.filterMap fun (key, value) => value.map (key, ·))

/-- The value of a member of an object. -/
def member? (key : String) : Json → Option Json
  | .object members => members.lookup key
  | _ => none

def string? : Json → Option String
  | .string s => some s
  | _ => none

/-- A number that counts something. -/
def nat? : Json → Option Nat
  | .integer n => if 0 ≤ n then some n.toNat else none
  | _ => none

def array? : Json → Option (List Json)
  | .array items => some items
  | _ => none

end Json

end Manuscript

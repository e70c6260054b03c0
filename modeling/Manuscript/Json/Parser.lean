/-
# Manuscript.Json.Parser -- reading data from text

`parse?` reads one value with white space around it and nothing else.  Every
value and every item takes at least one character, so the length of the text
bounds the depth of the reading.

Strings hold no raw control characters, and an escaped surrogate stands only in a
pair.  A member written twice counts with its last value.
-/
import Manuscript.Json.Basic
import Manuscript.Text.Digit

namespace Manuscript.Json

set_option autoImplicit false

open Text

def isSpace (c : Char) : Bool := c == ' ' || c == '\t' || c == '\n' || c == '\r'

def skipSpace (cs : List Char) : List Char := cs.dropWhile isSpace

/-! ## Strings -/

/-- The value of four hexadecimal digits. -/
def hexUnit? (a b c d : Char) : Option Nat := do
  pure ((((← hexValue? a) * 16 + (← hexValue? b)) * 16 + (← hexValue? c)) * 16 + (← hexValue? d))

/-- The character of an escape with one letter. -/
def letterEscape? : Char → Option Char
  | '"' => some '"'
  | '\\' => some '\\'
  | '/' => some '/'
  | 'b' => some '\x08'
  | 'f' => some '\x0c'
  | 'n' => some '\n'
  | 'r' => some '\r'
  | 't' => some '\t'
  | _ => none

/-- The character of a surrogate pair. -/
def pair? (high low : Nat) : Option Char :=
  if 0xDC00 ≤ low ∧ low ≤ 0xDFFF then
    some (Char.ofNat (0x10000 + (high - 0xD800) * 0x400 + (low - 0xDC00)))
  else none

/-- The characters of a string up to its closing quote, and what follows it. -/
def readString? : List Char → Option (List Char × List Char)
  | [] => none
  | '"' :: cs => some ([], cs)
  | '\\' :: 'u' :: a :: b :: c :: d :: cs =>
      match hexUnit? a b c d with
      | none => none
      | some unit =>
          if 0xD800 ≤ unit ∧ unit ≤ 0xDBFF then
            match cs with
            | '\\' :: 'u' :: e :: f :: g :: h :: cs => do
                let char ← pair? unit (← hexUnit? e f g h)
                let (read, rest) ← readString? cs
                pure (char :: read, rest)
            | _ => none
          else if 0xDC00 ≤ unit ∧ unit ≤ 0xDFFF then none
          else do
            let (read, rest) ← readString? cs
            pure (Char.ofNat unit :: read, rest)
  | '\\' :: e :: cs => do
      let char ← letterEscape? e
      let (read, rest) ← readString? cs
      pure (char :: read, rest)
  | c :: cs =>
      if c.toNat < 0x20 then none
      else do
        let (read, rest) ← readString? cs
        pure (c :: read, rest)

/-! ## Numbers -/

/-- At least one digit, and what follows the digits. -/
def digits? (cs : List Char) : Option (List Char × List Char) :=
  match cs.span Char.isDigit with
  | ([], _) => none
  | split => some split

def natOfDigits (ds : List Char) : Nat := ds.foldl (fun n d => n * 10 + (d.toNat - 0x30)) 0

/-- An optional fraction: its text, and what follows. -/
def fraction? : List Char → Option (List Char × List Char)
  | '.' :: cs => (digits? cs).map fun (ds, rest) => ('.' :: ds, rest)
  | cs => some ([], cs)

/-- An optional exponent: its text, and what follows. -/
def exponent? : List Char → Option (List Char × List Char)
  | e :: cs =>
      if e = 'e' ∨ e = 'E' then
        match cs with
        | '+' :: ds => (digits? ds).map fun (ds, rest) => (e :: '+' :: ds, rest)
        | '-' :: ds => (digits? ds).map fun (ds, rest) => (e :: '-' :: ds, rest)
        | ds => (digits? ds).map fun (ds, rest) => (e :: ds, rest)
      else some ([], e :: cs)
  | [] => some ([], [])

/-- A number without its sign.  It has no superfluous zero in front. -/
def readNumber? (negative : Bool) (cs : List Char) : Option (Json × List Char) := do
  let (whole, rest) ← digits? cs
  guard (whole.length = 1 ∨ whole.head? ≠ some '0')
  let (fraction, rest) ← fraction? rest
  let (exponent, rest) ← exponent? rest
  let sign := if negative then ['-'] else []
  let value :=
    if fraction = [] ∧ exponent = [] then
      let n : Int := natOfDigits whole
      Json.integer (if negative then -n else n)
    else Json.decimal (String.ofList (sign ++ whole ++ fraction ++ exponent))
  pure (value, rest)

/-! ## Values -/

/-- The members with the one given; an earlier value of its key is replaced. -/
def setMember (members : List (String × Json)) (key : String) (value : Json) :
    List (String × Json) :=
  members.filter (·.1 ≠ key) ++ [(key, value)]

mutual

/-- A value without white space before it. -/
def readValue? : Nat → List Char → Option (Json × List Char)
  | 0, _ => none
  | fuel + 1, cs =>
      match cs with
      | 'n' :: 'u' :: 'l' :: 'l' :: rest => some (.null, rest)
      | 't' :: 'r' :: 'u' :: 'e' :: rest => some (.bool true, rest)
      | 'f' :: 'a' :: 'l' :: 's' :: 'e' :: rest => some (.bool false, rest)
      | '"' :: rest => (readString? rest).map fun (s, rest) => (.string (String.ofList s), rest)
      | '[' :: rest =>
          match skipSpace rest with
          | ']' :: rest => some (.array [], rest)
          | rest => readItems? fuel [] rest
      | '\x7b' :: rest =>
          match skipSpace rest with
          | '\x7d' :: rest => some (.object [], rest)
          | rest => readMembers? fuel [] rest
      | '-' :: rest => readNumber? true rest
      | rest => readNumber? false rest

/-- The items of an array after those read, which are given last first. -/
def readItems? : Nat → List Json → List Char → Option (Json × List Char)
  | 0, _, _ => none
  | fuel + 1, read, cs =>
      match readValue? fuel cs with
      | none => none
      | some (value, rest) =>
          match skipSpace rest with
          | ',' :: rest => readItems? fuel (value :: read) (skipSpace rest)
          | ']' :: rest => some (.array (value :: read).reverse, rest)
          | _ => none

/-- The members of an object after those read. -/
def readMembers? : Nat → List (String × Json) → List Char → Option (Json × List Char)
  | 0, _, _ => none
  | fuel + 1, read, cs =>
      match cs with
      | '"' :: cs =>
          match readString? cs with
          | none => none
          | some (key, rest) =>
              match skipSpace rest with
              | ':' :: rest =>
                  match readValue? fuel (skipSpace rest) with
                  | none => none
                  | some (value, rest) =>
                      let read := setMember read (String.ofList key) value
                      match skipSpace rest with
                      | ',' :: rest => readMembers? fuel read (skipSpace rest)
                      | '\x7d' :: rest => some (.object read, rest)
                      | _ => none
              | _ => none
      | _ => none

end

/-- The value a text holds. -/
def parse? (text : String) : Option Json :=
  match readValue? (2 * text.length + 2) (skipSpace text.toList) with
  | some (value, rest) => if (skipSpace rest).isEmpty then some value else none
  | none => none

end Manuscript.Json

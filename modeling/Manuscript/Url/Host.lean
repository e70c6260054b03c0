/-
# Manuscript.Url.Host -- the host of a URL

The host of a special URL is an address or a domain.  A domain is decoded and written
in ASCII (`Domain.ascii?`); it is an address of version 4 when its last label is a
number.  An address of version
6 stands in brackets and is written in its shortest form.  Any other URL has a
loose host, which is only encoded.

`Host.parse?` gives the text of a host as it is written in the URL.
-/
import Manuscript.Url.Domain
import Manuscript.Url.Percent

namespace Manuscript.Url

set_option autoImplicit false

open Domain (labels)
open Text

/-! ## Numbers -/

/-- A number in decimal, octal after a zero, or hexadecimal after a zero and an x. -/
def ipv4Number? (cs : List Char) : Option Nat :=
  match cs with
  | [] => none
  | '0' :: 'x' :: ds => numberOf? 16 ds
  | '0' :: 'X' :: ds => numberOf? 16 ds
  | ['0'] => some 0
  | '0' :: ds => numberOf? 8 ds
  | ds => numberOf? 10 ds

/-- The labels without an empty one at the end. -/
def significantLabels (domain : List Char) : List (List Char) :=
  match (labels domain).reverse with
  | [] :: l :: ls => (l :: ls).reverse
  | ls => ls.reverse

def isNumberLabel (label : List Char) : Bool :=
  (label != [] && label.all Char.isDigit) ||
    match label with
    | '0' :: 'x' :: ds => ds.all fun c => (hexValue? c).isSome
    | '0' :: 'X' :: ds => ds.all fun c => (hexValue? c).isSome
    | _ => false

def endsInNumber (domain : List Char) : Bool :=
  match (significantLabels domain).getLast? with
  | some label => isNumberLabel label
  | none => false

/-- Four numbers with dots between them. -/
def dotted (n : Nat) : String :=
  String.intercalate "."
    [toString (n / 0x1000000), toString (n / 0x10000 % 256), toString (n / 0x100 % 256),
     toString (n % 256)]

/-- The address of a domain that ends in a number: the last number fills the bytes the
others leave. -/
def ipv4? (domain : List Char) : Option Nat := do
  let parts := significantLabels domain
  guard (parts.length ≤ 4)
  let numbers ← parts.mapM ipv4Number?
  match numbers.reverse with
  | [] => none
  | last :: front =>
      guard (front.all (· < 256))
      guard (last < Nat.pow 256 (5 - numbers.length))
      let high := front.reverse.foldl (fun n b => n * 256 + b) 0
      pure (high * Nat.pow 256 (5 - numbers.length) + last)

/-! ## Addresses of version 6 -/

/-- A piece of up to four hexadecimal digits. -/
def ipv6Piece? (cs : List Char) : Option Nat :=
  if cs = [] ∨ 4 < cs.length then none else numberOf? 16 cs

/-- A decimal number without superfluous zeros, as one byte. -/
def ipv4Byte? (cs : List Char) : Option Nat := do
  guard (cs != [] && (cs.length = 1 || cs.head? != some '0'))
  let n ← numberOf? 10 cs
  if n < 256 then some n else none

/-- The text between the colons. -/
def betweenColons : List Char → List (List Char)
  | [] => [[]]
  | ':' :: cs => [] :: betweenColons cs
  | c :: cs =>
      match betweenColons cs with
      | [] => [[c]]
      | p :: ps => (c :: p) :: ps

/-- The two pieces of an address of version 4 at the end of one of version 6. -/
def embedded? (cs : List Char) : Option (List Nat) := do
  match ← (labels cs).mapM ipv4Byte? with
  | [a, b, c, d] => pure [a * 256 + b, c * 256 + d]
  | _ => none

/-- A run of pieces; only the last may be an address of version 4. -/
def ipv6Run? : List (List Char) → Option (List Nat)
  | [] => some []
  | [p] => if '.' ∈ p then embedded? p else (ipv6Piece? p).map ([·])
  | p :: ps => do
      let n ← ipv6Piece? p
      let ns ← ipv6Run? ps
      pure (n :: ns)

/-- The pieces on both sides of two colons, if there are two colons. -/
def splitGap : List Char → List Char × Option (List Char)
  | [] => ([], none)
  | ':' :: ':' :: cs => ([], some cs)
  | c :: cs => (c :: (splitGap cs).1, (splitGap cs).2)

def runOf? (cs : List Char) : Option (List Nat) :=
  if cs = [] then some [] else ipv6Run? (betweenColons cs)

/-- The eight pieces of an address. -/
def ipv6? (cs : List Char) : Option (List Nat) := do
  match splitGap cs with
  | (all, none) =>
      let pieces ← runOf? all
      if pieces.length = 8 then some pieces else none
  | (front, some back) =>
      guard (!('.' ∈ front))
      let front ← runOf? front
      let back ← runOf? back
      if front.length + back.length < 8 then
        some (front ++ List.replicate (8 - front.length - back.length) 0 ++ back)
      else none

/-- The number of zeros at the start. -/
def zeros (pieces : List Nat) : Nat := (pieces.takeWhile (· == 0)).length

/-- Where the first of the longest runs of zeros starts, and its length. -/
def longestZeros : Nat → List Nat → Nat × Nat
  | _, [] => (0, 0)
  | i, p :: ps =>
      let here := (i, zeros (p :: ps))
      let later := longestZeros (i + 1) ps
      if later.2 > here.2 then later else here

def hexText (n : Nat) : String := String.ofList (Nat.toDigits 16 n)

/-- The shortest form: the longest run of at least two zeros becomes two colons. -/
def ipv6Text (pieces : List Nat) : String :=
  let (start, length) := longestZeros 0 pieces
  let text := fun (ps : List Nat) => String.intercalate ":" (ps.map hexText)
  if 2 ≤ length then text (pieces.take start) ++ "::" ++ text (pieces.drop (start + length))
  else text pieces

/-! ## Hosts -/

/-- Characters no domain holds. -/
def forbiddenInDomain (c : Char) : Bool :=
  c.toNat < 0x20 || c.toNat == 0x7F ||
    c ∈ [' ', '#', '%', '/', ':', '<', '>', '?', '@', '[', '\\', ']', '^', '|']

/-- Characters no loose host holds. -/
def forbiddenInHost (c : Char) : Bool :=
  c ∈ ['\x00', '\t', '\n', '\r', ' ', '#', '/', ':', '<', '>', '?', '@', '[', '\\', ']', '^', '|']

namespace Host

/-- An address of version 6 between brackets, if there are brackets. -/
def bracketed? (cs : List Char) : Option (Option String) :=
  match cs with
  | '[' :: cs =>
      match cs.reverse with
      | ']' :: inner =>
          some ((ipv6? inner.reverse).map fun pieces => "[" ++ ipv6Text pieces ++ "]")
      | _ => some none
  | _ => none

/-- The host of a special URL. -/
def parse? (cs : List Char) : Option String :=
  match bracketed? cs with
  | some host => host
  | none => do
      let domain ← Domain.ascii? (← decode? cs).toList
      guard (domain != [])
      guard (!domain.any forbiddenInDomain)
      if endsInNumber domain then (ipv4? domain).map dotted else pure (String.ofList domain)

/-- The host of any other URL; it may be empty. -/
def parseLoose? (cs : List Char) : Option String :=
  match bracketed? cs with
  | some host => host
  | none => if cs.any forbiddenInHost then none else some (String.ofList (encode isControl cs))

end Host

end Manuscript.Url

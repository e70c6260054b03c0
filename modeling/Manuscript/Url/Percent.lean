/-
# Manuscript.Url.Percent -- characters a URL cannot hold

Each part of a URL has its set of characters that are written as their UTF-8 bytes
in hexadecimal after a percent sign.  Every set contains the controls, the delete
character and all that is not ASCII (`isControl`); the sets below add to it.
-/
import Manuscript.Text.Digit

namespace Manuscript.Url

set_option autoImplicit false

open Text

/-- Controls, delete, and everything that is not ASCII. -/
def isControl (c : Char) : Bool := c.toNat < 0x20 || 0x7F ≤ c.toNat

def inFragmentSet (c : Char) : Bool := isControl c || c ∈ [' ', '"', '<', '>', '\x60']

def inQuerySet (c : Char) : Bool := isControl c || c ∈ [' ', '"', '#', '<', '>']

/-- The set of queries of special URLs. -/
def inSpecialQuerySet (c : Char) : Bool := inQuerySet c || c == '\''

def inPathSet (c : Char) : Bool := inFragmentSet c || c ∈ ['#', '?', '\x7b', '\x7d']

def inUserinfoSet (c : Char) : Bool :=
  inPathSet c || c ∈ ['/', ':', ';', '=', '@', '[', '\\', ']', '^', '|']

/-- The set of single components of a path that is not yet a URL. -/
def inComponentSet (c : Char) : Bool := inPathSet c || c ∈ ['/', '%', '\\']

def upperHex (n : Nat) : Char :=
  if n < 10 then Char.ofNat (0x30 + n) else Char.ofNat (0x37 + n)

/-- A byte after a percent sign. -/
def percentByte (b : UInt8) : List Char := ['%', upperHex (b.toNat / 16), upperHex (b.toNat % 16)]

/-- A character of a part with the given set. -/
def encodeChar (inSet : Char → Bool) (c : Char) : List Char :=
  if inSet c then (String.utf8EncodeChar c).flatMap percentByte else [c]

def encode (inSet : Char → Bool) (cs : List Char) : List Char := cs.flatMap (encodeChar inSet)

/-! ## Decoding -/

/-- The byte of two hexadecimal digits. -/
def byteOfHex? (a b : Char) : Option UInt8 := do
  pure (UInt8.ofNat ((← hexValue? a) * 16 + (← hexValue? b)))

/-- The bytes of a text with its percent signs resolved where two digits follow. -/
def decodeBytes : List Char → List UInt8
  | [] => []
  | '%' :: a :: b :: cs =>
      match byteOfHex? a b with
      | some byte => byte :: decodeBytes cs
      | none => String.utf8EncodeChar '%' ++ decodeBytes (a :: b :: cs)
  | c :: cs => String.utf8EncodeChar c ++ decodeBytes cs
termination_by cs => cs.length

/-- The text with its percent signs resolved, if the bytes are UTF-8. -/
def decode? (cs : List Char) : Option String := String.fromUTF8? ⟨(decodeBytes cs).toArray⟩

end Manuscript.Url

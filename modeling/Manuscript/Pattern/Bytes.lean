/-
# Manuscript.Pattern.Bytes -- characters as sequences of bytes

A machine that reads bytes sees a character as the one to four bytes of its UTF-8
form, and a run of characters as a few sequences of byte ranges.  `sequences` cuts a
run where the number of bytes changes, and then so that each sequence stands for all
combinations of bytes from its ranges.
-/
import Manuscript.Unicode.Runs

namespace Manuscript.Pattern

set_option autoImplicit false

open Unicode

/-- A first and a last byte. -/
abbrev ByteRange := UInt8 × UInt8

/-- The bytes of the character with a number. -/
def bytesOf (n : Nat) : List UInt8 := String.utf8EncodeChar (Char.ofNat n)

/-- The number rounded down to a multiple of `size`. -/
def floorTo (size n : Nat) : Nat := n / size * size

/-- The first block size at which two numbers lie in different blocks without filling them. -/
def unevenBlock? (first last : Nat) : Option Nat :=
  [0x40, 0x1000, 0x40000].find? fun size =>
    first / size ≠ last / size ∧ (first % size ≠ 0 ∨ last % size ≠ size - 1)

/-- The sequences of a run whose characters all have equally many bytes. -/
def evenSequences : Nat → Nat → Nat → List (List ByteRange)
  | 0, _, _ => []
  | n + 1, first, last =>
      match unevenBlock? first last with
      | none => [(bytesOf first).zip (bytesOf last)]
      | some size =>
          if first % size ≠ 0 then
            let next := floorTo size first + size
            evenSequences n first (next - 1) ++ evenSequences n next last
          else
            let next := floorTo size last
            evenSequences n first (next - 1) ++ evenSequences n next last

/-- The longest runs of characters with equally many bytes. -/
def evenRuns : List (Nat × Nat) :=
  [(0, 0x7F), (0x80, 0x7FF), (0x800, 0xD7FF), (0xE000, 0xFFFF), (0x10000, 0x10FFFF)]

def runSequences (run : Nat × Nat) : List (List ByteRange) :=
  evenRuns.flatMap fun (first, last) =>
    let (first, last) := (max first run.1, min last run.2)
    -- a run is cut at most three times at either end
    if first ≤ last then evenSequences 8 first last else []

/-- The sequences of a set in increasing order. -/
def sequences (set : Runs) : List (List ByteRange) := set.toList.flatMap runSequences

end Manuscript.Pattern

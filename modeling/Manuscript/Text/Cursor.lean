/-
# Manuscript.Text.Cursor -- a place in a text, and what is left to read

A `Cursor` is a byte offset with the characters that follow it.  Reading never
looks back, so whatever is read from a cursor depends on `rest` alone and the
offset only shifts it.

`Cursor.upTo stop` reads up to the first place where `stop` holds of the
remaining text.  It gives the characters read and the new cursor, and it loses
nothing: `upTo_append` and `upTo_offset` say that what was read and what is
left make up the text, and that the offset grew by the bytes read.

`k.Reaches k'` says that `k'` is such a later place.  Every reader of this library
goes to a place it reaches, which is why reading ends (`Reaches.length_le`).
-/
import Manuscript.Text.Span

namespace Manuscript.Text

set_option autoImplicit false

structure Cursor where
  offset : Nat
  rest : List Char
deriving DecidableEq, Repr, Inhabited

namespace Cursor

def ofString (text : String) : Cursor := ⟨0, text.toList⟩

/-- The cursor after the next character; the end stays where it is. -/
def bump (k : Cursor) : Cursor :=
  match k.rest with
  | [] => k
  | c :: cs => ⟨k.offset + c.utf8Size, cs⟩

/-- The cursor after `read`, which is what stands first in the remaining text. -/
def after (k : Cursor) (read rest : List Char) : Cursor := ⟨k.offset + utf8Length read, rest⟩

/-- The characters before the first place where `stop` holds, and what follows. -/
def split (stop : List Char → Bool) : List Char → List Char × List Char
  | [] => ([], [])
  | c :: cs =>
      if stop (c :: cs) then ([], c :: cs)
      else (c :: (split stop cs).1, (split stop cs).2)

theorem split_append (stop : List Char → Bool) (cs : List Char) :
    (split stop cs).1 ++ (split stop cs).2 = cs := by
  induction cs with
  | nil => rfl
  | cons c cs ih => by_cases h : stop (c :: cs) <;> simp [split, h, ih]

/-- Reads up to the first place where `stop` holds. -/
def upTo (stop : List Char → Bool) (k : Cursor) : List Char × Cursor :=
  let (read, rest) := split stop k.rest
  (read, k.after read rest)

theorem upTo_append (stop : List Char → Bool) (k : Cursor) :
    (k.upTo stop).1 ++ (k.upTo stop).2.rest = k.rest :=
  split_append stop k.rest

theorem upTo_offset (stop : List Char → Bool) (k : Cursor) :
    (k.upTo stop).2.offset = k.offset + utf8Length (k.upTo stop).1 := rfl

/-- The later cursor is the earlier one after some characters were read. -/
def Reaches (k k' : Cursor) : Prop :=
  ∃ read, k.rest = read ++ k'.rest ∧ k'.offset = k.offset + utf8Length read

theorem Reaches.refl (k : Cursor) : k.Reaches k := ⟨[], by simp⟩

theorem Reaches.trans {a b c : Cursor} (hab : a.Reaches b) (hbc : b.Reaches c) : a.Reaches c := by
  obtain ⟨r, hr, hro⟩ := hab
  obtain ⟨s, hs, hso⟩ := hbc
  exact ⟨r ++ s, by simp [hr, hs], by simp [hro, hso]; omega⟩

theorem Reaches.length_le {k k' : Cursor} (h : k.Reaches k') :
    k'.rest.length ≤ k.rest.length := by
  obtain ⟨read, hr, _⟩ := h
  simp [hr]

theorem reaches_after {k : Cursor} {read rest : List Char} (h : read ++ rest = k.rest) :
    k.Reaches (k.after read rest) := ⟨read, by simp [after, h], rfl⟩

theorem reaches_upTo (stop : List Char → Bool) (k : Cursor) : k.Reaches (k.upTo stop).2 :=
  reaches_after (split_append stop k.rest)

end Cursor

/-- Whether the remaining text starts with a character of a class. -/
def startsWith (p : Char → Bool) : List Char → Bool
  | [] => false
  | c :: _ => p c

end Manuscript.Text

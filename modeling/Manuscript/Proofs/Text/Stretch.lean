/-
# Manuscript.Proofs.Text.Stretch -- spans of what was read

Whatever a reader takes is a stretch of the text between two of its cursors.
`k.Sees s word` says that the span `s` covers `word` somewhere behind the cursor `k`.
It is kept by reading over more text (`Sees.of_reaches`), and from the first cursor of a
text it is a slice of that text (`Sees.slice?`), so both ends are boundaries
(`Sees.within`).

`Ordered lo hi spans` is about offsets alone: the spans come one behind the other
between two offsets.  Readings one after the other have ordered spans
(`Ordered.append`).  `Cursor.Spells` puts the two together for names that a reader took
between two cursors; unlike placed ones they may touch.
-/
import Manuscript.Proofs.Text.Placement

namespace Manuscript

set_option autoImplicit false

open Text

/-- The span is a stretch of the text between two of its boundaries. -/
structure Span.Within (text : List Char) (s : Span) : Prop where
  start_le_stop : s.start ≤ s.stop
  stop_le_length : s.stop ≤ utf8Length text
  boundary_start : Boundary text s.start
  boundary_stop : Boundary text s.stop

theorem Span.within_of_slice? {text word : List Char} {s : Span}
    (h : slice? text s = some word) : s.Within text := by
  obtain ⟨before, after, rfl, hstart, hstop⟩ := slice?_eq_some.1 h
  refine ⟨by omega, ?_, ⟨before, word ++ after, rfl, hstart⟩,
    ⟨before ++ word, after, by simp, by rw [hstop, utf8Length_append]⟩⟩
  simp only [utf8Length_append]
  omega

namespace Text

namespace Cursor

variable {k k' : Cursor} {s : Span} {word : List Char}

theorem Reaches.offset_le (h : k.Reaches k') : k.offset ≤ k'.offset := by
  obtain ⟨read, -, hoffset⟩ := h
  omega

/-- The span covers the word somewhere behind the cursor. -/
def Sees (k : Cursor) (s : Span) (word : List Char) : Prop :=
  ∃ before after, k.rest = before ++ (word ++ after) ∧
    s.start = k.offset + utf8Length before ∧ s.stop = s.start + utf8Length word

theorem Sees.of_reaches (h : k.Reaches k') (hs : k'.Sees s word) : k.Sees s word := by
  obtain ⟨read, hrest, hoffset⟩ := h
  obtain ⟨before, after, hrest', hstart, hstop⟩ := hs
  refine ⟨read ++ before, after, by rw [hrest, hrest', List.append_assoc], ?_, hstop⟩
  rw [hstart, hoffset, utf8Length_append, Nat.add_assoc]

theorem Sees.offset_le (h : k.Sees s word) : k.offset ≤ s.start := by
  obtain ⟨before, -, -, hstart, -⟩ := h
  omega

theorem Sees.start_lt_stop (h : k.Sees s word) (hword : word ≠ []) : s.start < s.stop := by
  obtain ⟨before, after, -, -, hstop⟩ := h
  have := utf8Length_pos hword
  omega

/-- What stands at a cursor. -/
theorem sees_here {rest : List Char} (h : k.rest = word ++ rest) :
    k.Sees ⟨k.offset, k.offset + utf8Length word⟩ word :=
  ⟨[], rest, h, rfl, rfl⟩

/-- What is read from a cursor on begins with what stands there. -/
theorem exists_sees_through {read rest : List Char} (hk : k.rest = read ++ rest)
    (h : Reaches ⟨k.offset + utf8Length read, rest⟩ k') :
    ∃ more, rest = more ++ k'.rest ∧ k.Sees ⟨k.offset, k'.offset⟩ (read ++ more) := by
  obtain ⟨more, hrest, hoffset⟩ := h
  refine ⟨more, hrest, [], k'.rest, ?_, rfl, ?_⟩
  · rw [hk, show rest = more ++ k'.rest from hrest]
    simp
  · rw [utf8Length_append]
    show k'.offset = k.offset + _
    rw [hoffset, Nat.add_assoc]

theorem Sees.slice? {text : List Char} (h : Sees ⟨0, text⟩ s word) :
    Text.slice? text s = some word := by
  obtain ⟨before, after, htext, hstart, hstop⟩ := h
  rw [Nat.zero_add] at hstart
  exact slice?_eq_some.2 ⟨before, after, htext, hstart, by rw [hstop, hstart]⟩

theorem Sees.within {text : List Char} (h : Sees ⟨0, text⟩ s word) : s.Within text :=
  Span.within_of_slice? h.slice?

end Cursor

/-- Each symbol has its name in the text. -/
theorem Placed.sees {ok : List Char → Prop} {offset : Nat} {text : List Char}
    {symbols : List Symbol} {s : Symbol} (h : Placed ok offset text symbols) (hs : s ∈ symbols) :
    Cursor.Sees ⟨offset, text⟩ s.span s.name.toList := by
  obtain ⟨before, sep, name, rest, rfl, -, -, rfl⟩ := h.exists_of_mem hs
  exact ⟨before ++ [sep], rest, by simp [Symbol.ofText], rfl, by simp [Symbol.ofText]⟩

/-! ## Spans one behind the other -/

/-- The spans come one behind the other between two offsets, and each covers something. -/
inductive Ordered : Nat → Nat → List Span → Prop where
  | nil {lo hi : Nat} : lo ≤ hi → Ordered lo hi []
  | cons {lo hi : Nat} {s : Span} {ss : List Span} :
      lo ≤ s.start → s.start < s.stop → Ordered s.stop hi ss → Ordered lo hi (s :: ss)

namespace Ordered

variable {lo mid hi : Nat} {s : Span} {ss more : List Span}

theorem le (h : Ordered lo hi ss) : lo ≤ hi := by
  induction h with
  | nil h => exact h
  | cons hlo hlt _ ih => omega

theorem single (hlo : lo ≤ s.start) (hlt : s.start < s.stop) (hhi : s.stop ≤ hi) :
    Ordered lo hi [s] :=
  .cons hlo hlt (.nil hhi)

theorem mono_left {lo' : Nat} (h : Ordered lo hi ss) (hle : lo' ≤ lo) : Ordered lo' hi ss := by
  cases h with
  | nil h => exact .nil (Nat.le_trans hle h)
  | cons hlo hlt hrest => exact .cons (Nat.le_trans hle hlo) hlt hrest

theorem append (h : Ordered lo mid ss) (hmore : Ordered mid hi more) :
    Ordered lo hi (ss ++ more) := by
  induction h with
  | nil h => exact hmore.mono_left h
  | cons hlo hlt _ ih => exact .cons hlo hlt (ih hmore)

/-- Spans that were read one part after the other. -/
theorem exists_of_append (h : Ordered lo hi (ss ++ more)) :
    ∃ mid, Ordered lo mid ss ∧ Ordered mid hi more := by
  induction ss generalizing lo with
  | nil => exact ⟨lo, .nil (Nat.le_refl lo), h⟩
  | cons s ss ih =>
      cases h with
      | cons hlo hlt hrest =>
          obtain ⟨mid, hss, hmore⟩ := ih hrest
          exact ⟨mid, .cons hlo hlt hss, hmore⟩

theorem bounds (h : Ordered lo hi ss) (hs : s ∈ ss) :
    lo ≤ s.start ∧ s.start < s.stop ∧ s.stop ≤ hi := by
  induction h with
  | nil => cases hs
  | cons hlo hlt hrest ih =>
      rcases List.mem_cons.1 hs with rfl | hs
      · exact ⟨hlo, hlt, hrest.le⟩
      · have := ih hs
        omega

/-- **No span starts before the one before it ends.** -/
theorem pairwise (h : Ordered lo hi ss) : ss.Pairwise fun a b => a.stop ≤ b.start := by
  induction h with
  | nil => exact .nil
  | cons _ _ hrest ih => exact .cons (fun _ ht => (hrest.bounds ht).1) ih

/-- Different places have different starts. -/
theorem increasing (h : Ordered lo hi ss) : ss.Pairwise fun a b => a.start < b.start := by
  induction h with
  | nil => exact .nil
  | cons _ hlt hrest ih => exact .cons (fun _ ht => Nat.lt_of_lt_of_le hlt (hrest.bounds ht).1) ih

theorem nodup (h : Ordered lo hi ss) : ss.Nodup := by
  refine h.increasing.imp ?_
  rintro a _ hlt rfl
  exact Nat.lt_irrefl _ hlt

end Ordered

namespace Cursor

variable {ok : List Char → Prop} {k k' k'' : Cursor} {symbols others : List Symbol}

/-- The symbols are written between the two cursors, one behind the other. -/
structure Spells (ok : List Char → Prop) (k k' : Cursor) (symbols : List Symbol) : Prop where
  reaches : k.Reaches k'
  ordered : Ordered k.offset k'.offset (symbols.map Symbol.span)
  sees : ∀ s ∈ symbols, k.Sees s.span s.name.toList
  names : ∀ s ∈ symbols, ok s.name.toList

theorem Reaches.spells (h : k.Reaches k') : Spells ok k k' [] where
  reaches := h
  ordered := .nil h.offset_le
  sees := fun _ hs => by cases hs
  names := fun _ hs => by cases hs

theorem Spells.trans (h : Spells ok k k' symbols) (h' : Spells ok k' k'' others) :
    Spells ok k k'' (symbols ++ others) where
  reaches := h.reaches.trans h'.reaches
  ordered := by
    rw [List.map_append]
    exact h.ordered.append h'.ordered
  sees := List.forall_mem_append.2 ⟨h.sees, fun s hs => (h'.sees s hs).of_reaches h.reaches⟩
  names := List.forall_mem_append.2 ⟨h.names, h'.names⟩

/-- What is read at a cursor. -/
theorem spells_here {word rest : List Char} (hk : k.rest = word ++ rest) (hne : word ≠ [])
    (hok : ok word) :
    Spells ok k ⟨k.offset + utf8Length word, rest⟩ [Symbol.ofText k.offset word] where
  reaches := ⟨word, hk, rfl⟩
  ordered := by
    have hpos := utf8Length_pos hne
    refine .single (Nat.le_refl _) ?_ (Nat.le_refl _)
    exact Nat.lt_add_of_pos_right hpos
  sees := by
    rw [List.forall_mem_singleton, Symbol.ofText, String.toList_ofList]
    exact sees_here hk
  names := by
    rw [List.forall_mem_singleton, Symbol.ofText, String.toList_ofList]
    exact hok

end Cursor

end Text

end Manuscript

/-
# Manuscript.Proofs.Text.Shift -- the same text further on

Reading never looks back, so a text that stands `n` bytes further on is read the same, and
all that is found there is `n` bytes further on.  `shift n` says this of a cursor, of a
symbol and of a problem.

Problems are sorted alike wherever they stand (`Diagnostic.sorted_shift`).  A problem in front
of all others comes first (`Diagnostic.sorted_cons`), and leaving some out leaves the others in
order (`Diagnostic.filter_sorted`).
-/
import Manuscript.Diagnostic
import Manuscript.Text.Cursor
import Mathlib.Data.List.Basic

namespace Manuscript

set_option autoImplicit false

open Text

/-- What is found in moved events has moved along. -/
theorem filterMap_moved {α β : Type} {found? : α → Option β} {move : α → α} {move' : β → β}
    (h : ∀ e, found? (move e) = (found? e).map move') (events : List α) :
    (events.map move).filterMap found? = (events.filterMap found?).map move' := by
  rw [List.filterMap_map, List.map_filterMap]
  exact List.filterMap_congr fun e _ => h e

/-! ## Places -/

namespace Text.Cursor

/-- The same text, `n` bytes further on. -/
def shift (n : Nat) (k : Cursor) : Cursor := ⟨n + k.offset, k.rest⟩

variable (n : Nat) (k : Cursor)

@[simp] theorem rest_shift : (k.shift n).rest = k.rest := rfl

@[simp] theorem offset_shift : (k.shift n).offset = n + k.offset := rfl

theorem shift_add (offset size : Nat) (rest : List Char) :
    (⟨n + offset + size, rest⟩ : Cursor) = shift n ⟨offset + size, rest⟩ :=
  congrArg (Cursor.mk · rest) (Nat.add_assoc n offset size)

theorem shift_after (read rest : List Char) :
    (k.shift n).after read rest = (k.after read rest).shift n :=
  shift_add n k.offset (utf8Length read) rest

theorem shift_upTo (stop : List Char → Bool) :
    (k.shift n).upTo stop = ((k.upTo stop).1, (k.upTo stop).2.shift n) :=
  congrArg (Prod.mk (k.upTo stop).1) (shift_after n k (split stop k.rest).1 (split stop k.rest).2)

theorem shift_bump : (k.shift n).bump = k.bump.shift n := by
  obtain ⟨offset, rest⟩ := k
  cases rest with
  | nil => rfl
  | cons c cs => exact shift_add n offset c.utf8Size cs

end Text.Cursor

def Span.shift (n : Nat) (s : Span) : Span := ⟨n + s.start, n + s.stop⟩

/-! ## Symbols -/

namespace Symbol

def shift (n : Nat) (s : Symbol) : Symbol := ⟨s.name, s.span.shift n⟩

variable (n offset : Nat)

theorem shift_ofText (name : List Char) :
    Symbol.ofText (n + offset) name = (Symbol.ofText offset name).shift n := by
  simp only [Symbol.ofText, shift, Span.shift, Nat.add_assoc]

theorem shift_trimmed? (content : List Char) :
    Symbol.trimmed? (n + offset) content = (Symbol.trimmed? offset content).map (shift n) := by
  unfold Symbol.trimmed?
  cases trim content with
  | nil => rfl
  | cons c word =>
      simp only [Nat.add_assoc n, shift_ofText]
      rfl

end Symbol

/-! ## Problems -/

namespace Diagnostic

def shift (n : Nat) (d : Diagnostic) : Diagnostic := { d with span := d.span.shift n }

theorem atOrBefore_shift (n : Nat) (a b : Diagnostic) :
    (a.shift n).atOrBefore (b.shift n) = a.atOrBefore b := by
  simp only [atOrBefore, shift, Span.shift, Nat.add_lt_add_iff_left, Nat.add_le_add_iff_left,
    Nat.add_left_cancel_iff, BEq.beq]

theorem sorted_shift (n : Nat) (ds : List Diagnostic) :
    sorted (ds.map (shift n)) = (sorted ds).map (shift n) :=
  (List.map_mergeSort fun a _ b _ => (atOrBefore_shift n a b).symm).symm

theorem atOrBefore_trans (a b c : Diagnostic) (hab : a.atOrBefore b = true)
    (hbc : b.atOrBefore c = true) : a.atOrBefore c = true := by
  simp only [atOrBefore, Bool.or_eq_true, Bool.and_eq_true, decide_eq_true_eq,
    beq_iff_eq] at hab hbc ⊢
  omega

theorem atOrBefore_total (a b : Diagnostic) : (a.atOrBefore b || b.atOrBefore a) = true := by
  simp only [atOrBefore, Bool.or_eq_true, Bool.and_eq_true, decide_eq_true_eq, beq_iff_eq]
  omega

theorem pairwise_sorted (ds : List Diagnostic) :
    (sorted ds).Pairwise fun d e => d.atOrBefore e = true :=
  List.pairwise_mergeSort atOrBefore_trans atOrBefore_total ds

/-- Where a problem stands among sorted ones: behind those it is not in front of. -/
theorem takeWhile_sorted {d : Diagnostic} {before after : List Diagnostic}
    (hbefore : ∀ e ∈ before, d.atOrBefore e = false)
    (hafter : ∀ e ∈ after, d.atOrBefore e = true) :
    (before ++ after).takeWhile (fun e => !d.atOrBefore e) = before := by
  rw [List.takeWhile_append_of_pos fun e he => by simp [hbefore e he]]
  cases after with
  | nil => simp
  | cons e after => simp [hafter e List.mem_cons_self]

/-- A problem more is put behind those it is not in front of. -/
theorem exists_sorted_cons (d : Diagnostic) (ds : List Diagnostic) :
    ∃ before after, sorted (d :: ds) = before ++ d :: after ∧ sorted ds = before ++ after ∧
      (∀ e ∈ before, d.atOrBefore e = false) ∧ ∀ e ∈ after, d.atOrBefore e = true := by
  obtain ⟨before, after, hwhole, hrest, hbefore⟩ :=
    List.mergeSort_cons atOrBefore_trans atOrBefore_total d ds
  refine ⟨before, after, hwhole, hrest, fun e he => by simpa using hbefore e he, ?_⟩
  have hpairwise := pairwise_sorted (d :: ds)
  rw [sorted, hwhole, List.pairwise_append, List.pairwise_cons] at hpairwise
  exact hpairwise.2.1.1

/-- A problem in front of all others comes first. -/
theorem sorted_cons {d : Diagnostic} {ds : List Diagnostic}
    (h : ∀ e ∈ ds, d.atOrBefore e = true) : sorted (d :: ds) = d :: sorted ds := by
  obtain ⟨before, after, hwhole, hrest, hbefore, -⟩ := exists_sorted_cons d ds
  cases before with
  | nil => rw [hwhole, hrest]; rfl
  | cons e before =>
      have he : e ∈ sorted ds := by rw [hrest]; exact List.mem_cons_self
      have hfront := hbefore e List.mem_cons_self
      rw [h e (List.mem_mergeSort.1 he)] at hfront
      cases hfront

/-- Sorting keeps the order of those that are left. -/
theorem filter_sorted (p : Diagnostic → Bool) (ds : List Diagnostic) :
    (sorted ds).filter p = sorted (ds.filter p) := by
  induction ds with
  | nil => simp [sorted]
  | cons d ds ih =>
      obtain ⟨before, after, hwhole, hrest, hbefore, hafter⟩ := exists_sorted_cons d ds
      rw [hrest, List.filter_append] at ih
      rw [hwhole]
      by_cases hd : p d = true
      · obtain ⟨before', after', hwhole', hrest', hbefore', hafter'⟩ :=
          exists_sorted_cons d (ds.filter p)
        -- both cut the others where `d` comes in front
        have hcut := @takeWhile_sorted d (before.filter p) (after.filter p)
          (fun e he => hbefore e (List.mem_filter.1 he).1)
          (fun e he => hafter e (List.mem_filter.1 he).1)
        rw [ih, hrest', takeWhile_sorted hbefore' hafter'] at hcut
        rw [hrest', hcut] at ih
        rw [List.filter_cons_of_pos hd, hwhole', hcut, List.filter_append,
          List.filter_cons_of_pos hd, List.append_cancel_left ih]
      · rw [List.filter_append, List.filter_cons_of_neg hd, List.filter_cons_of_neg hd]
        exact ih

end Diagnostic

end Manuscript

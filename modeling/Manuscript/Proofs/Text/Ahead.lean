/-
# Manuscript.Proofs.Text.Ahead -- what the beginning of a text decides

A reader that looks ahead cuts a text in two, or finds nothing.  `Ahead` says what the
beginning `w` of a text tells about this, whatever follows it: the cut is in `w`, or there
is none, or the reader goes on behind `w` as another reader.  Readers go over a text
character by character, so what is decided is found by induction on `w` (`Ahead.cons`).

Two texts that agree up to a place are so read alike up to that place.
-/
import Manuscript.Proofs.Text.Placement

namespace Manuscript.Text

set_option autoImplicit false

/-- What stands before a place that is searched for, and what follows from it on. -/
abbrev Search := List Char → Option (List Char × List Char)

/-- What `w` decides about a search in a text that begins with it, when `follows` holds of the
rest of the text. -/
inductive Ahead (follows : List Char → Prop) (f : Search) (w : List Char)
    (found : List Char → List Char → Prop) (onward : Search → Prop) : Prop where
  | found {read rest : List Char} : w = read ++ rest → found read rest →
      (∀ t, follows t → f (w ++ t) = some (read, rest ++ t)) → Ahead follows f w found onward
  | failed : (∀ t, follows t → f (w ++ t) = none) → Ahead follows f w found onward
  | onward {g : Search} : onward g →
      (∀ t, follows t → f (w ++ t) = (g t).map fun cut => (w ++ cut.1, cut.2)) →
      Ahead follows f w found onward

namespace Ahead

variable {follows : List Char → Prop} {f g : Search} {w : List Char}
  {found found' : List Char → List Char → Prop} {onward onward' : Search → Prop}

/-- The search goes on from the first character. -/
theorem nil (h : onward f) : Ahead follows f [] found onward :=
  .onward h fun t _ => by simp

/-- The search ends in front of the first character. -/
theorem here (h : found [] w) (hf : ∀ t, follows t → f (w ++ t) = some ([], w ++ t)) :
    Ahead follows f w found onward :=
  .found rfl h hf

/-- A character is passed. -/
theorem cons {c : Char} (h : Ahead follows g w found' onward)
    (hf : ∀ t, follows t → f (c :: (w ++ t)) = (g (w ++ t)).map fun cut => (c :: cut.1, cut.2))
    (hfound : ∀ read rest, found' read rest → found (c :: read) rest) :
    Ahead follows f (c :: w) found onward := by
  cases h with
  | found hw hread hg =>
      refine .found (congrArg (c :: ·) hw) (hfound _ _ hread) fun t ht => ?_
      rw [List.cons_append, hf t ht, hg t ht]
      rfl
  | failed hg =>
      refine .failed fun t ht => ?_
      rw [List.cons_append, hf t ht, hg t ht]
      rfl
  | onward ho hg =>
      refine .onward ho fun t ht => ?_
      rw [List.cons_append, hf t ht, hg t ht, Option.map_map]
      rfl

theorem imp (h : Ahead follows f w found onward)
    (hfound : ∀ read rest, w = read ++ rest → found read rest → found' read rest)
    (honward : ∀ g, onward g → onward' g) : Ahead follows f w found' onward' := by
  cases h with
  | found hw hread hf => exact .found hw (hfound _ _ hw hread) hf
  | failed hf => exact .failed hf
  | onward ho hf => exact .onward (honward _ ho) hf

end Ahead

/-! ## Escapes -/

/-- Whether the character after a text is escaped. -/
def escapes (escaped : Bool) (text : List Char) : Bool :=
  text.foldl (fun escaped c => !escaped && decide (c = '\\')) escaped

@[simp] theorem escapes_nil (escaped : Bool) : escapes escaped [] = escaped := rfl

theorem escapes_cons (escaped : Bool) (c : Char) (cs : List Char) :
    escapes escaped (c :: cs) = escapes (!escaped && decide (c = '\\')) cs := rfl

theorem escapes_append (escaped : Bool) (as bs : List Char) :
    escapes escaped (as ++ bs) = escapes (escapes escaped as) bs := List.foldl_append

theorem escapes_eq_false {text : List Char} (hne : text ≠ []) (hlast : text.getLast? ≠ some '\\')
    (escaped : Bool) : escapes escaped text = false := by
  obtain ⟨before, c, rfl⟩ := List.eq_nil_or_concat text |>.resolve_left hne
  have hc : c ≠ '\\' := by
    rintro rfl
    exact hlast (by simp)
  simp [escapes, hc]

theorem escapes_of_not_mem {text : List Char} (h : '\\' ∉ text) : escapes false text = false := by
  cases text with
  | nil => rfl
  | cons c cs =>
      exact escapes_eq_false (List.cons_ne_nil c cs) (fun hlast => h (List.mem_of_getLast? hlast)) _

/-- A line break ends what came before it. -/
theorem escapes_of_break {text : List Char} (h : '\n' ∈ text) (escaped : Bool) :
    escapes escaped text = escapes false text := by
  obtain ⟨before, after, rfl⟩ := List.append_of_mem h
  rw [escapes_append, escapes_append, escapes_cons, escapes_cons]
  simp

/-- The character after a text is escaped when the text ends with an odd number of backslashes. -/
theorem escapes_eq_odd (text : List Char) :
    escapes false text = decide ((text.reverse.takeWhile (· = '\\')).length % 2 = 1) := by
  induction text using List.reverseRecOn with
  | nil => rfl
  | append_singleton before c ih =>
      rw [escapes_append, ih, List.reverse_append, List.reverse_singleton, List.singleton_append,
        List.takeWhile_cons]
      by_cases hc : c = '\\'
      · subst hc
        simp only [escapes_cons, escapes_nil, decide_true, Bool.and_true, if_true,
          List.length_cons]
        rw [Bool.eq_iff_iff]
        simp
        omega
      · simp [escapes_cons, hc]

end Manuscript.Text

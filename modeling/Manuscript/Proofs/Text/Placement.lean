/-
# Manuscript.Proofs.Text.Placement -- names in the text they were read from

`Placed ok offset text symbols` says where symbols stand: in the order of the text,
each the name it has, and each after a separator of its own.  It is closed under
reading on (`Placed.append`), reading over (`Placed.skip`) and leaving symbols out
(`Placed.sublist`), so a scanner that reads its symbols one after the other is placed
because its readers are (`Cursor.Holds`).

What spans are good for follows from this alone: they do not touch
(`Placed.pairwise`), the text has the name there (`Placed.slice?`), and an editor finds
both ends again (`Placed.offset?_start`, `Placed.offset?_stop`).
-/
import Manuscript.Text.Cursor
import Manuscript.Proofs.Text.Blank
import Manuscript.Proofs.Text.Position

namespace Manuscript

set_option autoImplicit false

/-! ## Lists that were taken apart -/

/-- Two kinds of elements taken from a list are the elements of either kind. -/
theorem perm_filterMap_or {α β : Type} {f g : α → Option β}
    (apart : ∀ x, f x = none ∨ g x = none) (xs : List α) :
    (xs.filterMap f ++ xs.filterMap g).Perm (xs.filterMap fun x => (f x).or (g x)) := by
  induction xs with
  | nil => exact .nil
  | cons x xs ih =>
      cases hf : f x with
      | some b =>
          have hg : g x = none := (apart x).resolve_left (by rw [hf]; exact Option.some_ne_none b)
          simp only [List.filterMap_cons, hf, hg, Option.some_or, List.cons_append]
          exact ih.cons b
      | none =>
          cases hg : g x with
          | none =>
              simp only [List.filterMap_cons, hf, hg, Option.none_or]
              exact ih
          | some b =>
              simp only [List.filterMap_cons, hf, hg, Option.none_or]
              exact List.perm_middle.trans (ih.cons b)

/-- Taking less from a list. -/
theorem sublist_filterMap {α β : Type} {f g : α → Option β}
    (less : ∀ x b, f x = some b → g x = some b) (xs : List α) :
    (xs.filterMap f).Sublist (xs.filterMap g) := by
  induction xs with
  | nil => exact .slnil
  | cons x xs ih =>
      cases hf : f x with
      | some b =>
          simp only [List.filterMap_cons, hf, less x b hf]
          exact ih.cons_cons b
      | none =>
          cases hg : g x with
          | none => simp only [List.filterMap_cons, hf, hg]; exact ih
          | some b => simp only [List.filterMap_cons, hf, hg]; exact ih.cons b

namespace Text

/-- Symbols that start one after the other are different. -/
theorem nodup_of_increasing {symbols : List Symbol}
    (h : symbols.Pairwise fun a b => a.span.start < b.span.start) : symbols.Nodup := by
  refine h.imp fun {a b} hlt => ?_
  rintro rfl
  exact Nat.lt_irrefl _ hlt

/-- The characters that a name follows. -/
def isSeparator (c : Char) : Bool := isBlank c || c == ',' || c == '{' || c == '('

/-- The symbols are written in the text at `offset`, in this order, each after a separator of
its own. -/
inductive Placed (ok : List Char → Prop) : Nat → List Char → List Symbol → Prop where
  | nil (offset : Nat) (text : List Char) : Placed ok offset text []
  | cons {offset : Nat} {gap name rest : List Char} {sep : Char} {symbols : List Symbol} :
      isSeparator sep = true → ok name →
      Placed ok (offset + utf8Length (gap ++ sep :: name)) rest symbols →
      Placed ok offset (gap ++ sep :: (name ++ rest))
        (Symbol.ofText (offset + utf8Length (gap ++ [sep])) name :: symbols)

namespace Placed

variable {ok : List Char → Prop} {offset : Nat} {text : List Char} {symbols : List Symbol}

theorem imp {ok' : List Char → Prop} (himp : ∀ name, ok name → ok' name)
    (h : Placed ok offset text symbols) : Placed ok' offset text symbols := by
  induction h with
  | nil offset text => exact .nil offset text
  | cons hsep hok _ ih => exact .cons hsep (himp _ hok) ih

/-- One name after a separator and blanks, of which the last is its separator. -/
theorem single (offset : Nat) {sep : Char} {blanks name : List Char} (hsep : isSeparator sep = true)
    (hblanks : AllBlank isBlank blanks) (hok : ok name) (rest : List Char) :
    Placed ok offset (sep :: (blanks ++ (name ++ rest)))
      [Symbol.ofText (offset + utf8Length (sep :: blanks)) name] := by
  obtain ⟨gap, sep', hgap, hsep'⟩ : ∃ gap sep', sep :: blanks = gap ++ [sep'] ∧
      isSeparator sep' = true := by
    rcases List.eq_nil_or_concat blanks with rfl | ⟨before, c, rfl⟩
    · exact ⟨[], sep, rfl, hsep⟩
    · have hc := hblanks c (by simp)
      exact ⟨sep :: before, c, by simp, by simp [isSeparator, hc]⟩
  rw [show sep :: (blanks ++ (name ++ rest)) = gap ++ sep' :: (name ++ rest) by
    rw [← List.cons_append, hgap]; simp, hgap]
  exact .cons hsep' hok (.nil _ rest)

/-! ## Reading over, reading on, leaving out -/

theorem skip {read : List Char} (h : Placed ok (offset + utf8Length read) text symbols) :
    Placed ok offset (read ++ text) symbols := by
  cases h with
  | nil => exact .nil offset _
  | cons hsep hok hrest =>
      rename_i gap name rest sep symbols
      rw [show read ++ (gap ++ sep :: (name ++ rest)) = (read ++ gap) ++ sep :: (name ++ rest) by
        simp, show offset + utf8Length read + utf8Length (gap ++ [sep]) =
          offset + utf8Length (read ++ gap ++ [sep]) by simp; omega]
      refine .cons hsep hok ?_
      rw [show offset + utf8Length (read ++ gap ++ sep :: name) =
        offset + utf8Length read + utf8Length (gap ++ sep :: name) by simp; omega]
      exact hrest

theorem append {more : List Char} {others : List Symbol} (h : Placed ok offset text symbols)
    (hmore : Placed ok (offset + utf8Length text) more others) :
    Placed ok offset (text ++ more) (symbols ++ others) := by
  induction h with
  | nil offset text => exact hmore.skip
  | cons hsep hok _ ih =>
      rename_i offset gap name rest sep symbols _
      rw [show (gap ++ sep :: (name ++ rest)) ++ more = gap ++ sep :: (name ++ (rest ++ more)) by
        simp]
      refine .cons hsep hok (ih ?_)
      rw [show offset + utf8Length (gap ++ sep :: name) + utf8Length rest =
        offset + utf8Length (gap ++ sep :: (name ++ rest)) by simp; omega]
      exact hmore

theorem sublist {fewer : List Symbol} (h : Placed ok offset text symbols)
    (hsub : fewer.Sublist symbols) : Placed ok offset text fewer := by
  induction h generalizing fewer with
  | nil offset text =>
      rw [List.sublist_nil.1 hsub]
      exact .nil offset text
  | cons hsep hok _ ih =>
      rename_i offset gap name rest sep symbols _
      cases hsub with
      | cons _ hsub =>
          rw [show gap ++ sep :: (name ++ rest) = (gap ++ sep :: name) ++ rest by simp]
          exact (ih hsub).skip
      | cons_cons _ hsub => exact .cons hsep hok (ih hsub)

/-! ## What spans are good for -/

/-- Each symbol has its name in the text. -/
theorem exists_of_mem (h : Placed ok offset text symbols) {s : Symbol} (hs : s ∈ symbols) :
    ∃ before sep name rest, text = before ++ sep :: (name ++ rest) ∧ isSeparator sep = true ∧
      ok name ∧ s = Symbol.ofText (offset + utf8Length (before ++ [sep])) name := by
  induction h with
  | nil => cases hs
  | cons hsep hok _ ih =>
      rename_i offset gap name rest sep symbols _
      rcases List.mem_cons.1 hs with rfl | hs
      · exact ⟨gap, sep, name, rest, rfl, hsep, hok, rfl⟩
      · obtain ⟨before, sep', name', rest', rfl, hsep', hok', rfl⟩ := ih hs
        refine ⟨gap ++ sep :: name ++ before, sep', name', rest', by simp, hsep', hok', ?_⟩
        congr 1
        simp
        omega

/-- **Spans come in the order of the text, and something stands between any two.** -/
theorem pairwise (h : Placed ok offset text symbols) :
    symbols.Pairwise fun a b => a.span.stop < b.span.start := by
  induction h with
  | nil => exact List.Pairwise.nil
  | cons hsep hok hrest ih =>
      rename_i offset gap name rest sep symbols
      refine List.Pairwise.cons (fun s hs => ?_) ih
      obtain ⟨before, sep', name', -, -, -, -, rfl⟩ := hrest.exists_of_mem hs
      have := utf8Length_pos (List.append_ne_nil_of_right_ne_nil before (List.cons_ne_nil sep' []))
      simp only [Symbol.ofText, utf8Length_append, utf8Length_cons, utf8Length_nil] at *
      omega

variable {s : Symbol}

/-- An offset touches one symbol at most. -/
theorem eq_of_touches (h : Placed ok offset text symbols) {t : Symbol} (hs : s ∈ symbols)
    (ht : t ∈ symbols) {o : Nat} (hso : s.span.touches o = true) (hto : t.span.touches o = true) :
    s = t := by
  obtain ⟨i, hi, rfl⟩ := List.getElem_of_mem hs
  obtain ⟨j, hj, rfl⟩ := List.getElem_of_mem ht
  simp only [Span.touches, Bool.and_eq_true, decide_eq_true_eq] at hso hto
  rcases Nat.lt_trichotomy i j with hij | rfl | hij
  · have := List.pairwise_iff_getElem.1 h.pairwise i j hi hj hij
    omega
  · rfl
  · have := List.pairwise_iff_getElem.1 h.pairwise j i hj hi hij
    omega

theorem slice? (h : Placed ok 0 text symbols) (hs : s ∈ symbols) :
    Text.slice? text s.span = some s.name.toList := by
  obtain ⟨before, sep, name, rest, rfl, -, -, rfl⟩ := h.exists_of_mem hs
  refine slice?_eq_some.2 ⟨before ++ [sep], rest, ?_, ?_, ?_⟩
  · simp [Symbol.ofText]
  · simp [Symbol.ofText]
  · simp [Symbol.ofText]

theorem boundary_start (h : Placed ok 0 text symbols) (hs : s ∈ symbols) :
    Boundary text s.span.start := by
  obtain ⟨before, sep, name, rest, rfl, -, -, rfl⟩ := h.exists_of_mem hs
  exact ⟨before ++ [sep], name ++ rest, by simp, by simp [Symbol.ofText]⟩

theorem boundary_stop (h : Placed ok 0 text symbols) (hs : s ∈ symbols) :
    Boundary text s.span.stop := by
  obtain ⟨before, sep, name, rest, rfl, -, -, rfl⟩ := h.exists_of_mem hs
  exact ⟨before ++ sep :: name, rest, by simp, by simp [Symbol.ofText, Nat.add_assoc]⟩

theorem start_lt_stop (hok : ∀ name, ok name → name ≠ []) (h : Placed ok offset text symbols)
    (hs : s ∈ symbols) : s.span.start < s.span.stop := by
  obtain ⟨before, sep, name, rest, -, -, hname, rfl⟩ := h.exists_of_mem hs
  have := utf8Length_pos (hok name hname)
  simp only [Symbol.ofText]
  omega

/-- Starts come in the order of the text. -/
theorem increasing (hok : ∀ name, ok name → name ≠ []) (h : Placed ok offset text symbols) :
    symbols.Pairwise fun a b => a.span.start < b.span.start := by
  refine h.pairwise.imp_of_mem fun ha _ hlt => ?_
  exact Nat.lt_trans (h.start_lt_stop hok ha) hlt

/-- An editor finds the start of a symbol again. -/
theorem offset?_start (h : Placed (Solid isAsciiBlank) 0 text symbols) (hs : s ∈ symbols) :
    (LineIndex.ofText text).offset? text ((LineIndex.ofText text).position text s.span.start) =
      some s.span.start := by
  obtain ⟨before, sep, name, rest, rfl, -, hname, rfl⟩ := h.exists_of_mem hs
  have hin : ¬ InsideBreak (before ++ [sep]) (name ++ rest) := by
    rintro ⟨-, hfeed⟩
    cases hn : name with
    | nil => exact hname.nonempty hn
    | cons c cs =>
        rw [hn] at hfeed
        have hhead := hname.head c (by rw [hn]; rfl)
        have hc : c = '\n' := by simpa [hn] using hfeed
        rw [hc] at hhead
        exact absurd hhead (by decide)
  have := LineIndex.offset?_position hin
  simpa [Symbol.ofText] using this

/-- An editor finds the end of a symbol again. -/
theorem offset?_stop (h : Placed (Solid isAsciiBlank) 0 text symbols) (hs : s ∈ symbols) :
    (LineIndex.ofText text).offset? text ((LineIndex.ofText text).position text s.span.stop) =
      some s.span.stop := by
  obtain ⟨before, sep, name, rest, rfl, -, hname, rfl⟩ := h.exists_of_mem hs
  have hin : ¬ InsideBreak (before ++ sep :: name) rest := by
    rintro ⟨hreturn, -⟩
    rw [List.getLast?_append, List.getLast?_cons] at hreturn
    cases hn : name.getLast? with
    | none => exact hname.nonempty (List.getLast?_eq_none_iff.1 hn)
    | some c =>
        have hlast := hname.last c hn
        have hc : c = '\r' := by simpa [hn] using hreturn
        rw [hc] at hlast
        exact absurd hlast (by decide)
  have := LineIndex.offset?_position hin
  simpa [Symbol.ofText, Nat.add_assoc] using this

end Placed

/-! ## What stands between two cursors -/

namespace Cursor

/-- A search passes a text that it fails all along. -/
theorem split_append_of_forall {stop : List Char → Bool} {read rest : List Char}
    (hread : ∀ c cs, c :: cs <:+ read → stop (c :: (cs ++ rest)) = false) :
    split stop (read ++ rest) = (read ++ (split stop rest).1, (split stop rest).2) := by
  induction read with
  | nil => rfl
  | cons c read ih =>
      have hc := hread c read List.suffix_rfl
      have htail := ih fun d ds hd => hread d ds (hd.trans (List.suffix_cons c read))
      simp [split, hc, htail]

/-- A search that fails all along a text stops where it ends. -/
theorem split_of_forall {stop : List Char → Bool} {read rest : List Char}
    (hread : ∀ c cs, c :: cs <:+ read → stop (c :: (cs ++ rest)) = false)
    (hrest : rest = [] ∨ stop rest = true) : split stop (read ++ rest) = (read, rest) := by
  have hhere : split stop rest = ([], rest) := by
    rcases hrest with rfl | hrest
    · rfl
    · cases rest with
      | nil => rfl
      | cons c cs => rw [split, if_pos hrest]
  rw [split_append_of_forall hread, hhere, List.append_nil]

/-- A search for a class of characters stops at the first of them. -/
theorem split_startsWith {p : Char → Bool} {read rest : List Char}
    (hread : ∀ c ∈ read, p c = false) (hrest : rest = [] ∨ startsWith p rest = true) :
    split (startsWith p) (read ++ rest) = (read, rest) :=
  split_of_forall (fun c _ hc => hread c (hc.subset List.mem_cons_self)) hrest

/-- A search passes what holds nothing of its class. -/
theorem split_startsWith_append {p : Char → Bool} {read : List Char}
    (h : ∀ c ∈ read, p c = false) (rest : List Char) :
    split (startsWith p) (read ++ rest) =
      (read ++ (split (startsWith p) rest).1, (split (startsWith p) rest).2) :=
  split_append_of_forall fun c _ hc => h c (hc.subset List.mem_cons_self)

/-- What is read up to a class of characters holds none of them. -/
theorem forall_mem_split (p : Char → Bool) (cs : List Char) :
    ∀ c ∈ (split (startsWith p) cs).1, p c = false := by
  induction cs with
  | nil => intro c hc; cases hc
  | cons d ds ih =>
      rw [split]
      split
      · intro c hc
        cases hc
      · rename_i hd
        intro c hc
        rcases List.mem_cons.1 hc with rfl | hc
        · simpa [startsWith] using hd
        · exact ih c hc

/-- A search ends at its aim or at the end of the text. -/
theorem split_stop (stop : List Char → Bool) (cs : List Char) :
    (split stop cs).2 = [] ∨ stop (split stop cs).2 = true := by
  induction cs with
  | nil => exact Or.inl rfl
  | cons c cs ih =>
      rw [split]
      split
      · exact Or.inr ‹_›
      · exact ih

/-- The symbols are placed in what is read between two cursors. -/
def Holds (ok : List Char → Prop) (k k' : Cursor) (symbols : List Symbol) : Prop :=
  ∃ read, k.rest = read ++ k'.rest ∧ k'.offset = k.offset + utf8Length read ∧
    Placed ok k.offset read symbols

variable {ok : List Char → Prop} {k k' k'' : Cursor} {symbols others : List Symbol}

theorem Reaches.holds (h : k.Reaches k') : k.Holds ok k' [] := by
  obtain ⟨read, hrest, hoffset⟩ := h
  exact ⟨read, hrest, hoffset, .nil _ _⟩

theorem Holds.trans (h : k.Holds ok k' symbols) (h' : k'.Holds ok k'' others) :
    k.Holds ok k'' (symbols ++ others) := by
  obtain ⟨read, hrest, hoffset, hplaced⟩ := h
  obtain ⟨read', hrest', hoffset', hplaced'⟩ := h'
  rw [hoffset] at hplaced'
  exact ⟨read ++ read', by simp [hrest, hrest'], by simp [hoffset, hoffset']; omega,
    hplaced.append hplaced'⟩

theorem Holds.placed (h : k.Holds ok k' symbols) (h' : Placed ok k'.offset k'.rest others) :
    Placed ok k.offset k.rest (symbols ++ others) := by
  obtain ⟨read, hrest, hoffset, hplaced⟩ := h
  rw [hrest]
  rw [hoffset] at h'
  exact hplaced.append h'

end Cursor

end Text

end Manuscript

/-
# Manuscript.Proofs.Bibtex.Placement -- the keys of a bibliography stand where they were read

A scan is one block after another (`scan_of_cons`).  The key of an entry is a word
without blanks behind the delimiter that opens the entry, and nothing else in a block
is a key, so all keys of a bibliography are placed in it (`placed_scan`).
-/
import Manuscript.Bibtex.Analysis
import Manuscript.Proofs.Text.Placement

namespace Manuscript.Bibtex

set_option autoImplicit false

open Text

/-! ## A scan as one block after another -/

/-- The next at sign, or the end. -/
def nextBlock (k : Cursor) : Cursor := (k.upTo (startsWith (· == '@'))).2

/-- The block whose at sign `c` is. -/
def Block.at (offset : Nat) (c : Char) (cs : List Char) : Block :=
  .read offset ⟨offset + c.utf8Size, cs⟩

theorem reaches_nextBlock (k : Cursor) : k.Reaches (nextBlock k) := Cursor.reaches_upTo _ k

theorem scan_of_nil {k : Cursor} (h : (nextBlock k).rest = []) : scan k = [] := by
  rw [scan]
  simp only
  split
  · rfl
  · rename_i c cs hcs
    rw [nextBlock, hcs] at h
    cases h

theorem scan_of_cons {k : Cursor} {c : Char} {cs : List Char} (h : (nextBlock k).rest = c :: cs) :
    scan k = (Block.at (nextBlock k).offset c cs).events ++
      scan (Block.at (nextBlock k).offset c cs).next := by
  rw [scan]
  simp only
  split
  · rename_i hnil
    rw [nextBlock, hnil] at h
    cases h
  · rename_i c' cs' hcs
    rw [nextBlock, hcs] at h
    cases h
    rfl

/-- A bibliography is read up, one block after another. -/
theorem scan_induction {motive : Cursor → Prop}
    (nil : ∀ k, (nextBlock k).rest = [] → motive k)
    (cons : ∀ k c cs, (nextBlock k).rest = c :: cs →
      motive (Block.at (nextBlock k).offset c cs).next → motive k)
    (k : Cursor) : motive k := by
  induction hn : k.rest.length using Nat.strong_induction_on generalizing k with
  | _ n ih =>
      cases hrest : (nextBlock k).rest with
      | nil => exact nil k hrest
      | cons c cs =>
          refine cons k c cs hrest (ih _ ?_ _ rfl)
          have hle := (reaches_nextBlock k).length_le
          have hblock := (Block.reaches_read (nextBlock k).offset
            ⟨(nextBlock k).offset + c.utf8Size, cs⟩).length_le
          rw [hrest, List.length_cons, hn] at hle
          exact Nat.lt_of_lt_of_le (Nat.lt_succ_of_le hblock) hle

/-! ## Keys -/

/-- The key of an entry. -/
def Event.key? : Event → Option Symbol
  | .entry e => e.key
  | _ => none

/-- The keys of a bibliography, as its scan meets them. -/
theorem keys_analyze (text : String) :
    (analyze text).keys = (scan (.ofString text)).filterMap Event.key? := by
  show ((scan (.ofString text)).filterMap Event.entry?).filterMap Entry.key = _
  rw [List.filterMap_filterMap]
  exact congrArg (List.filterMap · _) (funext fun e => by cases e <;> rfl)

/-- An event that is met among fields. -/
inductive Event.Inner : Event → Prop where
  | reference (name : Symbol) : Inner (.reference name)
  | fault (diagnostic : Diagnostic) : Inner (.fault diagnostic)

/-- What no such event has, no list of them has. -/
theorem Event.filterMap_inner {α : Type} {f : Event → Option α} {events : List Event}
    (hreference : ∀ name, f (.reference name) = none) (hfault : ∀ d, f (.fault d) = none)
    (h : ∀ e ∈ events, e.Inner) : events.filterMap f = [] := by
  rw [List.filterMap_eq_nil_iff]
  intro e he
  cases h e he with
  | reference name => exact hreference name
  | fault d => exact hfault d

namespace Fields

def Step.events : Step → List Event
  | .stop _ _ => []
  | .go _ events _ => events
  | .abandon events _ => events

/-- Recovery adds nothing to the problem that it recovers from. -/
theorem Step.events_recover (delimiter : Delimiter) (fault : Diagnostic) (depth : Nat)
    (k : Cursor) : (recover delimiter fault depth k).events = [.fault fault] := by
  unfold recover
  simp only
  split <;> rfl

theorem Step.events_value (delimiter : Delimiter) (name : Symbol) (k : Cursor) :
    (value delimiter name k).events =
      (Value.read delimiter k).references.map Event.reference := by
  unfold value
  simp only
  split <;> rfl

theorem Step.inner_recover (delimiter : Delimiter) (fault : Diagnostic) (depth : Nat)
    (k : Cursor) : ∀ e ∈ (recover delimiter fault depth k).events, e.Inner := by
  rw [events_recover]
  exact List.forall_mem_singleton.2 (.fault fault)

theorem Step.inner_value (delimiter : Delimiter) (name : Symbol) (k : Cursor) :
    ∀ e ∈ (value delimiter name k).events, e.Inner := by
  rw [events_value]
  intro e he
  obtain ⟨s, -, rfl⟩ := List.mem_map.1 he
  exact .reference s

theorem Step.inner_read (delimiter : Delimiter) (here : Cursor) :
    ∀ e ∈ (read delimiter here).events, e.Inner := by
  have hnone : ∀ e ∈ ([] : List Event), e.Inner := fun e he => by cases he
  unfold read
  split
  · exact hnone
  · simp only
    split
    · exact hnone
    split
    · exact hnone
    split
    · exact hnone
    split
    · exact inner_recover _ _ _ _
    · split
      · exact inner_value _ _ _
      · exact inner_recover _ _ _ _

/-- **Fields hold nothing but references and faults.** -/
theorem inner_read (delimiter : Delimiter) (k : Cursor) :
    ∀ e ∈ (read delimiter k).events, e.Inner := by
  induction k using read.induct delimiter with
  | case1 k here terminated k' h =>
      rw [read]
      simp only
      split <;> rename_i h' <;> rw [h] at h' <;> cases h'
      exact List.forall_mem_nil _
  | case2 k here field events k' h ih =>
      have hstep := Step.inner_read delimiter here
      rw [h] at hstep
      rw [read]
      simp only
      split <;> rename_i h' <;> rw [h] at h' <;> cases h'
      intro e he
      exact (List.mem_append.1 he).elim (hstep e) (ih e)
  | case3 k here events k' h =>
      have hstep := Step.inner_read delimiter here
      rw [h] at hstep
      rw [read]
      simp only
      split <;> rename_i h' <;> rw [h] at h' <;> cases h'
      exact hstep

theorem key?_read (delimiter : Delimiter) (k : Cursor) :
    (read delimiter k).events.filterMap Event.key? = [] :=
  Event.filterMap_inner (fun _ => rfl) (fun _ => rfl) (inner_read delimiter k)

end Fields

namespace Block

/-- The keys of a block are placed in what it takes. -/
def Holds (k : Cursor) (b : Block) : Prop :=
  k.Holds (Solid isAsciiBlank) b.next (b.events.filterMap Event.key?)

/-- A block without keys. -/
theorem holds_of_reaches {k : Cursor} {b : Block} (h : k.Reaches b.next)
    (hnone : b.events.filterMap Event.key? = []) : b.Holds k := by
  unfold Holds
  rw [hnone]
  exact Cursor.Reaches.holds h

/-- The place where a key may start, and the key with the place after it. -/
def keyAt (delimiter : Delimiter) (k : Cursor) : List Char × Cursor :=
  (skipBlanks k).upTo (endsKey delimiter)

theorem key?_skipped (start : Nat) (delimiter : Delimiter) (k : Cursor) :
    (skipped start delimiter k).events.filterMap Event.key? = [] := by
  unfold skipped
  split <;> rfl

theorem key?_strings (start : Nat) (delimiter : Delimiter) (k : Cursor) :
    (strings start delimiter k).events.filterMap Event.key? = [] := by
  have hnames (fields : List Field) :
      (fields.map (Event.string ∘ Field.name)).filterMap Event.key? = [] := by
    rw [List.filterMap_map, List.filterMap_eq_nil_iff]
    intro f _
    rfl
  unfold strings Fields.faults
  simp only [List.filterMap_append, Fields.key?_read, hnames]
  split <;> rfl

theorem key?_entry (start : Nat) (kind : String) (delimiter : Delimiter) (k : Cursor) :
    (entry start kind delimiter k).events.filterMap Event.key? =
      if (keyAt delimiter k).1 = [] then []
      else [Symbol.ofText (skipBlanks k).offset (keyAt delimiter k).1] := by
  unfold entry Fields.faults keyAt
  simp only [List.filterMap_append, Fields.key?_read]
  split <;> split <;> rfl

/-- A key holds nothing that ends it. -/
theorem of_mem_keyAt {delimiter : Delimiter} {k : Cursor} {c : Char}
    (hc : c ∈ (keyAt delimiter k).1) :
    (((c ≠ ',' ∧ c ≠ delimiter.closing) ∧ c ≠ '{') ∧ c ≠ '}') ∧ isAsciiBlank c = false := by
  have hchar := Cursor.forall_mem_split _ _ c hc
  simpa only [Bool.or_eq_false_iff, beq_eq_false_iff_ne] using hchar

theorem solid_keyAt (delimiter : Delimiter) (k : Cursor) (hne : (keyAt delimiter k).1 ≠ []) :
    Solid isAsciiBlank (keyAt delimiter k).1 :=
  solid_of_forall hne fun _ hc => (of_mem_keyAt hc).2

/-- The key of an entry is placed behind the delimiter that opens it. -/
theorem holds_keyAt (delimiter : Delimiter) {sep : Char} (hsep : isSeparator sep = true)
    (offset : Nat) (rest : List Char) :
    Cursor.Holds (Solid isAsciiBlank) ⟨offset, sep :: rest⟩
      (keyAt delimiter ⟨offset + sep.utf8Size, rest⟩).2
      (if (keyAt delimiter ⟨offset + sep.utf8Size, rest⟩).1 = [] then []
        else [Symbol.ofText (skipBlanks ⟨offset + sep.utf8Size, rest⟩).offset
          (keyAt delimiter ⟨offset + sep.utf8Size, rest⟩).1]) := by
  generalize hk : (⟨offset + sep.utf8Size, rest⟩ : Cursor) = k
  have hblanks : AllBlank isBlank (k.upTo (startsWith (!isAsciiBlank ·))).1 := by
    intro c hc
    have := Cursor.forall_mem_split _ _ c hc
    exact isBlank_of_isAsciiBlank (by simpa using this)
  have hrest : k.rest = (k.upTo (startsWith (!isAsciiBlank ·))).1 ++ (skipBlanks k).rest :=
    (Cursor.upTo_append _ k).symm
  have hoffset : (skipBlanks k).offset =
      k.offset + utf8Length (k.upTo (startsWith (!isAsciiBlank ·))).1 := Cursor.upTo_offset _ k
  have hword : (skipBlanks k).rest = (keyAt delimiter k).1 ++ (keyAt delimiter k).2.rest :=
    (Cursor.upTo_append _ _).symm
  have hnext : (keyAt delimiter k).2.offset =
      (skipBlanks k).offset + utf8Length (keyAt delimiter k).1 := Cursor.upTo_offset _ _
  have hstart : k.offset = offset + sep.utf8Size := by rw [← hk]
  generalize (k.upTo (startsWith (!isAsciiBlank ·))).1 = blanks at *
  refine ⟨sep :: (blanks ++ (keyAt delimiter k).1), ?_, ?_, ?_⟩
  · rw [show rest = k.rest by rw [← hk], hrest, hword]
    simp
  · rw [hnext, hoffset, hstart]
    simp only [utf8Length_cons, utf8Length_append]
    omega
  · split
    · exact .nil _ _
    · rename_i hne
      have := Placed.single offset hsep hblanks (solid_keyAt delimiter k hne) []
      rw [List.append_nil] at this
      rw [hoffset, hstart, Nat.add_assoc, ← utf8Length_cons]
      exact this

theorem holds_entry (start : Nat) (kind : String) (delimiter : Delimiter) {sep : Char}
    (hsep : isSeparator sep = true) (offset : Nat) (rest : List Char) :
    (entry start kind delimiter ⟨offset + sep.utf8Size, rest⟩).Holds ⟨offset, sep :: rest⟩ := by
  have hfields := Fields.reaches_read delimiter (keyAt delimiter ⟨offset + sep.utf8Size, rest⟩).2
  have := (holds_keyAt delimiter hsep offset rest).trans hfields.holds
  unfold Holds
  rw [key?_entry, ← List.append_nil (ite _ _ _)]
  exact this

theorem holds_content (start : Nat) (kind : String) (delimiter : Delimiter) {sep : Char}
    (hsep : isSeparator sep = true) (offset : Nat) (rest : List Char) :
    (content start kind delimiter ⟨offset + sep.utf8Size, rest⟩).Holds ⟨offset, sep :: rest⟩ := by
  have hstep : Cursor.Reaches ⟨offset, sep :: rest⟩ ⟨offset + sep.utf8Size, rest⟩ :=
    ⟨[sep], rfl, by simp⟩
  have hreach := hstep.trans (reaches_content start kind delimiter ⟨offset + sep.utf8Size, rest⟩)
  unfold content at hreach ⊢
  split
  · rename_i hskip
    rw [if_pos hskip] at hreach
    exact holds_of_reaches hreach (key?_skipped start delimiter _)
  · rename_i hskip
    rw [if_neg hskip] at hreach
    split
    · rename_i hstring
      rw [if_pos hstring] at hreach
      exact holds_of_reaches hreach (key?_strings start delimiter _)
    · exact holds_entry start kind delimiter hsep offset rest

/-- **The keys of a block are placed in what it takes.** -/
theorem holds_read (start : Nat) (k : Cursor) : (read start k).Holds k := by
  unfold read
  have hname : k.Reaches (readName k).2 := Cursor.reaches_upTo _ k
  split
  · exact holds_of_reaches (Cursor.Reaches.refl k) rfl
  · rename_i name after _ hread
    rw [hread] at hname
    have hhere := hname.trans (reaches_skipBlanks after)
    simp only
    split
    · rename_i rest hrest
      have := holds_content start (String.ofList (lower name)) .brace
        (show isSeparator '{' = true by decide) (skipBlanks after).offset rest
      rw [← hrest] at this
      exact Cursor.Holds.trans hhere.holds this
    · rename_i rest hrest
      have := holds_content start (String.ofList (lower name)) .parenthesis
        (show isSeparator '(' = true by decide) (skipBlanks after).offset rest
      rw [← hrest] at this
      exact Cursor.Holds.trans hhere.holds this
    · exact holds_of_reaches hhere rfl

end Block

/-- **The keys of a bibliography are placed in it.** -/
theorem placed_scan (k : Cursor) :
    Placed (Solid isAsciiBlank) k.offset k.rest ((scan k).filterMap Event.key?) := by
  induction k using scan_induction with
  | nil k h =>
      rw [scan_of_nil h]
      exact .nil _ _
  | cons k c cs h ih =>
      rw [scan_of_cons h, List.filterMap_append]
      have hreach : k.Reaches ⟨(nextBlock k).offset + c.utf8Size, cs⟩ :=
        (reaches_nextBlock k).trans ⟨[c], h, by simp⟩
      exact (Cursor.Holds.trans hreach.holds (Block.holds_read _ _)).placed ih

end Manuscript.Bibtex

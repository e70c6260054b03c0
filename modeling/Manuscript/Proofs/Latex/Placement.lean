/-
# Manuscript.Proofs.Latex.Placement -- the keys of a LaTeX text stand where they were read

A scan is one reading after another (`scan_cons`): each takes at least a character and
what is met later does not depend on it.  So what every reading does, the scan does,
and `scan_induction` is the induction over the readings of a text.

Labels, references, citations and the paths of includes are the keys of a text.  Every
reading leaves its keys placed in what it took (`Reading.holds_token`), so all keys of
a text are placed in it (`placed_scan`): in the order of the text, each the text of its
span, no two of them touching.
-/
import Manuscript.Latex.Analysis
import Manuscript.Proofs.Latex.Group

namespace Manuscript.Latex

set_option autoImplicit false

open Text

/-! ## A scan as one reading after another -/

/-- What the character `c` at `start` begins; the cursor is after it. -/
def Reading.token (start : Nat) (c : Char) (next : Cursor) : Reading :=
  if c = '\\' then readCommand start next
  else if c = '%' then .nothing (next.upTo (startsWith (· == '\n'))).2
  else if c = '{' then ⟨[.braceOpened start], next⟩
  else if c = '}' then ⟨[.braceClosed start], next⟩
  else .nothing next

/-- The reading at a place where a character stands. -/
def Reading.at (offset : Nat) (c : Char) (cs : List Char) : Reading :=
  .token offset c ⟨offset + c.utf8Size, cs⟩

theorem scan_nil (offset : Nat) : scan ⟨offset, []⟩ = [] := by
  rw [scan]

theorem scan_cons (offset : Nat) (c : Char) (cs : List Char) :
    scan ⟨offset, c :: cs⟩ =
      (Reading.at offset c cs).events ++ scan (Reading.at offset c cs).next := by
  rw [scan]
  unfold Reading.at Reading.token
  by_cases hcommand : c = '\\'
  · simp [hcommand]
  by_cases hcomment : c = '%'
  · simp [hcomment, Reading.nothing]
  by_cases hopen : c = '{'
  · simp [hopen]
  by_cases hclose : c = '}'
  · simp [hclose]
  · simp [hcommand, hcomment, hopen, hclose, Reading.nothing]

/-- A character that begins nothing is passed. -/
theorem scan_other {c : Char} (h : c ∉ ['\\', '%', '{', '}']) (offset : Nat) (cs : List Char) :
    scan ⟨offset, c :: cs⟩ = scan ⟨offset + c.utf8Size, cs⟩ := by
  simp only [List.mem_cons, List.not_mem_nil, or_false, not_or] at h
  obtain ⟨hslash, hpercent, hopen, hclose⟩ := h
  rw [scan_cons]
  simp [Reading.at, Reading.token, Reading.nothing, hslash, hpercent, hopen, hclose]

theorem Reading.from_token (start : Nat) (c : Char) (next : Cursor) :
    (token start c next).From next := by
  unfold token
  split
  · exact from_readCommand start next
  split
  · exact Cursor.reaches_upTo _ next
  split
  · exact Cursor.Reaches.refl next
  split
  · exact Cursor.Reaches.refl next
  · exact Cursor.Reaches.refl next

/-- A text is read up, one reading after another. -/
theorem scan_induction {motive : Cursor → Prop}
    (nil : ∀ offset, motive ⟨offset, []⟩)
    (cons : ∀ offset c cs, motive (Reading.at offset c cs).next → motive ⟨offset, c :: cs⟩)
    (k : Cursor) : motive k := by
  induction hn : k.rest.length using Nat.strong_induction_on generalizing k with
  | _ n ih =>
      obtain ⟨offset, rest⟩ := k
      cases rest with
      | nil => exact nil offset
      | cons c cs =>
          refine cons offset c cs (ih _ ?_ _ rfl)
          have := (Reading.from_token offset c ⟨offset + c.utf8Size, cs⟩).length_le
          rw [← hn]
          exact Nat.lt_succ_of_le this

/-! ## Keys -/

/-- The symbol that a key group gave an event. -/
def Event.key? : Event → Option Symbol
  | .label symbol => some symbol
  | .reference symbol => some symbol
  | .citation symbol => some symbol
  | .inclusion file => some ⟨file.path, file.span⟩
  | _ => none

/-- The label that an event defines or refers to. -/
def Event.labelled? : Event → Option Symbol
  | .label symbol => some symbol
  | .reference symbol => some symbol
  | _ => none

namespace Reading

/-- The keys of a reading are placed in what it takes. -/
def Holds (k : Cursor) (r : Reading) : Prop :=
  k.Holds (Solid isBlank) r.next (r.events.filterMap Event.key?)

/-- The faults of a group are neither keys nor anything else but faults. -/
theorem filterMap_faults {α : Type} {f : Event → Option α} (h : ∀ d, f (.fault d) = none)
    (g : Group) : g.faults.filterMap f = [] := by
  unfold Group.faults
  cases g.closed with
  | true => rfl
  | false => simp [h]

@[simp] theorem key?_faults (g : Group) : g.faults.filterMap Event.key? = [] :=
  filterMap_faults (fun _ => rfl) g

/-- A reading without keys. -/
theorem holds_of_from {k : Cursor} {r : Reading} (h : r.From k)
    (hnone : r.events.filterMap Event.key? = []) : r.Holds k := by
  unfold Holds
  rw [hnone]
  exact Cursor.Reaches.holds h

/-- A reading that goes over some text first. -/
theorem Holds.of_reaches {k k' : Cursor} {r : Reading} (h : k.Reaches k') (hr : r.Holds k') :
    r.Holds k :=
  Cursor.Holds.trans (Cursor.Reaches.holds h) hr

theorem holds_keys {event : Symbol → Event} (hevent : ∀ s, (event s).key? = some s) (k : Cursor) :
    (keys event k).Holds k := by
  unfold keys
  split
  · rename_i g hg
    unfold Holds
    simp only [List.filterMap_append, List.filterMap_map, key?_faults]
    rw [show Event.key? ∘ event = some from funext hevent, List.filterMap_some, List.nil_append]
    exact Group.holds_of_read? hg g.placed_names
  · exact holds_of_from (from_nothing k) rfl

theorem holds_label (k : Cursor) : (label k).Holds k := by
  unfold label
  split
  · rename_i g hg
    unfold Holds
    simp only [List.filterMap_append, key?_faults, List.nil_append]
    rw [show (g.name?.map Event.label).toList.filterMap Event.key? = g.name?.toList by
      cases g.name? <;> rfl]
    exact Group.holds_of_read? hg g.placed_name?
  · exact holds_of_from (from_nothing k) rfl

theorem holds_references (isRange : Bool) (k : Cursor) : (references isRange k).Holds k := by
  unfold references
  split
  · rename_i g hg
    unfold Holds
    simp only [List.filterMap_append, List.filterMap_map, key?_faults]
    rw [show Event.key? ∘ Event.reference = some from rfl, List.filterMap_some, List.nil_append]
    refine (Group.holds_of_read? hg g.placed_names).trans ?_
    cases isRange with
    | true => exact holds_keys (fun _ => rfl) g.next
    | false => exact holds_of_from (from_nothing g.next) rfl
  · exact holds_of_from (from_nothing k) rfl

theorem holds_citations (k : Cursor) : (citations k).Holds k := by
  unfold citations
  split
  · rename_i g hg
    refine .of_reaches (reaches_skipOptions k) ?_
    unfold Holds
    simp only [List.filterMap_append, List.filterMap_map, key?_faults]
    rw [show Event.key? ∘ Event.citation = some from rfl, List.filterMap_some, List.nil_append]
    exact Group.holds_of_read? hg (g.placed_names.sublist List.filter_sublist)
  · exact holds_of_from (reaches_skipOptions k) rfl

theorem holds_includes (kind : IncludeKind) (k : Cursor) : (includes kind k).Holds k :=
  .of_reaches (reaches_skipOptions k) (holds_keys (fun _ => rfl) _)

/-- Begin commands, end commands, headings and definitions leave no keys. -/
theorem key?_opening (start : Nat) (k : Cursor) :
    (opening start k).events.filterMap Event.key? = [] := by
  unfold opening
  split
  · rename_i g hg
    split
    · split
      · simp only [List.filterMap_append, key?_faults, List.nil_append]
        unfold verbatim
        simp only
        split <;> rfl
      · simp only [List.filterMap_append, key?_faults]
        rfl
    · exact key?_faults g
  · rfl

theorem key?_closing (start : Nat) (k : Cursor) :
    (closing start k).events.filterMap Event.key? = [] := by
  unfold closing
  split
  · rename_i g hg
    simp only [List.filterMap_append, key?_faults, List.nil_append]
    cases g.name? <;> rfl
  · rfl

theorem key?_heading (start level : Nat) (k : Cursor) :
    (heading start level k).events.filterMap Event.key? = [] := by
  unfold heading
  simp only
  split <;> rfl

theorem key?_definition (k : Cursor) : (definition k).events.filterMap Event.key? = [] := by
  unfold definition
  simp only
  split <;> split <;> rfl

theorem holds_opening (start : Nat) (k : Cursor) : (opening start k).Holds k :=
  holds_of_from (from_opening start k) (key?_opening start k)

theorem holds_closing (start : Nat) (k : Cursor) : (closing start k).Holds k :=
  holds_of_from (from_closing start k) (key?_closing start k)

theorem holds_arguments (start : Nat) (name : String) (k : Cursor) :
    (arguments start name k).Holds k := by
  unfold arguments
  repeat' split
  · exact holds_opening start k
  · exact holds_closing start k
  · exact holds_label k
  · exact holds_includes _ k
  · exact holds_references _ k
  · exact holds_citations k
  · exact holds_of_from (from_heading start _ k) (key?_heading start _ k)
  · exact holds_of_from (from_definition k) (key?_definition k)
  · exact holds_of_from (from_nothing k) rfl

theorem holds_readCommand (start : Nat) (k : Cursor) : (readCommand start k).Holds k := by
  unfold readCommand
  split
  · exact holds_of_from (from_nothing k) rfl
  · rename_i c cs hcs
    split
    · exact .of_reaches (Cursor.reaches_after (commandName_append k.rest))
        (holds_arguments start _ _)
    · refine holds_of_from ?_ rfl
      exact ⟨[c], by simp [nothing, Cursor.bump, hcs], by simp [nothing, Cursor.bump, hcs]⟩

/-- **Every reading leaves its keys placed in what it took.** -/
theorem holds_token (start : Nat) (c : Char) (next : Cursor) :
    (token start c next).Holds next := by
  by_cases hcommand : c = '\\'
  · rw [token, if_pos hcommand]
    exact holds_readCommand start next
  · apply holds_of_from (from_token start c next)
    unfold token
    rw [if_neg hcommand]
    split
    · rfl
    split
    · rfl
    split <;> rfl

end Reading

/-- **The keys of a text are placed in it.** -/
theorem placed_scan (k : Cursor) :
    Placed (Solid isBlank) k.offset k.rest ((scan k).filterMap Event.key?) := by
  induction k using scan_induction with
  | nil offset =>
      rw [scan_nil]
      exact .nil _ _
  | cons offset c cs ih =>
      rw [scan_cons, List.filterMap_append]
      have hstep := (Reading.holds_token offset c ⟨offset + c.utf8Size, cs⟩).placed ih
      have hc : utf8Length [c] = c.utf8Size := by simp
      rw [← hc] at hstep
      exact hstep.skip

/-! ## Stars -/

namespace Reading

/-- Nothing that was read cites a star. -/
def Starless (r : Reading) : Prop := ∀ s ∈ r.events.filterMap Event.citation?, s.name ≠ "*"

theorem starless_of_nil {r : Reading} (h : r.events.filterMap Event.citation? = []) :
    r.Starless := by
  intro s hs
  rw [h] at hs
  cases hs

@[simp] theorem citation?_faults (g : Group) : g.faults.filterMap Event.citation? = [] :=
  filterMap_faults (fun _ => rfl) g

theorem starless_keys {event : Symbol → Event} (hevent : ∀ s, (event s).citation? = none)
    (k : Cursor) : (keys event k).Starless := by
  unfold keys
  split
  · exact starless_of_nil (by simp [hevent])
  · exact starless_of_nil rfl

/-- A citation is a key. -/
theorem starless_of_key? {r : Reading} (h : r.events.filterMap Event.key? = []) : r.Starless := by
  intro s hs
  obtain ⟨e, he, hs⟩ := List.mem_filterMap.1 hs
  have hkey := List.filterMap_eq_nil_iff.1 h e he
  cases e <;> cases hs
  cases hkey

theorem starless_label (k : Cursor) : (label k).Starless := by
  apply starless_of_nil
  unfold label
  split
  · rename_i g hg
    simp only [List.filterMap_append, citation?_faults, List.nil_append]
    cases g.name? <;> rfl
  · rfl

theorem starless_references (isRange : Bool) (k : Cursor) : (references isRange k).Starless := by
  unfold references
  split
  · rename_i g hg
    intro s hs
    rw [List.filterMap_append] at hs
    rcases List.mem_append.1 hs with hs | hs
    · simp [Event.citation?] at hs
    · cases isRange with
      | true => exact starless_keys (fun _ => rfl) g.next s hs
      | false => cases hs
  · exact starless_of_nil rfl

theorem starless_citations (k : Cursor) : (citations k).Starless := by
  unfold citations
  split
  · rename_i g hg
    intro s hs
    simp only [List.filterMap_append, citation?_faults, List.nil_append, List.filterMap_map] at hs
    rw [show Event.citation? ∘ Event.citation = some from rfl, List.filterMap_some] at hs
    simpa using (List.mem_filter.1 hs).2
  · exact starless_of_nil rfl

theorem starless_arguments (start : Nat) (name : String) (k : Cursor) :
    (arguments start name k).Starless := by
  unfold arguments
  repeat' split
  · exact starless_of_key? (key?_opening start k)
  · exact starless_of_key? (key?_closing start k)
  · exact starless_label k
  · exact starless_keys (fun _ => rfl) _
  · exact starless_references _ k
  · exact starless_citations k
  · exact starless_of_key? (key?_heading start _ k)
  · exact starless_of_key? (key?_definition k)
  · exact starless_of_nil rfl

theorem starless_token (start : Nat) (c : Char) (next : Cursor) :
    (token start c next).Starless := by
  by_cases hcommand : c = '\\'
  · rw [token, if_pos hcommand]
    unfold readCommand
    split
    · exact starless_of_nil rfl
    · split
      · exact starless_arguments start _ _
      · exact starless_of_nil rfl
  · apply starless_of_nil
    unfold token
    rw [if_neg hcommand]
    split
    · rfl
    split
    · rfl
    split <;> rfl

end Reading

/-- **A text cites no star.** -/
theorem ne_star_of_mem_scan {k : Cursor} {s : Symbol}
    (hs : s ∈ (scan k).filterMap Event.citation?) : s.name ≠ "*" := by
  induction k using scan_induction with
  | nil offset =>
      rw [scan_nil] at hs
      cases hs
  | cons offset c cs ih =>
      rw [scan_cons, List.filterMap_append] at hs
      rcases List.mem_append.1 hs with hs | hs
      · exact Reading.starless_token offset c _ s hs
      · exact ih hs

end Manuscript.Latex

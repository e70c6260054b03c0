/-
# Manuscript.Proofs.Latex.Shift -- a LaTeX text does not know where it stands

A reader at a place `n` bytes further on reads the same and goes on `n` bytes further on
(`Reading.shift_arguments`), so the scan meets the same events there (`shift_scan`).  What is
matched over them and found wrong moves along (`Structure.shift_ofEvents`).
-/
import Manuscript.Proofs.Latex.RespeltScan
import Manuscript.Proofs.Text.Shift
import Mathlib.Data.List.TakeDrop

namespace Manuscript.Latex

set_option autoImplicit false

open Text

variable (n : Nat)

/-! ## Groups -/

theorem shift_skipLayout (k : Cursor) : skipLayout (k.shift n) = (skipLayout k).shift n :=
  Cursor.shift_after n k _ _

theorem shift_option? (k : Cursor) : option? (k.shift n) = (option? k).map (Cursor.shift n) := by
  unfold option?
  dsimp only
  rw [shift_skipLayout, Cursor.rest_shift]
  split
  · simp only [Option.map_map, Cursor.shift_after, Function.comp_def]
  · rfl

theorem shift_skipOptions (k : Cursor) : skipOptions (k.shift n) = (skipOptions k).shift n := by
  induction k using skipOptions.induct with
  | case1 k k' hoption ih =>
      have hshift : option? (k.shift n) = some (k'.shift n) := by rw [shift_option?, hoption]; rfl
      rw [skipOptions_of_some hoption, skipOptions_of_some hshift, ih]
  | case2 k hnone =>
      have hshift : option? (k.shift n) = none := by rw [shift_option?, hnone]; rfl
      rw [skipOptions_of_none hnone, skipOptions_of_none hshift]

namespace Group

def shift (g : Group) : Group := { g with brace := n + g.brace, next := g.next.shift n }

theorem shift_ofBody (brace : Nat) (body : List Char) :
    ofBody (n + brace) body = (ofBody brace body).shift n := by
  obtain ⟨closed, content, rest, hparts⟩ := ofBody_parts body
  rw [hparts, hparts]
  cases closed <;>
    simp [parts, closedBy, abandoned, shift, Cursor.shift, Nat.add_assoc]

theorem shift_read? (k : Cursor) : read? (k.shift n) = (read? k).map (shift n) := by
  unfold read?
  dsimp only
  rw [shift_skipLayout, Cursor.rest_shift, Cursor.offset_shift]
  split
  · exact congrArg some (shift_ofBody n _ _)
  · rfl

end Group

theorem shift_namesFrom (offset : Nat) (stretches : List (List Char)) :
    namesFrom (n + offset) stretches = (namesFrom offset stretches).map (Symbol.shift n) := by
  induction stretches generalizing offset with
  | nil => rfl
  | cons s ss ih =>
      rw [namesFrom, namesFrom, List.map_append, Symbol.shift_trimmed?, ← ih, Nat.add_assoc n,
        Nat.add_assoc n]
      cases Symbol.trimmed? offset s <;> rfl

/-! ## Events -/

def Include.shift (file : Include) : Include := { file with span := file.span.shift n }

def Section.shift (part : Section) : Section := { part with span := part.span.shift n }

def Environment.shift (environment : Environment) : Environment :=
  { environment with
    opening := environment.opening.shift n
    closing := environment.closing.shift n }

def Event.shift : Event → Event
  | .command name => .command name
  | .braceOpened offset => .braceOpened (n + offset)
  | .braceClosed offset => .braceClosed (n + offset)
  | .label symbol => .label (symbol.shift n)
  | .reference symbol => .reference (symbol.shift n)
  | .citation symbol => .citation (symbol.shift n)
  | .inclusion file => .inclusion (file.shift n)
  | .heading part => .heading (part.shift n)
  | .definition symbol => .definition (symbol.shift n)
  | .environmentOpened name span => .environmentOpened name (span.shift n)
  | .environmentClosed name span => .environmentClosed name (span.shift n)
  | .verbatim environment => .verbatim (environment.shift n)
  | .fault diagnostic => .fault (diagnostic.shift n)

theorem Group.shift_faults (g : Group) : (g.shift n).faults = g.faults.map (Event.shift n) := by
  unfold Group.faults
  rw [show (g.shift n).closed = g.closed from rfl]
  cases g.closed <;> rfl

/-! ## Readings -/

namespace Reading

def shift (r : Reading) : Reading := ⟨r.events.map (Event.shift n), r.next.shift n⟩

theorem shift_nothing (k : Cursor) : nothing (k.shift n) = (nothing k).shift n := rfl

/-- A group that is read up, and what is read behind it. -/
theorem shift_group {names : Nat → List Char → List Event}
    {f : List Char → Nat → Cursor → Reading}
    (hnames : ∀ offset content,
      names (n + offset) content = (names offset content).map (Event.shift n))
    (hf : ∀ content start k, f content (n + start) (k.shift n) = (f content start k).shift n)
    (start : Nat) (k : Cursor) :
    group names f (n + start) (k.shift n) = (group names f start k).shift n := by
  have hread := Group.shift_read? n k
  cases h : Group.read? k with
  | none =>
      rw [h] at hread
      rw [group_of_none h, group_of_none hread, shift_nothing]
  | some g =>
      rw [h] at hread
      rw [group_of_read? h, group_of_read? hread, Group.shift_faults]
      have hinside : names (g.shift n).inside g.content =
          (names g.inside g.content).map (Event.shift n) := hnames g.inside g.content
      have hnext : f g.content (n + start) (g.shift n).next =
          (f g.content start g.next).shift n := hf g.content start g.next
      simp only [show (g.shift n).content = g.content from rfl, hinside, hnext, shift,
        List.map_append]

theorem shift_keys {event : Symbol → Event}
    (hevent : ∀ s, event (s.shift n) = (event s).shift n) (k : Cursor) :
    keys event (k.shift n) = (keys event k).shift n := by
  rw [keys_eq event (n + 0), keys_eq event 0]
  refine shift_group n (fun offset content => ?_) (fun _ _ k => shift_nothing n k) 0 k
  rw [shift_namesFrom, List.map_map, List.map_map]
  exact List.map_congr_left fun s _ => hevent s

theorem shift_label (k : Cursor) : label (k.shift n) = (label k).shift n := by
  rw [label_eq (n + 0), label_eq 0]
  refine shift_group n (fun offset content => ?_) (fun _ _ k => shift_nothing n k) 0 k
  rw [Symbol.shift_trimmed?]
  cases Symbol.trimmed? offset content <;> rfl

theorem shift_references (isRange : Bool) (k : Cursor) :
    references isRange (k.shift n) = (references isRange k).shift n := by
  rw [references_eq isRange (n + 0), references_eq isRange 0]
  refine shift_group n (fun offset content => ?_) (fun _ _ k => ?_) 0 k
  · rw [shift_namesFrom, List.map_map, List.map_map]
    rfl
  · cases isRange with
    | true => exact shift_keys n (fun _ => rfl) k
    | false => exact shift_nothing n k

theorem shift_citations (k : Cursor) : citations (k.shift n) = (citations k).shift n := by
  rw [citations_eq (n + 0), citations_eq 0, shift_skipOptions]
  refine shift_group n (fun offset content => ?_) (fun _ _ k => shift_nothing n k) 0 _
  rw [shift_namesFrom, List.filter_map, List.map_map, List.map_map]
  rfl

theorem shift_includes (kind : IncludeKind) (k : Cursor) :
    includes kind (k.shift n) = (includes kind k).shift n := by
  unfold includes
  rw [shift_skipOptions]
  exact shift_keys n (fun _ => rfl) _

/-! ### Environments -/

theorem shift_verbatim (name : String) (opening : Span) (k : Cursor) :
    verbatim name (opening.shift n) (k.shift n) = (verbatim name opening k).shift n := by
  unfold verbatim
  dsimp only
  rw [Cursor.shift_upTo]
  dsimp only
  rw [Cursor.rest_shift]
  split
  · rw [Cursor.shift_after]
    rfl
  · rw [Cursor.shift_after]
    rfl

theorem shift_opening (start : Nat) (k : Cursor) :
    opening (n + start) (k.shift n) = (opening start k).shift n := by
  rw [opening_eq, opening_eq]
  refine shift_group n (fun _ _ => rfl) (fun content start k => ?_) start k
  unfold opened
  cases trim content with
  | nil => rfl
  | cons c word =>
      by_cases hverbatim : Command.isVerbatim (String.ofList (c :: word)) = true
      · simp only [hverbatim, if_true]
        exact shift_verbatim n _ ⟨start, k.offset⟩ k
      · simp only [hverbatim]
        rfl

theorem shift_closing (start : Nat) (k : Cursor) :
    closing (n + start) (k.shift n) = (closing start k).shift n := by
  rw [closing_eq, closing_eq]
  refine shift_group n (fun _ _ => rfl) (fun content start k => ?_) start k
  unfold closed
  cases trim content <;> rfl

/-! ### Headings and definitions -/

theorem shift_heading (start level : Nat) (k : Cursor) :
    heading (n + start) level (k.shift n) = (heading start level k).shift n := by
  unfold heading
  dsimp only
  rw [shift_skipOptions, shift_skipLayout, Cursor.rest_shift, Cursor.offset_shift]
  split
  · split <;> simp only [shift, Event.shift, Section.shift, Span.shift, Nat.add_assoc,
      List.map_cons, List.map_nil]
  · rfl

theorem shift_definedName? (k : Cursor) :
    definedName? (k.shift n) =
      (definedName? k).map fun found => (found.1.shift n, found.2.shift n) := by
  unfold definedName?
  rw [Cursor.rest_shift]
  split
  · split
    · rfl
    · rw [Cursor.shift_after]
      rfl
  · rfl

theorem shift_definition (k : Cursor) : definition (k.shift n) = (definition k).shift n := by
  by_cases hbrace : ∃ body, (skipLayout k).rest = '{' :: body
  · obtain ⟨body, hbody⟩ := hbrace
    have hbody' : (skipLayout (k.shift n)).rest = '{' :: body := by
      rw [shift_skipLayout]
      exact hbody
    rw [definition_brace hbody, definition_brace hbody', shift_skipLayout, Cursor.shift_bump,
      Cursor.shift_upTo, shift_definedName?]
    cases definedName? ((skipLayout k).bump.upTo (startsWith (!isAsciiBlank ·))).2 <;> rfl
  · have hplain : ∀ body, (skipLayout k).rest ≠ '{' :: body := fun body h => hbrace ⟨body, h⟩
    have hplain' : ∀ body, (skipLayout (k.shift n)).rest ≠ '{' :: body := by
      rw [shift_skipLayout]
      exact hplain
    rw [definition_plain hplain, definition_plain hplain', shift_skipLayout, shift_definedName?]
    cases definedName? (skipLayout k) <;> rfl

/-! ### Commands -/

/-- **What follows a command name is read the same further on.** -/
theorem shift_arguments (start : Nat) (name : String) (k : Cursor) :
    arguments (n + start) name (k.shift n) = (arguments start name k).shift n := by
  unfold arguments
  repeat' split
  · exact shift_opening n start k
  · exact shift_closing n start k
  · exact shift_label n k
  · exact shift_includes n _ k
  · exact shift_references n _ k
  · exact shift_citations n k
  · exact shift_heading n start _ k
  · exact shift_definition n k
  · exact shift_nothing n k

theorem shift_readCommand (start : Nat) (k : Cursor) :
    readCommand (n + start) (k.shift n) = (readCommand start k).shift n := by
  unfold readCommand
  rw [Cursor.rest_shift]
  split
  · rfl
  · split
    · dsimp only
      rw [Cursor.shift_after, shift_arguments]
      rfl
    · rw [Cursor.shift_bump]
      rfl

theorem shift_at (offset : Nat) (c : Char) (cs : List Char) :
    Reading.at (n + offset) c cs = (Reading.at offset c cs).shift n := by
  unfold Reading.at token
  rw [Cursor.shift_add, shift_readCommand, Cursor.shift_upTo]
  split
  · rfl
  repeat' split
  all_goals rfl

end Reading

/-- **A text further on has the same events.** -/
theorem shift_scan (k : Cursor) : scan (k.shift n) = (scan k).map (Event.shift n) := by
  induction k using scan_induction with
  | nil offset =>
      show scan ⟨n + offset, []⟩ = _
      rw [scan_nil, scan_nil]
      rfl
  | cons offset c cs ih =>
      show scan ⟨n + offset, c :: cs⟩ = _
      rw [scan_cons, scan_cons, Reading.shift_at, List.map_append, ← ih]
      rfl

/-! ## Structures -/

namespace Pending

def shift (p : Pending) : Pending :=
  { braces := p.braces.map (n + ·)
    environments := p.environments.map (Prod.map id (Span.shift n))
    matched := p.matched.map (Environment.shift n)
    diagnostics := p.diagnostics.map (Diagnostic.shift n) }

theorem shift_unclosed (environments : List (String × Span)) :
    unclosed (environments.map (Prod.map id (Span.shift n))) =
      (unclosed environments).map (Diagnostic.shift n) := by
  unfold unclosed
  rw [← List.map_reverse, List.map_map, List.map_map]
  rfl

theorem shift_close (p : Pending) (name : String) (closing : Span) :
    (p.shift n).close name (closing.shift n) = (p.close name closing).shift n := by
  have hspan : (p.shift n).environments.span (·.1 ≠ name) =
      ((p.environments.span (·.1 ≠ name)).1.map (Prod.map id (Span.shift n)),
        (p.environments.span (·.1 ≠ name)).2.map (Prod.map id (Span.shift n))) := by
    simp only [shift, List.span_eq_takeWhile_dropWhile, List.takeWhile_map, List.dropWhile_map]
    rfl
  unfold close
  rw [hspan]
  generalize p.environments.span (·.1 ≠ name) = cut
  obtain ⟨inner, outer⟩ := cut
  cases outer with
  | nil => simp [shift, unmatchedEnd, Diagnostic.shift]
  | cons environment outer => simp [shift, shift_unclosed, Environment.shift]

theorem shift_step (p : Pending) (e : Event) :
    (p.shift n).step (e.shift n) = (p.step e).shift n := by
  cases e with
  | braceClosed offset =>
      obtain ⟨braces, environments, matched, diagnostics⟩ := p
      cases braces with
      | nil => simp [shift, Event.shift, step, unmatchedBrace, Diagnostic.shift, Span.shift,
          Nat.add_assoc]
      | cons _ _ => rfl
  | environmentClosed name span => exact shift_close n p name span
  | verbatim _ => simp [shift, Event.shift, step]
  | fault _ => simp [shift, Event.shift, step]
  | _ => rfl

theorem shift_foldl (events : List Event) (p : Pending) :
    (events.map (Event.shift n)).foldl step (p.shift n) = (events.foldl step p).shift n := by
  induction events generalizing p with
  | nil => rfl
  | cons e events ih => rw [List.map_cons, List.foldl_cons, List.foldl_cons, shift_step, ih]

theorem shift_finish (p : Pending) : (p.shift n).finish = p.finish.map (Diagnostic.shift n) := by
  have hbraces : ((p.shift n).braces.reverse.map missingBrace) =
      (p.braces.reverse.map missingBrace).map (Diagnostic.shift n) := by
    simp only [shift, ← List.map_reverse, List.map_map]
    rfl
  unfold finish
  rw [hbraces, List.map_append, List.map_append, ← shift_unclosed]
  rfl

end Pending

namespace Structure

def shift (s : Structure) : Structure :=
  { includes := s.includes.map (Include.shift n)
    labelDefinitions := s.labelDefinitions.map (Symbol.shift n)
    labelReferences := s.labelReferences.map (Symbol.shift n)
    citations := s.citations.map (Symbol.shift n)
    sections := s.sections.map (Section.shift n)
    environments := s.environments.map (Environment.shift n)
    commandDefinitions := s.commandDefinitions.map (Symbol.shift n)
    commands := s.commands
    diagnostics := s.diagnostics.map (Diagnostic.shift n) }

/-- **What the events tell moves along.** -/
theorem shift_ofEvents (events : List Event) :
    ofEvents (events.map (Event.shift n)) = (ofEvents events).shift n := by
  have hpending : (events.map (Event.shift n)).foldl Pending.step .start =
      (events.foldl Pending.step .start).shift n := Pending.shift_foldl n events .start
  have hcommands : (events.map (Event.shift n)).filterMap Event.command? =
      events.filterMap Event.command? := by
    rw [@filterMap_moved _ _ Event.command? (Event.shift n) id (by rintro (_ | _) <;> rfl),
      List.map_id]
  unfold ofEvents
  dsimp only
  rw [hpending, hcommands, Pending.shift_finish, Diagnostic.sorted_shift]
  simp only [shift, Structure.mk.injEq, and_true]
  refine ⟨?_, ?_, ?_, ?_, ?_, rfl, ?_⟩ <;>
    exact filterMap_moved (by rintro (_ | _) <;> rfl) events

end Structure

end Manuscript.Latex

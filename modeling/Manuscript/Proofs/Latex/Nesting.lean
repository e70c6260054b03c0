/-
# Manuscript.Proofs.Latex.Nesting -- environments are nested and every end is used once

The begin and end commands of a text come one behind the other (`ordered_delimiters`).
Two invariants follow them over the events.

`Pending.Nested` is about places: what is open lies in the text from the outside to the
inside, and a matched environment does not cross another one or one that is open.  So
an end command, which gives up the environments inside the one that it closes, crosses
nothing.

The other is a count.  Each step puts the span of a begin command either among the open
environments or among the problems, or it moves it from the first to a matched one or
to a problem (`Pending.begun_step`); an end command is used at once
(`Pending.ended_step`).  Nothing is open once the text has ended, so every begin and end
command that the scan meets is in one environment or in one problem
(`wellNested_analyze`).
-/
import Manuscript.Proofs.Latex.Faithful
import Mathlib.Data.List.Nodup

namespace Manuscript

set_option autoImplicit false

open Text

/-- The problem of a code with this span. -/
def Diagnostic.reports (code : String) (span : Span) (d : Diagnostic) : Bool :=
  d.code == some code && d.span == span

namespace Latex

/-! ## Begin and end commands -/

namespace Event

/-- The span of the begin command that an event is about. -/
def begun? : Event → Option Span
  | .environmentOpened _ span => some span
  | .verbatim environment => some environment.opening
  | .fault d => if d.code = some "TEX004" then some d.span else none
  | _ => none

/-- The span of the end command that an event is about. -/
def ended? : Event → Option Span
  | .environmentClosed _ span => some span
  | .verbatim environment => some environment.closing
  | .fault d => if d.code = some "TEX003" then some d.span else none
  | _ => none

/-- The begin and end commands of an event, in the order of the text. -/
def delimiters (e : Event) : List Span := e.begun?.toList ++ e.ended?.toList

variable {k : Cursor} {e : Event} {span : Span}

theorem Told.sees_begun (h : e.Told k) (hspan : e.begun? = some span) :
    ∃ more, k.Sees span ("\\begin".toList ++ more) := by
  cases h with
  | key hkey => cases e <;> first | (cases hkey; done) | cases hspan
  | environmentOpened hs | verbatim hs | unclosed hs =>
      cases hspan
      exact ⟨_, hs⟩
  | _ => cases hspan

theorem Told.sees_ended (h : e.Told k) (hspan : e.ended? = some span) :
    ∃ more, k.Sees span ("\\end".toList ++ more) := by
  cases h with
  | key hkey => cases e <;> first | (cases hkey; done) | cases hspan
  | environmentClosed hs | verbatim _ hs =>
      cases hspan
      exact ⟨_, hs⟩
  | _ => cases hspan

/-- Keys and half typed groups are neither. -/
theorem delimiters_plain {k : Cursor} {events : List Event} (h : ∀ e ∈ events, e.Plain k) :
    events.flatMap delimiters = [] := by
  rw [List.flatMap_eq_nil_iff]
  intro e he
  cases h e he with
  | key hkey => cases e <;> first | (cases hkey; done) | rfl
  | missing _ => rfl

end Event

namespace Reading

variable {name : List Char} {here k : Cursor}

theorem Called.offset_lt (h : Called name here k) : here.offset < k.offset := by
  have := h.offset_eq
  omega

theorem ordered_opening (h : Called "begin".toList here k) :
    Ordered here.offset (opening here.offset k).next.offset
      ((opening here.offset k).events.flatMap Event.delimiters) := by
  have hlt := h.offset_lt
  cases hnamed : Group.named? k with
  | none =>
      rw [Event.delimiters_plain (plain_opening hnamed)]
      have hle := (from_opening here.offset k).offset_le
      exact .nil (by omega)
  | some found =>
      obtain ⟨g, symbol⟩ := found
      have hnext := (Group.reaches_named? hnamed).offset_le
      obtain ⟨e, hevents, hbegins⟩ := opening_of_named here.offset hnamed
      rw [hevents, List.flatMap_append,
        Event.delimiters_plain (Group.plain_faults (Group.named?_eq_some.1 hnamed).1),
        List.nil_append, List.flatMap_singleton]
      generalize (opening here.offset k).next = next at hbegins
      have hopening : here.offset < g.next.offset := by omega
      cases hbegins with
      | opened => exact .single (Nat.le_refl _) hopening (Nat.le_refl _)
      | unclosed hk' => exact .single (Nat.le_refl _) hopening hk'.offset_le
      | @verbatim body rest hbody =>
          have hpos : 0 < utf8Length (terminator symbol.name) :=
            utf8Length_pos (List.cons_ne_nil '\\' _)
          refine .cons (Nat.le_refl _) hopening (.single ?_ ?_ (Nat.le_refl _))
          · show g.next.offset ≤ g.next.offset + utf8Length body
            omega
          · exact Nat.lt_add_of_pos_right hpos

theorem ordered_closing (h : Called "end".toList here k) :
    Ordered here.offset (closing here.offset k).next.offset
      ((closing here.offset k).events.flatMap Event.delimiters) := by
  have hlt := h.offset_lt
  cases hnamed : Group.named? k with
  | none =>
      rw [Event.delimiters_plain (plain_closing hnamed)]
      have hle := (from_closing here.offset k).offset_le
      exact .nil (by omega)
  | some found =>
      have hnext := (Group.reaches_named? hnamed).offset_le
      rw [closing_of_named hnamed, List.flatMap_append,
        Event.delimiters_plain (Group.plain_faults (Group.named?_eq_some.1 hnamed).1)]
      exact .single (Nat.le_refl _) (Nat.lt_of_lt_of_le hlt hnext) (Nat.le_refl _)

/-- The begin and end commands of a command lie in what it takes. -/
theorem ordered_arguments (h : Called name here k) :
    Ordered here.offset (arguments here.offset (String.ofList name) k).next.offset
      ((arguments here.offset (String.ofList name) k).events.flatMap Event.delimiters) := by
  have hle : here.offset ≤ (arguments here.offset (String.ofList name) k).next.offset :=
    (h.reaches.trans (from_arguments here.offset (String.ofList name) k)).offset_le
  rcases arguments_cases here.offset (String.ofList name) k with ⟨hbegin, hread⟩ | ⟨hend, hread⟩ |
    ⟨level, hread⟩ | hread | hplain
  · obtain rfl : name = "begin".toList := by rw [← hbegin, String.toList_ofList]
    rw [hread]
    exact ordered_opening h
  · obtain rfl : name = "end".toList := by rw [← hend, String.toList_ofList]
    rw [hread]
    exact ordered_closing h
  · rw [hread] at hle ⊢
    rcases heading_cases here.offset level k with hevents | ⟨part, k', -, -, hevents⟩ <;>
      exact hevents ▸ .nil hle
  · rw [hread] at hle ⊢
    rcases definition_cases k with hevents | ⟨_, _, _, hevents, -⟩ <;> exact hevents ▸ .nil hle
  · rw [Event.delimiters_plain hplain]
    exact .nil hle

theorem ordered_at (offset : Nat) (c : Char) (cs : List Char) :
    Ordered offset (Reading.at offset c cs).next.offset
      ((Reading.at offset c cs).events.flatMap Event.delimiters) := by
  have hle := Nat.le_of_lt (offset_lt_at offset c cs)
  rcases at_cases offset c cs with ⟨rfl, name, rest, hname, -, hread⟩ | ⟨-, hread⟩ | ⟨-, hread⟩ |
    hevents
  · rw [hread]
    exact ordered_arguments (called_of_commandName hname)
  · rw [hread] at hle ⊢
    exact .nil hle
  · rw [hread] at hle ⊢
    exact .nil hle
  · rw [hevents]
    exact .nil hle

end Reading

/-- **Begin and end commands come one behind the other.** -/
theorem ordered_delimiters (k : Cursor) :
    ∃ last, Ordered k.offset last ((scan k).flatMap Event.delimiters) := by
  induction k using scan_induction with
  | nil offset =>
      rw [scan_nil]
      exact ⟨offset, .nil (Nat.le_refl offset)⟩
  | cons offset c cs ih =>
      obtain ⟨last, hrest⟩ := ih
      rw [scan_cons, List.flatMap_append]
      exact ⟨last, (Reading.ordered_at offset c cs).append hrest⟩

/-- A span of no two of the elements is counted once where it is met. -/
theorem countP_eq_one {events : List Event} {f : Event → Option Span} {span : Span}
    (hnodup : (events.filterMap f).Nodup) (h : span ∈ events.filterMap f) :
    events.countP (f · == some span) = 1 := by
  have hcount := List.count_eq_one_of_mem hnodup h
  rwa [List.count_filterMap] at hcount

/-- Taking some elements of each list. -/
theorem sublist_flatMap {α β : Type} {f : α → Option β} {g : α → List β}
    (less : ∀ x, (f x).toList.Sublist (g x)) (xs : List α) :
    (xs.filterMap f).Sublist (xs.flatMap g) := by
  induction xs with
  | nil => exact .slnil
  | cons x xs ih =>
      rw [List.flatMap_cons, ← List.singleton_append, List.filterMap_append]
      refine .append ?_ ih
      have hx := less x
      cases hf : f x with
      | none => simp [hf]
      | some b => simpa [hf] using hx

/-! ## Each is used once -/

namespace Pending

variable {span : Span}

/-- How often a span is that of an environment, open, matched or given up. -/
def begun (p : Pending) (span : Span) : Nat :=
  p.environments.countP (·.2 == span) + p.matched.countP (·.opening == span) +
    p.diagnostics.countP (Diagnostic.reports "TEX004" span)

/-- How often a span is that of an end command, used or not. -/
def ended (p : Pending) (span : Span) : Nat :=
  p.matched.countP (·.closing == span) + p.diagnostics.countP (Diagnostic.reports "TEX003" span)

theorem countP_unclosed (environments : List (String × Span)) (span : Span) :
    (unclosed environments).countP (Diagnostic.reports "TEX004" span) =
      environments.countP (·.2 == span) := by
  unfold unclosed
  rw [List.countP_map, List.countP_reverse]
  rfl

theorem countP_unclosed_ended (environments : List (String × Span)) (span : Span) :
    (unclosed environments).countP (Diagnostic.reports "TEX003" span) = 0 := by
  rw [List.countP_eq_zero]
  intro d hd
  obtain ⟨e, -, rfl⟩ := List.mem_map.1 hd
  simp [Diagnostic.reports, unclosedEnvironment]

/-- **A begin command is counted when it is met, and stays counted.** -/
theorem begun_step (p : Pending) (e : Event) (span : Span) :
    (p.step e).begun span = p.begun span + if e.begun? == some span then 1 else 0 := by
  cases e with
  | braceClosed offset =>
      obtain ⟨braces, environments, matched, diagnostics⟩ := p
      cases braces <;> simp [Pending.step, begun, Event.begun?, Diagnostic.reports, unmatchedBrace]
  | environmentOpened name s =>
      simp only [Pending.step, begun, Event.begun?, List.countP_cons]
      simp
      omega
  | environmentClosed name s =>
      rcases close_cases p name s with ⟨inner, opening, outer, hopen, hclose⟩ | hclose
      · -- one environment is matched, and those inside become problems
        simp only [Pending.step, hclose, begun, hopen, Event.begun?, List.countP_append,
          List.countP_cons, countP_unclosed]
        simp
        omega
      · simp [Pending.step, hclose, begun, Event.begun?, Diagnostic.reports, unmatchedEnd]
  | verbatim environment =>
      simp only [Pending.step, begun, Event.begun?, List.countP_append, List.countP_cons]
      simp
      omega
  | fault d =>
      simp only [Pending.step, begun, Event.begun?, List.countP_append, List.countP_cons,
        Diagnostic.reports]
      by_cases hcode : d.code = some "TEX004" <;> simp [hcode]
      omega
  | _ => simp [Pending.step, begun, Event.begun?]

/-- **An end command is counted when it is met, and stays counted.** -/
theorem ended_step (p : Pending) (e : Event) (span : Span) :
    (p.step e).ended span = p.ended span + if e.ended? == some span then 1 else 0 := by
  cases e with
  | braceClosed offset =>
      obtain ⟨braces, environments, matched, diagnostics⟩ := p
      cases braces <;> simp [Pending.step, ended, Event.ended?, Diagnostic.reports, unmatchedBrace]
  | environmentClosed name s =>
      rcases close_cases p name s with ⟨inner, opening, outer, -, hclose⟩ | hclose
      · simp only [Pending.step, hclose, ended, Event.ended?, List.countP_append,
          List.countP_cons, countP_unclosed_ended]
        simp
        omega
      · simp only [Pending.step, hclose, ended, Event.ended?, List.countP_append,
          List.countP_cons, Diagnostic.reports, unmatchedEnd]
        simp
        omega
  | verbatim environment =>
      simp only [Pending.step, ended, Event.ended?, List.countP_append, List.countP_cons]
      simp
      omega
  | fault d =>
      simp only [Pending.step, ended, Event.ended?, List.countP_append, List.countP_cons,
        Diagnostic.reports]
      by_cases hcode : d.code = some "TEX003" <;> simp [hcode]
      omega
  | _ => simp [Pending.step, ended, Event.ended?]

theorem begun_foldl (events : List Event) (p : Pending) (span : Span) :
    (events.foldl Pending.step p).begun span =
      p.begun span + events.countP (·.begun? == some span) := by
  induction events generalizing p with
  | nil => rfl
  | cons e events ih =>
      rw [List.foldl_cons, ih, begun_step, List.countP_cons]
      omega

theorem ended_foldl (events : List Event) (p : Pending) (span : Span) :
    (events.foldl Pending.step p).ended span =
      p.ended span + events.countP (·.ended? == some span) := by
  induction events generalizing p with
  | nil => rfl
  | cons e events ih =>
      rw [List.foldl_cons, ih, ended_step, List.countP_cons]
      omega

theorem countP_missingBrace {code : String} (hcode : code ≠ "TEX002") (braces : List Nat)
    (span : Span) :
    (braces.map missingBrace).countP (Diagnostic.reports code span) = 0 := by
  rw [List.countP_eq_zero]
  intro d hd
  obtain ⟨offset, -, rfl⟩ := List.mem_map.1 hd
  simp [Diagnostic.reports, missingBrace, hcode.symm]

/-- What is open at the end of the text is a problem. -/
theorem countP_finish (p : Pending) (span : Span) :
    p.matched.countP (·.opening == span) +
      p.finish.countP (Diagnostic.reports "TEX004" span) = p.begun span := by
  simp only [finish, begun, List.countP_append, countP_unclosed,
    countP_missingBrace (show "TEX004" ≠ "TEX002" by decide)]
  omega

theorem countP_finish_ended (p : Pending) (span : Span) :
    p.matched.countP (·.closing == span) +
      p.finish.countP (Diagnostic.reports "TEX003" span) = p.ended span := by
  simp only [finish, ended, List.countP_append, countP_unclosed_ended,
    countP_missingBrace (show "TEX003" ≠ "TEX002" by decide)]
  omega

end Pending

/-! ## None crosses another -/

namespace Environment

/-- The environment ends where the other has not begun. -/
def Before (a b : Environment) : Prop := a.closing.stop ≤ b.opening.start

/-- The environment lies in the body of the other. -/
def Inside (a b : Environment) : Prop :=
  b.opening.stop ≤ a.opening.start ∧ a.closing.stop ≤ b.closing.start

end Environment

namespace Pending

/-- What is open or matched behind a place is nested. -/
structure Nested (place : Nat) (p : Pending) : Prop where
  open_le : ∀ e ∈ p.environments, e.2.stop ≤ place
  matched_le : ∀ e ∈ p.matched, e.closing.stop ≤ place
  stacked : p.environments.Pairwise fun inner outer => outer.2.stop ≤ inner.2.start
  nested : p.matched.Pairwise fun a b => a.Before b ∨ a.Inside b
  increasing : p.matched.Pairwise fun a b => a.closing.stop < b.closing.stop
  /-- A matched environment lies before or inside one that is open. -/
  across : ∀ a ∈ p.matched, ∀ e ∈ p.environments,
    a.closing.stop ≤ e.2.start ∨ e.2.stop ≤ a.opening.start

variable {place place' : Nat} {p : Pending}

theorem Nested.mono (h : p.Nested place) (hle : place ≤ place') : p.Nested place' :=
  { h with
    open_le := fun e he => Nat.le_trans (h.open_le e he) hle
    matched_le := fun e he => Nat.le_trans (h.matched_le e he) hle }

theorem Nested.opened (h : p.Nested place) (name : String) {span : Span}
    (hstart : place ≤ span.start) (hstop : span.start < span.stop) :
    Nested span.stop { p with environments := (name, span) :: p.environments } where
  open_le := by
    intro e he
    rcases List.mem_cons.1 he with rfl | he
    · exact Nat.le_refl _
    · have := h.open_le e he
      omega
  matched_le := fun e he => by
    have := h.matched_le e he
    omega
  stacked := .cons (fun e he => Nat.le_trans (h.open_le e he) hstart) h.stacked
  nested := h.nested
  increasing := h.increasing
  across := by
    intro a ha e he
    rcases List.mem_cons.1 he with rfl | he
    · exact .inl (Nat.le_trans (h.matched_le a ha) hstart)
    · exact h.across a ha e he

/-- Another matched environment, which ends behind all others. -/
theorem Nested.matched (h : p.Nested place) (environment : Environment)
    (hclosing : place ≤ environment.closing.start)
    (hstop : environment.closing.start < environment.closing.stop)
    (hbefore : ∀ a ∈ p.matched, a.closing.stop ≤ environment.opening.start ∨
      environment.opening.stop ≤ a.opening.start)
    (hopen : ∀ e ∈ p.environments, e.2.stop ≤ environment.opening.start) :
    Nested environment.closing.stop { p with matched := p.matched ++ [environment] } where
  open_le := fun e he => by
    have := h.open_le e he
    omega
  matched_le := by
    refine forall_mem_concat (fun e he => ?_) (Nat.le_refl _)
    have := h.matched_le e he
    omega
  stacked := h.stacked
  nested := by
    refine List.pairwise_append.2 ⟨h.nested, List.pairwise_singleton _ _, fun a ha b hb => ?_⟩
    rw [List.mem_singleton.1 hb]
    have hle := h.matched_le a ha
    exact (hbefore a ha).imp_right fun hinside => ⟨hinside, by omega⟩
  increasing := by
    refine List.pairwise_append.2 ⟨h.increasing, List.pairwise_singleton _ _, fun a ha b hb => ?_⟩
    rw [List.mem_singleton.1 hb]
    have hle := h.matched_le a ha
    omega
  across := forall_mem_concat h.across fun e he => .inr (hopen e he)

/-- What is given up was inside. -/
theorem Nested.outer (h : p.Nested place) {inner outer : List (String × Span)}
    (henvironments : p.environments = inner ++ outer) :
    Nested place { p with environments := outer } where
  open_le := fun e he => h.open_le e (by rw [henvironments]; exact List.mem_append_right _ he)
  matched_le := h.matched_le
  stacked := by
    have := h.stacked
    rw [henvironments] at this
    exact (List.pairwise_append.1 this).2.1
  nested := h.nested
  increasing := h.increasing
  across := fun a ha e he =>
    h.across a ha e (by rw [henvironments]; exact List.mem_append_right _ he)

theorem Nested.diagnosed (h : p.Nested place) (diagnostics : List Diagnostic) :
    Nested place { p with diagnostics := diagnostics } :=
  ⟨h.open_le, h.matched_le, h.stacked, h.nested, h.increasing, h.across⟩

/-- **An end command crosses nothing.** -/
theorem Nested.close (h : p.Nested place) (name : String) {closing : Span}
    (hstart : place ≤ closing.start) (hstop : closing.start < closing.stop) :
    (p.close name closing).Nested closing.stop := by
  rcases close_cases p name closing with ⟨inner, opening, outer, hopen, hclose⟩ | hclose
  · -- the given up environments are no longer there to be crossed
    rw [hclose]
    have houter := h.outer hopen
    have hstacked : ∀ e ∈ outer, e.2.stop ≤ opening.start :=
      (List.pairwise_cons.1 houter.stacked).1
    have hacross : ∀ a ∈ p.matched, a.closing.stop ≤ opening.start ∨
        opening.stop ≤ a.opening.start :=
      fun a ha => houter.across a ha (name, opening) List.mem_cons_self
    have hsplit : p.environments = (inner ++ [(name, opening)]) ++ outer := by
      rw [hopen, List.append_assoc]
      rfl
    exact ((h.outer hsplit).matched ⟨name, opening, closing⟩ hstart hstop hacross
      hstacked).diagnosed _
  · rw [hclose]
    exact (h.mono (show place ≤ closing.stop by omega)).diagnosed _

/-- **What is nested stays nested** when the begin and end commands of an event follow. -/
theorem Nested.step (h : p.Nested place) {e : Event} (he : Ordered place place' e.delimiters) :
    (p.step e).Nested place' := by
  cases e with
  | braceClosed offset =>
      have hmono := h.mono he.le
      obtain ⟨braces, environments, matched, diagnostics⟩ := p
      cases braces with
      | nil => exact hmono.diagnosed _
      | cons _ _ =>
          exact ⟨hmono.open_le, hmono.matched_le, h.stacked, h.nested, h.increasing, h.across⟩
  | environmentOpened name span =>
      cases he with
      | cons hstart hstop hrest => exact (h.opened name hstart hstop).mono hrest.le
  | environmentClosed name span =>
      cases he with
      | cons hstart hstop hrest => exact (h.close name hstart hstop).mono hrest.le
  | verbatim environment =>
      cases he with
      | cons hopening hlt hrest =>
          cases hrest with
          | cons hclosing hstop hrest =>
              have hplace : place ≤ environment.closing.start := by omega
              refine (h.matched environment hplace hstop (fun a ha => .inl ?_)
                fun e he => ?_).mono hrest.le
              · exact Nat.le_trans (h.matched_le a ha) hopening
              · exact Nat.le_trans (h.open_le e he) hopening
  | fault d => exact (h.mono he.le).diagnosed _
  | _ =>
      have hmono := h.mono he.le
      exact ⟨hmono.open_le, hmono.matched_le, h.stacked, h.nested, h.increasing, h.across⟩

theorem Nested.foldl (h : p.Nested place) {events : List Event}
    (hevents : Ordered place place' (events.flatMap Event.delimiters)) :
    (events.foldl Pending.step p).Nested place' := by
  induction events generalizing p place with
  | nil => exact h.mono hevents.le
  | cons e events ih =>
      rw [List.flatMap_cons] at hevents
      obtain ⟨mid, he, hrest⟩ := hevents.exists_of_append
      exact ih (h.step he) hrest

theorem nested_start (place : Nat) : start.Nested place := by
  constructor <;> first | exact .nil | intro _ h; cases h

/-- The body of every matched environment lies between its begin and its end command. -/
def Bodied (p : Pending) : Prop := ∀ a ∈ p.matched, a.opening.stop ≤ a.closing.start

theorem Bodied.step (hbody : p.Bodied) (h : p.Nested place) {e : Event}
    (he : Ordered place place' e.delimiters) : (p.step e).Bodied := by
  cases e with
  | braceClosed offset =>
      obtain ⟨braces, environments, matched, diagnostics⟩ := p
      cases braces <;> exact hbody
  | environmentClosed name span =>
      cases he with
      | cons hstart hstop hrest =>
          rcases close_cases p name span with ⟨inner, opening, outer, hopen, hclose⟩ | hclose
          · -- what was open ends before the end command begins
            have hle : opening.stop ≤ place := h.open_le (name, opening) (by simp [hopen])
            simp only [Pending.step, hclose]
            exact forall_mem_concat hbody (Nat.le_trans hle hstart)
          · simp only [Pending.step, hclose]
            exact hbody
  | verbatim environment =>
      cases he with
      | cons hopening hlt hrest =>
          cases hrest with
          | cons hclosing hstop hrest => exact forall_mem_concat hbody hclosing
  | _ => exact hbody

theorem Bodied.foldl (hbody : p.Bodied) (h : p.Nested place) {events : List Event}
    (hevents : Ordered place place' (events.flatMap Event.delimiters)) :
    (events.foldl Pending.step p).Bodied := by
  induction events generalizing p place with
  | nil => exact hbody
  | cons e events ih =>
      rw [List.flatMap_cons] at hevents
      obtain ⟨mid, he, hrest⟩ := hevents.exists_of_append
      exact ih (hbody.step h he) (h.step he) hrest

end Pending

/-! ## What the scan meets -/

/-- The scan comes from one place to the other. -/
inductive Visits : Cursor → Cursor → Prop where
  | here (k : Cursor) : Visits k k
  | next {offset : Nat} {c : Char} {cs : List Char} {k : Cursor} :
      Visits (Reading.at offset c cs).next k → Visits ⟨offset, c :: cs⟩ k

theorem Visits.exists_append {k k' : Cursor} (h : Visits k k') :
    ∃ before, scan k = before ++ scan k' := by
  induction h with
  | here k => exact ⟨[], rfl⟩
  | next _ ih =>
      obtain ⟨before, hbefore⟩ := ih
      rw [scan_cons, hbefore]
      exact ⟨_ ++ before, (List.append_assoc _ _ _).symm⟩

/-- The scan comes to a command of this name with a group behind it that holds a name.  The span
runs from the backslash to the end of the group. -/
def Meets (k : Cursor) (command : String) (span : Span) : Prop :=
  ∃ start cs rest g name, Visits k ⟨start, '\\' :: cs⟩ ∧
    commandName cs = (command.toList, rest) ∧
    Group.named? ⟨start + 1 + utf8Length command.toList, rest⟩ = some (g, name) ∧
    span = ⟨start, g.next.offset⟩

/-- What is read at a command leaves the events of its arguments. -/
theorem Meets.exists_arguments {k : Cursor} {command : String} {span : Span} {c : Char}
    {cs : List Char} (hcommand : command.toList = c :: cs) (hletter : isLetter c = true)
    (h : Meets k command span) : ∃ before after k' g name, Group.named? k' = some (g, name) ∧
      span = ⟨span.start, g.next.offset⟩ ∧
      scan k = before ++ ((Reading.arguments span.start command k').events ++ after) := by
  obtain ⟨start, text, rest, g, name, hvisits, hname, hnamed, rfl⟩ := h
  obtain ⟨before, hbefore⟩ := hvisits.exists_append
  have htext : text = c :: (cs ++ rest) := by
    have := commandName_append text
    rw [hname, hcommand] at this
    exact this.symm
  have hread := @readCommand_letters start ⟨start + 1, text⟩ _ _ _ _ htext hletter hname
  rw [String.ofList_toList] at hread
  refine ⟨before ++ [.command (Command.bare command)],
    scan (Reading.arguments start command ⟨start + 1 + utf8Length command.toList, rest⟩).next,
    _, g, name, hnamed, rfl, ?_⟩
  have hat : Reading.at start '\\' text = readCommand start ⟨start + 1, text⟩ := rfl
  rw [hbefore, scan_cons, List.append_assoc, hat, hread]
  rfl

example : Meets ⟨0, "\\begin{a}".toList⟩ "begin" ⟨0, 9⟩ :=
  ⟨0, _, _, _, _, .here _, rfl, rfl, rfl⟩

theorem Meets.begun {k : Cursor} {span : Span} (h : Meets k "begin" span) :
    span ∈ (scan k).filterMap Event.begun? := by
  have hbegin : "begin".toList = 'b' :: "egin".toList := rfl
  obtain ⟨before, after, k', g, name, hnamed, hspan, hscan⟩ :=
    h.exists_arguments hbegin (by decide)
  obtain ⟨e, hevents, hbegins⟩ := Reading.opening_of_named span.start hnamed
  have he : e.begun? = some span := by
    rw [hspan]
    generalize (Reading.opening span.start k').next = next at hbegins
    cases hbegins <;> rfl
  have hmem : e ∈ (Reading.arguments span.start "begin" k').events := by
    show e ∈ (Reading.opening span.start k').events
    rw [hevents]
    exact List.mem_append_right _ (List.mem_singleton_self e)
  rw [hscan]
  exact List.mem_filterMap.2
    ⟨e, List.mem_append_right before (List.mem_append_left after hmem), he⟩

theorem Meets.ended {k : Cursor} {span : Span} (h : Meets k "end" span) :
    span ∈ (scan k).filterMap Event.ended? := by
  have hend : "end".toList = 'e' :: "nd".toList := rfl
  obtain ⟨before, after, k', g, name, hnamed, hspan, hscan⟩ :=
    h.exists_arguments hend (by decide)
  have hmem : .environmentClosed name.name span ∈
      (Reading.arguments span.start "end" k').events := by
    show _ ∈ (Reading.closing span.start k').events
    rw [Reading.closing_of_named hnamed, ← hspan]
    exact List.mem_append_right _ (List.mem_singleton_self _)
  rw [hscan]
  exact List.mem_filterMap.2
    ⟨_, List.mem_append_right before (List.mem_append_left after hmem), rfl⟩

/-! ## Structures -/

/-- The environments of a structure are nested, and each begin and end command of the text is used
once. -/
structure WellNested (text : List Char) (s : Structure) : Prop where
  /-- An environment lies before or inside any that is listed after it. -/
  nested : s.environments.Pairwise fun a b => a.Before b ∨ a.Inside b
  increasing : s.environments.Pairwise fun a b => a.closing.stop < b.closing.stop
  opening_eq : ∀ e ∈ s.environments, ∃ more,
    slice? text e.opening = some ("\\begin".toList ++ more)
  closing_eq : ∀ e ∈ s.environments, ∃ more,
    slice? text e.closing = some ("\\end".toList ++ more)
  begun : ∀ span, Meets ⟨0, text⟩ "begin" span →
    s.environments.countP (·.opening == span) +
      s.diagnostics.countP (Diagnostic.reports "TEX004" span) = 1
  ended : ∀ span, Meets ⟨0, text⟩ "end" span →
    s.environments.countP (·.closing == span) +
      s.diagnostics.countP (Diagnostic.reports "TEX003" span) = 1

theorem countP_diagnostics (events : List Event) (found : Diagnostic → Bool) :
    (Structure.ofEvents events).diagnostics.countP found =
      (events.foldl Pending.step .start).finish.countP found :=
  (List.mergeSort_perm _ Diagnostic.atOrBefore).countP_eq found

/-- Environments and problems are as many as the begin commands that the scan met. -/
theorem countP_begun (events : List Event) (span : Span) :
    (Structure.ofEvents events).environments.countP (·.opening == span) +
      (Structure.ofEvents events).diagnostics.countP (Diagnostic.reports "TEX004" span) =
        events.countP (·.begun? == some span) := by
  rw [countP_diagnostics]
  show (events.foldl Pending.step .start).matched.countP _ + _ = _
  rw [Pending.countP_finish, Pending.begun_foldl]
  exact Nat.zero_add _

theorem countP_ended (events : List Event) (span : Span) :
    (Structure.ofEvents events).environments.countP (·.closing == span) +
      (Structure.ofEvents events).diagnostics.countP (Diagnostic.reports "TEX003" span) =
        events.countP (·.ended? == some span) := by
  rw [countP_diagnostics]
  show (events.foldl Pending.step .start).matched.countP _ + _ = _
  rw [Pending.countP_finish_ended, Pending.ended_foldl]
  exact Nat.zero_add _

/-- An environment is written with a begin command. -/
theorem sees_opening {k : Cursor} {e : Environment}
    (he : e ∈ (Structure.ofEvents (scan k)).environments) :
    ∃ more, k.Sees e.opening ("\\begin".toList ++ more) := by
  have hpos : 0 < (Structure.ofEvents (scan k)).environments.countP (·.opening == e.opening) :=
    List.countP_pos_iff.2 ⟨e, he, beq_self_eq_true _⟩
  have hcount := countP_begun (scan k) e.opening
  obtain ⟨event, hevent, hspan⟩ := List.countP_pos_iff.1 (Nat.lt_of_lt_of_le hpos
    (Nat.le.intro hcount))
  exact (told_scan _ event hevent).sees_begun (eq_of_beq hspan)

/-- An environment is written with an end command. -/
theorem sees_closing {k : Cursor} {e : Environment}
    (he : e ∈ (Structure.ofEvents (scan k)).environments) :
    ∃ more, k.Sees e.closing ("\\end".toList ++ more) := by
  have hpos : 0 < (Structure.ofEvents (scan k)).environments.countP (·.closing == e.closing) :=
    List.countP_pos_iff.2 ⟨e, he, beq_self_eq_true _⟩
  have hcount := countP_ended (scan k) e.closing
  obtain ⟨event, hevent, hspan⟩ := List.countP_pos_iff.1 (Nat.lt_of_lt_of_le hpos
    (Nat.le.intro hcount))
  exact (told_scan _ event hevent).sees_ended (eq_of_beq hspan)

theorem opening_start_lt_stop {text : String} {e : Environment}
    (he : e ∈ (analyze text).environments) : e.opening.start < e.opening.stop := by
  obtain ⟨more, hsees⟩ := sees_opening he
  exact hsees.start_lt_stop (List.cons_ne_nil '\\' _)

theorem closing_start_lt_stop {text : String} {e : Environment}
    (he : e ∈ (analyze text).environments) : e.closing.start < e.closing.stop := by
  obtain ⟨more, hsees⟩ := sees_closing he
  exact hsees.start_lt_stop (List.cons_ne_nil '\\' _)

/-- The environments of a text do not cross each other. -/
theorem nested_analyze (text : String) :
    (analyze text).environments.Pairwise fun a b => a.Before b ∨ a.Inside b := by
  obtain ⟨last, hordered⟩ := ordered_delimiters (.ofString text)
  exact ((Pending.nested_start 0).foldl hordered).nested

/-- The end command of an environment stands behind its begin command. -/
theorem opening_stop_le_closing_start {text : String} {e : Environment}
    (he : e ∈ (analyze text).environments) : e.opening.stop ≤ e.closing.start := by
  obtain ⟨last, hordered⟩ := ordered_delimiters (.ofString text)
  have hstart : Pending.start.Bodied := fun a ha => by cases ha
  exact hstart.foldl (Pending.nested_start 0) hordered e he

/-- **The environments of a text are nested, and no begin or end command is lost or used twice.** -/
theorem wellNested_analyze (text : String) : WellNested text.toList (analyze text) := by
  obtain ⟨last, hordered⟩ := ordered_delimiters (.ofString text)
  have hnested := (Pending.nested_start 0).foldl hordered
  have hnodup : ∀ f : Event → Option Span, (∀ e, (f e).toList.Sublist e.delimiters) →
      ((scan (.ofString text)).filterMap f).Nodup :=
    fun f hf => hordered.nodup.sublist (sublist_flatMap hf _)
  refine ⟨hnested.nested, hnested.increasing, fun e he => ?_, fun e he => ?_,
    fun span hmeets => ?_, fun span hmeets => ?_⟩
  · obtain ⟨more, hsees⟩ := sees_opening he
    exact ⟨more, hsees.slice?⟩
  · obtain ⟨more, hsees⟩ := sees_closing he
    exact ⟨more, hsees.slice?⟩
  · rw [← countP_eq_one (hnodup Event.begun? fun e => List.sublist_append_left _ _) hmeets.begun]
    exact countP_begun _ span
  · rw [← countP_eq_one (hnodup Event.ended? fun e => List.sublist_append_right _ _) hmeets.ended]
    exact countP_ended _ span

/-- The environment inside is given up. -/
example :
    (analyze "\\begin{a}\\begin{b}\\end{a}").environments = [⟨"a", ⟨0, 9⟩, ⟨18, 25⟩⟩] ∧
    (analyze "\\begin{a}\\begin{b}\\end{a}").diagnostics =
      [unclosedEnvironment "b" ⟨9, 18⟩] := by
  decide +kernel

end Latex

end Manuscript

/-
# Manuscript.Proofs.Latex.Faithful -- the structure of a LaTeX text is in the text

What braces and environments leave pending comes from the events alone
(`Pending.All.foldl`), and so does every list of a structure.  As the events of a scan
are told from the text and in its order, whoever uses a structure may rely on what
`Faithful` says: spans lie in the text and on its boundaries, names are written where
their spans are, and no two keys touch (`faithful_analyze`).
-/
import Manuscript.Proofs.Latex.Told
import Manuscript.Proofs.Text.Shift
import Mathlib.Data.List.Basic
import Mathlib.Data.List.TakeDrop

namespace Manuscript.Latex

set_option autoImplicit false

open Text

/-! ## What is pending -/

/-- The spans that an event adds to what is open, matched or wrong. -/
def Event.pending : Event → List Span
  | .braceOpened offset => [⟨offset, offset + 1⟩]
  | .braceClosed offset => [⟨offset, offset + 1⟩]
  | .environmentOpened _ span => [span]
  | .environmentClosed _ span => [span]
  | .verbatim environment => [environment.opening, environment.closing]
  | .fault diagnostic => [diagnostic.span]
  | _ => []

theorem Event.Told.sees_pending {k : Cursor} {e : Event} (h : e.Told k) {s : Span}
    (hs : s ∈ e.pending) : ∃ word, k.Sees s word := by
  cases h with
  | command name => cases hs
  | key hkey => cases e <;> first | (cases hkey; done) | cases hs
  | heading => cases hs
  | definition => cases hs
  | verbatim hopening hclosing =>
      rcases List.mem_cons.1 hs with rfl | hs
      · exact ⟨_, hopening⟩
      · rw [List.mem_singleton.1 hs]
        exact ⟨_, hclosing⟩
  | braceOpened hsees | braceClosed hsees | environmentOpened hsees | environmentClosed hsees
  | missingBrace hsees | unclosed hsees =>
      rw [List.mem_singleton.1 hs]
      exact ⟨_, hsees⟩

namespace Pending

/-- Whatever is open, matched or wrong has a property. -/
structure All (P : Span → Prop) (p : Pending) : Prop where
  braces : ∀ offset ∈ p.braces, P ⟨offset, offset + 1⟩
  environments : ∀ e ∈ p.environments, P e.2
  matched : ∀ e ∈ p.matched, P e.opening ∧ P e.closing
  diagnostics : ∀ d ∈ p.diagnostics, P d.span

variable {P : Span → Prop} {p : Pending}

theorem forall_unclosed {environments : List (String × Span)} (h : ∀ e ∈ environments, P e.2) :
    ∀ d ∈ unclosed environments, P d.span := by
  intro d hd
  obtain ⟨e, he, rfl⟩ := List.mem_map.1 hd
  exact h e (List.mem_reverse.1 he)

theorem forall_mem_concat {α : Type} {Q : α → Prop} {xs : List α} {x : α} (hxs : ∀ y ∈ xs, Q y)
    (hx : Q x) : ∀ y ∈ xs ++ [x], Q y :=
  List.forall_mem_append.2 ⟨hxs, List.forall_mem_singleton.2 hx⟩

/-- An end command closes the innermost environment of its name, and gives up those inside. -/
theorem close_cases (p : Pending) (name : String) (closing : Span) :
    (∃ inner opening outer, p.environments = inner ++ (name, opening) :: outer ∧
      p.close name closing = ⟨p.braces, outer, p.matched ++ [⟨name, opening, closing⟩],
        p.diagnostics ++ unclosed inner⟩) ∨
    p.close name closing =
      { p with diagnostics := p.diagnostics ++ [unmatchedEnd name closing] } := by
  have happend := p.environments.takeWhile_append_dropWhile (p := fun e => decide (e.1 ≠ name))
  have hhead := p.environments.head?_dropWhile_not fun e => decide (e.1 ≠ name)
  unfold Pending.close
  rw [List.span_eq_takeWhile_dropWhile]
  generalize p.environments.takeWhile _ = inner at happend ⊢
  generalize p.environments.dropWhile _ = outer at happend hhead ⊢
  cases outer with
  | nil => exact .inr rfl
  | cons e outer =>
      obtain ⟨name', opening⟩ := e
      obtain rfl : name' = name := by simpa using hhead
      exact .inl ⟨inner, opening, outer, happend.symm, rfl⟩

theorem All.close (h : p.All P) (name : String) {closing : Span} (hclosing : P closing) :
    (p.close name closing).All P := by
  rcases close_cases p name closing with ⟨inner, opening, outer, hopen, hclose⟩ | hclose
  · have henvironments := h.environments
    rw [hopen] at henvironments
    rw [hclose]
    refine ⟨h.braces, fun e he => henvironments e (by simp [he]),
      forall_mem_concat h.matched ⟨henvironments (name, opening) (by simp), hclosing⟩,
      List.forall_mem_append.2 ⟨h.diagnostics, forall_unclosed fun e he => ?_⟩⟩
    exact henvironments e (List.mem_append_left _ he)
  · rw [hclose]
    exact { h with diagnostics := forall_mem_concat h.diagnostics hclosing }

theorem All.step (h : p.All P) {e : Event} (he : ∀ s ∈ e.pending, P s) : (p.step e).All P := by
  cases e with
  | braceOpened offset =>
      exact { h with braces := List.forall_mem_cons.2 ⟨he _ List.mem_cons_self, h.braces⟩ }
  | braceClosed offset =>
      obtain ⟨braces, environments, matched, diagnostics⟩ := p
      cases braces with
      | nil =>
          exact { h with diagnostics :=
            forall_mem_concat h.diagnostics (he _ List.mem_cons_self) }
      | cons o outer =>
          exact { h with braces := fun o ho => h.braces o (List.mem_cons_of_mem _ ho) }
  | environmentOpened name span =>
      exact { h with environments :=
        List.forall_mem_cons.2 ⟨he _ List.mem_cons_self, h.environments⟩ }
  | environmentClosed name span => exact h.close name (he _ List.mem_cons_self)
  | verbatim environment =>
      have hboth : P environment.opening ∧ P environment.closing :=
        ⟨he _ List.mem_cons_self, he _ (List.mem_cons_of_mem _ List.mem_cons_self)⟩
      exact { h with matched := forall_mem_concat h.matched hboth }
  | fault diagnostic =>
      exact { h with diagnostics := forall_mem_concat h.diagnostics (he _ List.mem_cons_self) }
  | _ => exact h

theorem All.foldl (h : p.All P) {events : List Event}
    (hevents : ∀ e ∈ events, ∀ s ∈ e.pending, P s) : (events.foldl Pending.step p).All P := by
  induction events generalizing p with
  | nil => exact h
  | cons e events ih =>
      exact ih (h.step (hevents e List.mem_cons_self))
        fun e' he' => hevents e' (List.mem_cons_of_mem e he')

theorem All.finish (h : p.All P) : ∀ d ∈ p.finish, P d.span := by
  have hbraces : ∀ d ∈ p.braces.reverse.map missingBrace, P d.span := by
    intro d hd
    obtain ⟨offset, hoffset, rfl⟩ := List.mem_map.1 hd
    exact h.braces offset (List.mem_reverse.1 hoffset)
  exact List.forall_mem_append.2
    ⟨List.forall_mem_append.2 ⟨h.diagnostics, hbraces⟩, forall_unclosed h.environments⟩

/-- **What is pending at the end of a text lies in it.** -/
theorem all_scan (k : Cursor) :
    ((scan k).foldl Pending.step .start).All fun s => ∃ word, k.Sees s word := by
  have hstart : start.All fun s => ∃ word, k.Sees s word := by
    constructor <;> intro _ h <;> cases h
  exact hstart.foldl fun e he _ hs => (told_scan k e he).sees_pending hs

end Pending

/-! ## Structures -/

def Include.key (file : Include) : Symbol := ⟨file.path, file.span⟩

namespace Structure

/-- The keys of a text: its labels, references, citations and included paths. -/
def keys (s : Structure) : List Symbol :=
  s.labelDefinitions ++ s.labelReferences ++ s.citations ++ s.includes.map Include.key

/-- Every span of a structure. -/
def spans (s : Structure) : List Span :=
  s.keys.map Symbol.span ++ s.commandDefinitions.map Symbol.span ++ s.sections.map Section.span ++
    s.environments.flatMap (fun e => [e.opening, e.closing]) ++ s.diagnostics.map Diagnostic.span

/-- The keys of a structure are those of its events. -/
theorem perm_keys (events : List Event) :
    (ofEvents events).keys.Perm (events.filterMap Event.key?) := by
  have hlabels := perm_filterMap_or (f := Event.label?) (g := Event.reference?)
    (fun e => by cases e <;> first | exact .inl rfl | exact .inr rfl) events
  have hcited := perm_filterMap_or (f := fun e => e.label?.or e.reference?) (g := Event.citation?)
    (fun e => by cases e <;> first | exact .inl rfl | exact .inr rfl) events
  have hkeys := perm_filterMap_or
    (f := fun e : Event => (e.label?.or e.reference?).or e.citation?)
    (g := fun e => e.inclusion?.map Include.key)
    (fun e => by cases e <;> first | exact .inl rfl | exact .inr rfl) events
  have hsame : events.filterMap (fun e => ((e.label?.or e.reference?).or e.citation?).or
      (e.inclusion?.map Include.key)) = events.filterMap Event.key? :=
    List.filterMap_congr fun e _ => by cases e <;> rfl
  rw [hsame, ← List.map_filterMap] at hkeys
  exact (((hlabels.append_right _).trans hcited).append_right _).trans hkeys

end Structure

/-- The recursion of `List.eraseDups`, which goes on with the names that differ from the first. -/
theorem eraseDups_induction {motive : List String → Prop} (nil : motive [])
    (cons : ∀ name names, motive (names.filter fun other => !other == name) →
      motive (name :: names)) (names : List String) : motive names := by
  match names with
  | [] => exact nil
  | name :: names =>
      exact cons name names
        (eraseDups_induction nil cons (names.filter fun other => !other == name))
termination_by names.length
decreasing_by
  rw [List.length_cons]
  exact Nat.lt_succ_of_le (List.length_filter_le _ names)

/-- The first uses of commands are different commands. -/
theorem nodup_eraseDups (names : List String) : names.eraseDups.Nodup := by
  induction names using eraseDups_induction with
  | nil => exact .nil
  | cons name names ih =>
      rw [List.eraseDups_cons, List.nodup_cons, List.mem_eraseDups, List.mem_filter]
      refine ⟨fun h => ?_, ih⟩
      simp at h

/-- An offset touches one of several symbols at most when they lie apart. -/
theorem length_touched_le {symbols : List Symbol}
    (h : symbols.Pairwise fun a b => a.span.stop < b.span.start ∨ b.span.stop < a.span.start)
    (offset : Nat) : (symbols.filter (·.span.touches offset)).length ≤ 1 := by
  have hall : ∀ s ∈ symbols.filter (·.span.touches offset),
      s.span.start ≤ offset ∧ offset ≤ s.span.stop := fun s hs => by
    simpa [Span.touches] using (List.mem_filter.1 hs).2
  have hapart := h.filter (·.span.touches offset)
  generalize symbols.filter _ = touched at hall hapart ⊢
  cases touched with
  | nil => exact Nat.zero_le 1
  | cons s rest =>
      cases rest with
      | nil => exact Nat.le_refl 1
      | cons t rest =>
          have hst := List.rel_of_pairwise_cons hapart List.mem_cons_self
          have hs := hall s List.mem_cons_self
          have ht := hall t (List.mem_cons_of_mem s List.mem_cons_self)
          omega

/-- What a user of a structure may rely on. -/
structure Faithful (text : List Char) (s : Structure) : Prop where
  within : ∀ span ∈ s.spans, span.Within text
  key_eq : ∀ key ∈ s.keys, slice? text key.span = some key.name.toList
  key_solid : ∀ key ∈ s.keys, Solid isBlank key.name.toList
  apart : s.keys.Pairwise fun a b => a.span.stop < b.span.start ∨ b.span.stop < a.span.start
  touched : ∀ offset, (s.keys.filter (·.span.touches offset)).length ≤ 1
  definition_eq : ∀ name ∈ s.commandDefinitions,
    slice? text name.span = some ('\\' :: name.name.toList)
  section_eq : ∀ part ∈ s.sections, ∃ rest, slice? text part.span = some ('\\' :: rest)
  labelDefinitions : s.labelDefinitions.Pairwise fun a b => a.span.start < b.span.start
  labelReferences : s.labelReferences.Pairwise fun a b => a.span.start < b.span.start
  citations : s.citations.Pairwise fun a b => a.span.start < b.span.start
  includes : s.includes.Pairwise fun a b => a.span.start < b.span.start
  commandDefinitions : s.commandDefinitions.Pairwise fun a b => a.span.start < b.span.start
  sections : s.sections.Pairwise fun a b => a.span.start < b.span.start
  commands : s.commands.Nodup
  diagnostics : s.diagnostics.Pairwise fun a b => a.span.start < b.span.start ∨
    (a.span.start = b.span.start ∧ a.span.stop ≤ b.span.stop)

/-- Everything that has a span stands in the text. -/
theorem exists_sees_of_mem_spans {k : Cursor} {span : Span}
    (h : span ∈ (Structure.ofEvents (scan k)).spans) : ∃ word, k.Sees span word := by
  have hpending := Pending.all_scan k
  simp only [Structure.spans, List.mem_append, List.mem_map, List.mem_flatMap] at h
  rcases h with (((⟨key, hkey, rfl⟩ | ⟨name, hname, rfl⟩) | ⟨part, hpart, rfl⟩) |
    ⟨e, he, hspan⟩) | ⟨d, hd, rfl⟩
  · exact ⟨_, (placed_scan k).sees ((Structure.perm_keys _).mem_iff.1 hkey)⟩
  · exact ⟨_, sees_definition hname⟩
  · obtain ⟨more, hsees⟩ := sees_heading hpart
    exact ⟨_, hsees⟩
  · obtain ⟨hopening, hclosing⟩ := hpending.matched e he
    rcases List.mem_cons.1 hspan with rfl | hspan
    · exact hopening
    · rw [List.mem_singleton.1 hspan]
      exact hclosing
  · exact hpending.finish d (List.mem_mergeSort.1 hd)

/-- Each list of keys leaves out some of the placed keys, so it is in the order of the text. -/
theorem keys_increasing (k : Cursor) (f : Event → Option Symbol)
    (hf : ∀ e s, f e = some s → e.key? = some s) :
    ((scan k).filterMap f).Pairwise fun a b => a.span.start < b.span.start :=
  ((placed_scan k).sublist (sublist_filterMap hf _)).increasing fun _ h => h.nonempty

/-- **The structure of a text is faithful to it.** -/
theorem faithful_analyze (text : String) : Faithful text.toList (analyze text) := by
  have hperm := Structure.perm_keys (scan (.ofString text))
  have hplaced : Placed (Solid isBlank) 0 text.toList
      ((scan (.ofString text)).filterMap Event.key?) := placed_scan (.ofString text)
  have hkeys : (analyze text).keys.Pairwise fun a b =>
      a.span.stop < b.span.start ∨ b.span.stop < a.span.start :=
    (hperm.pairwise_iff fun h => h.symm).2 (hplaced.pairwise.imp .inl)
  have hincreasing := keys_increasing (.ofString text)
  refine {
    within := fun span hspan => ?_
    key_eq := fun key hkey => hplaced.slice? (hperm.mem_iff.1 hkey)
    key_solid := fun key hkey => ?_
    apart := hkeys
    touched := length_touched_le hkeys
    definition_eq := fun name hname => (sees_definition hname).slice?
    section_eq := fun part hpart => ?_
    labelDefinitions := hincreasing Event.label? fun e s hs => by cases e <;> cases hs; rfl
    labelReferences := hincreasing Event.reference? fun e s hs => by cases e <;> cases hs; rfl
    citations := hincreasing Event.citation? fun e s hs => by cases e <;> cases hs; rfl
    includes := ?_
    commandDefinitions := definitions_increasing (.ofString text)
    sections := headings_increasing (.ofString text)
    commands := nodup_eraseDups _
    diagnostics := (Diagnostic.pairwise_sorted _).imp fun h => by
      simpa [Diagnostic.atOrBefore] using h }
  · obtain ⟨word, hsees⟩ := exists_sees_of_mem_spans hspan
    exact hsees.within
  · obtain ⟨before, sep, name, rest, -, -, hname, rfl⟩ :=
      hplaced.exists_of_mem (hperm.mem_iff.1 hkey)
    rw [Symbol.ofText, String.toList_ofList]
    exact hname
  · obtain ⟨more, hsees⟩ := sees_heading hpart
    exact ⟨more, hsees.slice?⟩
  · have h := hincreasing (fun e => e.inclusion?.map Include.key)
      fun e s hs => by cases e <;> cases hs; rfl
    rw [← List.map_filterMap, List.pairwise_map] at h
    exact h

end Manuscript.Latex

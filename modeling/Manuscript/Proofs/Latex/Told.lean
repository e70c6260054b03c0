/-
# Manuscript.Proofs.Latex.Told -- what a scan says is in the text

Each event says something about the text behind the place where it was met: a brace, a
name, a command with its arguments (`Event.Told`).  Reading on does not change what is
there (`Told.of_reaches`), so a whole scan tells what is in the text (`told_scan`).

The order of a scan is the order of the text.  For keys this is their placement.  A
heading starts where it is met, so headings come in order.  A definition lies ahead of
the place where it is met; the scan may go on in front of the braces around it, but it
meets nothing there but blanks (`scan_definition`), so definitions come in order too.
-/
import Manuscript.Proofs.Latex.Reading

namespace Manuscript.Latex

set_option autoImplicit false

open Text

/-! ## Headings and definitions -/

namespace Reading

/-- A heading ends at a place that is reached from the end of its command. -/
theorem heading_cases (start level : Nat) (k : Cursor) :
    (heading start level k).events = [] ∨ ∃ part k', k.Reaches k' ∧
      part.span = ⟨start, k'.offset⟩ ∧ (heading start level k).events = [.heading part] := by
  have hhere := (reaches_skipOptions k).trans (reaches_skipLayout (skipOptions k))
  simp only [heading]
  split
  · rename_i body hbody
    right
    have hinside := hhere.trans
      (show Cursor.Reaches _ ⟨(skipLayout (skipOptions k)).offset + 1, body⟩ from
        ⟨['{'], hbody, rfl⟩)
    cases hclosing : untilClosing? 0 .plain body with
    | some found =>
        obtain ⟨title, rest⟩ := found
        obtain ⟨after, rfl⟩ := Group.untilClosing?_rest hclosing
        refine ⟨_, ⟨_, after⟩, hinside.trans ⟨title ++ ['}'], ?_, ?_⟩, rfl, rfl⟩
        · simp [← Group.untilClosing?_append hclosing]
        · rw [utf8Length_append]
          exact Nat.add_assoc _ _ 1
    | none =>
        have hline := Cursor.split_append (startsWith (· == '\n')) body
        exact ⟨_, ⟨_, _⟩, hinside.trans ⟨_, hline.symm, rfl⟩, rfl, rfl⟩
  · exact .inl rfl

/-- A name that is defined stands behind its backslash. -/
theorem definedName?_eq_some {k k' : Cursor} {name : Symbol}
    (h : definedName? k = some (name, k')) : ∃ rest,
      k.rest = '\\' :: (name.name.toList ++ rest) ∧ name.span = ⟨k.offset, k'.offset⟩ ∧
      k' = ⟨k.offset + 1 + utf8Length name.name.toList, rest⟩ := by
  unfold definedName? at h
  split at h
  · rename_i cs hcs
    split at h
    · cases h
    · rename_i letters rest _ hsplit
      have happend := Cursor.split_append (startsWith (!isLetter ·)) cs
      rw [hsplit] at happend
      simp only [Option.some.injEq, Prod.mk.injEq] at h
      obtain ⟨rfl, rfl⟩ := h
      refine ⟨rest, ?_, rfl, ?_⟩
      · rw [hcs, ← happend, String.toList_ofList]
      · rw [String.toList_ofList, Cursor.after, utf8Length_cons,
          show Char.utf8Size '\\' = 1 from rfl, Nat.add_assoc]
  · cases h

/-- Text without commands, comments and braces leaves no event. -/
theorem scan_quiet {read : List Char} (h : ∀ c ∈ read, c ∉ ['\\', '%', '{', '}']) (o : Nat)
    (rest : List Char) : scan ⟨o, read ++ rest⟩ = scan ⟨o + utf8Length read, rest⟩ := by
  induction read generalizing o with
  | nil => rfl
  | cons c read ih =>
      rw [List.cons_append, scan_other (h c List.mem_cons_self),
        ih (fun d hd => h d (List.mem_cons_of_mem c hd)), utf8Length_cons, Nat.add_assoc]

theorem quiet_of_isAsciiBlank {c : Char} (h : isAsciiBlank c = true) :
    c ∉ ['\\', '%', '{', '}'] := by
  simp only [isAsciiBlank, Bool.or_eq_true, beq_iff_eq] at h
  rcases h with (((rfl | rfl) | rfl) | rfl) | rfl <;> decide

/-- The scan goes over blanks and comments; inside a comment it goes to the end of the line. -/
theorem scan_afterLayout (cs : List Char) (o : Nat) :
    scan ⟨o + utf8Length (afterLayout false cs).1, (afterLayout false cs).2⟩ = scan ⟨o, cs⟩ ∧
    scan ⟨o + utf8Length (afterLayout true cs).1, (afterLayout true cs).2⟩ =
      scan (Cursor.upTo (startsWith (· == '\n')) ⟨o, cs⟩).2 := by
  induction cs generalizing o with
  | nil => exact ⟨rfl, rfl⟩
  | cons c cs ih =>
      obtain ⟨hplain, hcomment⟩ := ih (o + c.utf8Size)
      constructor
      · by_cases hlayout : isLayout c = true
        · have hquiet := quiet_of_isAsciiBlank (isAsciiBlank_of_isLayout hlayout)
          rw [scan_other hquiet, ← hplain]
          simp [afterLayout, hlayout, Nat.add_assoc]
        by_cases hpercent : c = '%'
        · subst hpercent
          have hno : isLayout '%' = false := by decide
          rw [scan_cons]
          simp only [Reading.at, token, nothing]
          simpa [afterLayout, hno, Nat.add_assoc] using hcomment
        · simp [afterLayout, hlayout, hpercent]
      · by_cases hline : c = '\n'
        · subst hline
          have hquiet := quiet_of_isAsciiBlank (show isAsciiBlank '\n' = true from rfl)
          simp only [Cursor.upTo, Cursor.split, startsWith, beq_self_eq_true, if_true, Cursor.after,
            utf8Length_nil, Nat.add_zero]
          rw [scan_other hquiet, ← hplain]
          simp [afterLayout, Nat.add_assoc]
        · have hsplit : (Cursor.upTo (startsWith (· == '\n')) ⟨o, c :: cs⟩).2 =
              (Cursor.upTo (startsWith (· == '\n')) ⟨o + c.utf8Size, cs⟩).2 := by
            simp [Cursor.upTo, Cursor.split, startsWith, hline, Cursor.after, Nat.add_assoc]
          have hbreak : (c != '\n') = true := bne_iff_ne.2 hline
          rw [hsplit, ← hcomment]
          simp [afterLayout, hbreak, Nat.add_assoc]

theorem scan_skipLayout (k : Cursor) : scan (skipLayout k) = scan k :=
  (scan_afterLayout k.rest k.offset).1

/-- A definition in braces is read over up to the name that it defines. -/
theorem scan_definition {k : Cursor} {body : List Char} (h : (skipLayout k).rest = '{' :: body) :
    scan k = .braceOpened (skipLayout k).offset ::
      scan ((skipLayout k).bump.upTo (startsWith (!isAsciiBlank ·))).2 := by
  have hbump : (skipLayout k).bump = ⟨(skipLayout k).offset + 1, body⟩ := by
    rw [Cursor.bump, h]
    rfl
  have hquiet := scan_quiet (fun c hc => quiet_of_isAsciiBlank (by
    simpa using Cursor.forall_mem_split (!isAsciiBlank ·) body c hc))
    ((skipLayout k).offset + 1) (Cursor.split (startsWith (!isAsciiBlank ·)) body).2
  rw [Cursor.split_append] at hquiet
  rw [← scan_skipLayout, hbump]
  show scan ⟨(skipLayout k).offset, (skipLayout k).rest⟩ = _
  rw [h, scan_cons]
  show .braceOpened _ :: scan ⟨(skipLayout k).offset + 1, body⟩ = _
  rw [hquiet]
  rfl

/-- A definition lies ahead.  The scan goes on behind the name, or in front of the braces around
it. -/
theorem definition_cases (k : Cursor) :
    (definition k).events = [] ∨ ∃ name k' rest, (definition k).events = [.definition name] ∧
      k.Reaches k' ∧ k'.rest = '\\' :: (name.name.toList ++ rest) ∧
      name.span = ⟨k'.offset, k'.offset + 1 + utf8Length name.name.toList⟩ ∧
      ((definition k).next = ⟨name.span.stop, rest⟩ ∨
        ∃ brace, (definition k).next = k ∧ scan k = .braceOpened brace :: scan k') := by
  by_cases hbrace : ∃ body, (skipLayout k).rest = '{' :: body
  · obtain ⟨body, hbody⟩ := hbrace
    have hreach : k.Reaches ((skipLayout k).bump.upTo (startsWith (!isAsciiBlank ·))).2 := by
      refine ((reaches_skipLayout k).trans ⟨['{'], ?_, ?_⟩).trans (Cursor.reaches_upTo _ _)
      · simp [Cursor.bump, hbody]
      · simp [Cursor.bump, hbody]
    rw [definition_brace hbody]
    cases hname : definedName? ((skipLayout k).bump.upTo (startsWith (!isAsciiBlank ·))).2 with
    | none => exact .inl rfl
    | some found =>
        obtain ⟨name, after⟩ := found
        obtain ⟨rest, hrest, hspan, rfl⟩ := definedName?_eq_some hname
        exact .inr ⟨name, _, rest, rfl, hreach, hrest, hspan,
          .inr ⟨_, rfl, scan_definition hbody⟩⟩
  · rw [definition_plain fun body hbody => hbrace ⟨body, hbody⟩]
    cases hname : definedName? (skipLayout k) with
    | none => exact .inl rfl
    | some found =>
        obtain ⟨name, after⟩ := found
        obtain ⟨rest, hrest, hspan, rfl⟩ := definedName?_eq_some hname
        exact .inr ⟨name, _, rest, rfl, reaches_skipLayout k, hrest, hspan,
          .inl (by rw [hspan])⟩

end Reading

/-! ## What events say -/

namespace Event

/-- What the event says about the text behind the cursor is there. -/
inductive Told (k : Cursor) : Event → Prop where
  | command (name : String) : Told k (.command name)
  | braceOpened {offset : Nat} : k.Sees ⟨offset, offset + 1⟩ ['{'] → Told k (.braceOpened offset)
  | braceClosed {offset : Nat} : k.Sees ⟨offset, offset + 1⟩ ['}'] → Told k (.braceClosed offset)
  | key {e : Event} {s : Symbol} : e.key? = some s → k.Sees s.span s.name.toList → Told k e
  | heading {part : Section} {more : List Char} :
      k.Sees part.span ('\\' :: more) → Told k (.heading part)
  | definition {name : Symbol} :
      k.Sees name.span ('\\' :: name.name.toList) → Told k (.definition name)
  | environmentOpened {name : String} {span : Span} {more : List Char} :
      k.Sees span ("\\begin".toList ++ more) → Told k (.environmentOpened name span)
  | environmentClosed {name : String} {span : Span} {more : List Char} :
      k.Sees span ("\\end".toList ++ more) → Told k (.environmentClosed name span)
  | verbatim {environment : Environment} {more more' : List Char} :
      k.Sees environment.opening ("\\begin".toList ++ more) →
      k.Sees environment.closing ("\\end".toList ++ more') → Told k (.verbatim environment)
  | missingBrace {brace : Nat} :
      k.Sees ⟨brace, brace + 1⟩ ['{'] → Told k (.fault (missingBrace brace))
  | unclosed {name : String} {span : Span} {more : List Char} :
      k.Sees span ("\\begin".toList ++ more) → Told k (.fault (unclosedEnvironment name span))

variable {k k' : Cursor} {e : Event}

theorem Told.of_reaches (h : k.Reaches k') (he : Told k' e) : Told k e := by
  cases he with
  | command name => exact .command name
  | braceOpened hs => exact .braceOpened (hs.of_reaches h)
  | braceClosed hs => exact .braceClosed (hs.of_reaches h)
  | key hkey hs => exact .key hkey (hs.of_reaches h)
  | heading hs => exact .heading (hs.of_reaches h)
  | definition hs => exact .definition (hs.of_reaches h)
  | environmentOpened hs => exact .environmentOpened (hs.of_reaches h)
  | environmentClosed hs => exact .environmentClosed (hs.of_reaches h)
  | verbatim hopening hclosing =>
      exact .verbatim (hopening.of_reaches h) (hclosing.of_reaches h)
  | missingBrace hs => exact .missingBrace (hs.of_reaches h)
  | unclosed hs => exact .unclosed (hs.of_reaches h)

end Event

namespace Reading

/-- The command of a name stands between the two cursors. -/
structure Called (name : List Char) (here k : Cursor) : Prop where
  rest_eq : here.rest = '\\' :: (name ++ k.rest)
  offset_eq : k.offset = here.offset + 1 + utf8Length name

variable {name : List Char} {here k : Cursor}

theorem Called.reaches (h : Called name here k) : here.Reaches k :=
  ⟨'\\' :: name, h.rest_eq, by
    rw [h.offset_eq, utf8Length_cons, show Char.utf8Size '\\' = 1 from rfl, Nat.add_assoc]⟩

/-- A span from the backslash to a later place begins with the name of the command. -/
theorem Called.exists_sees (h : Called name here k) {k' : Cursor} (hk : k.Reaches k') :
    ∃ more, here.Sees ⟨here.offset, k'.offset⟩ ('\\' :: name ++ more) := by
  have hbehind : Cursor.Reaches ⟨here.offset + utf8Length ('\\' :: name), k.rest⟩ k' := by
    rw [utf8Length_cons, show Char.utf8Size '\\' = 1 from rfl, ← Nat.add_assoc, ← h.offset_eq]
    exact hk
  obtain ⟨more, -, hsees⟩ := Cursor.exists_sees_through h.rest_eq hbehind
  exact ⟨more, hsees⟩

theorem told_faults {g : Group} (hg : Group.read? k = some g) : ∀ e ∈ g.faults, e.Told k := by
  unfold Group.faults
  split
  · exact List.forall_mem_nil _
  · exact List.forall_mem_singleton.2 (.missingBrace (Group.sees_brace hg))

/-- The events of key groups, whose keys are placed. -/
theorem told_of_plain {r : Reading} (hr : r.Holds k) (h : ∀ e ∈ r.events, e.Plain k) :
    ∀ e ∈ r.events, e.Told k := by
  intro e he
  cases h e he with
  | key hkey =>
      obtain ⟨read, hrest, -, hplaced⟩ := hr
      obtain ⟨before, after, hread, hstart, hstop⟩ :=
        hplaced.sees (List.mem_filterMap.2 ⟨e, he, hkey⟩)
      refine .key hkey ⟨before, after ++ r.next.rest, ?_, hstart, hstop⟩
      rw [hrest, show read = before ++ _ from hread]
      simp
  | missing hs => exact .missingBrace hs

theorem told_opening (h : Called "begin".toList here k) :
    ∀ e ∈ (opening here.offset k).events, e.Told here := by
  cases hnamed : Group.named? k with
  | none =>
      intro e he
      exact (told_of_plain (holds_opening _ k) (plain_opening hnamed) e he).of_reaches h.reaches
  | some found =>
      obtain ⟨g, symbol⟩ := found
      have hnext := Group.reaches_named? hnamed
      obtain ⟨more, hopening⟩ := h.exists_sees hnext
      obtain ⟨e, hevents, hbegins⟩ := opening_of_named here.offset hnamed
      have hfaults := told_faults (Group.named?_eq_some.1 hnamed).1
      rw [hevents]
      intro e' he'
      rcases List.mem_append.1 he' with he' | he'
      · exact (hfaults e' he').of_reaches h.reaches
      rw [List.mem_singleton.1 he']
      generalize (opening here.offset k).next = next at hbegins
      cases hbegins with
      | opened => exact .environmentOpened hopening
      | unclosed _ => exact .unclosed hopening
      | @verbatim body rest hbody =>
          have hclosing : g.next.Sees ⟨g.next.offset + utf8Length body, g.next.offset +
              utf8Length body + utf8Length (terminator symbol.name)⟩
                ("\\end".toList ++ '{' :: (symbol.name.toList ++ ['}'])) :=
            ⟨body, rest, hbody, rfl, rfl⟩
          exact .verbatim hopening
            (hclosing.of_reaches (h.reaches.trans hnext))

theorem told_closing (h : Called "end".toList here k) :
    ∀ e ∈ (closing here.offset k).events, e.Told here := by
  cases hnamed : Group.named? k with
  | none =>
      intro e he
      exact (told_of_plain (holds_closing _ k) (plain_closing hnamed) e he).of_reaches h.reaches
  | some found =>
      obtain ⟨g, symbol⟩ := found
      obtain ⟨more, hclosing⟩ := h.exists_sees (Group.reaches_named? hnamed)
      rw [closing_of_named hnamed]
      intro e he
      rcases List.mem_append.1 he with he | he
      · exact (told_faults (Group.named?_eq_some.1 hnamed).1 e he).of_reaches h.reaches
      · rw [List.mem_singleton.1 he]
        exact .environmentClosed hclosing

theorem told_heading (h : Called name here k) (level : Nat) :
    ∀ e ∈ (heading here.offset level k).events, e.Told here := by
  rcases heading_cases here.offset level k with hevents | ⟨part, k', hk', hspan, hevents⟩
  · rw [hevents]
    exact List.forall_mem_nil _
  · obtain ⟨more, hsees⟩ := h.exists_sees hk'
    rw [List.cons_append, ← hspan] at hsees
    rw [hevents]
    exact List.forall_mem_singleton.2 (.heading hsees)

theorem told_definition (k : Cursor) : ∀ e ∈ (definition k).events, e.Told k := by
  rcases definition_cases k with hevents | ⟨symbol, k', rest, hevents, hk', hrest, hspan, -⟩
  · rw [hevents]
    exact List.forall_mem_nil _
  · rw [hevents]
    intro e he
    rw [List.mem_singleton.1 he]
    refine .definition (Cursor.Sees.of_reaches hk' ⟨[], rest, hrest, by rw [hspan]; rfl, ?_⟩)
    rw [hspan, utf8Length_cons, show Char.utf8Size '\\' = 1 from rfl, ← Nat.add_assoc]

/-- What a command gives is told from its backslash on. -/
theorem told_arguments (h : Called name here k) :
    ∀ e ∈ (arguments here.offset (String.ofList name) k).events, e.Told here := by
  rcases arguments_cases here.offset (String.ofList name) k with ⟨hbegin, hread⟩ | ⟨hend, hread⟩ |
    ⟨level, hread⟩ | hread | hplain
  · obtain rfl : name = "begin".toList := by rw [← hbegin, String.toList_ofList]
    rw [hread]
    exact told_opening h
  · obtain rfl : name = "end".toList := by rw [← hend, String.toList_ofList]
    rw [hread]
    exact told_closing h
  · rw [hread]
    exact told_heading h level
  · rw [hread]
    exact fun e he => (told_definition k e he).of_reaches h.reaches
  · exact fun e he => (told_of_plain (holds_arguments _ _ k) hplain e he).of_reaches h.reaches

theorem called_of_commandName {offset : Nat} {cs name rest : List Char}
    (h : commandName cs = (name, rest)) :
    Called name ⟨offset, '\\' :: cs⟩ ⟨offset + 1 + utf8Length name, rest⟩ := by
  have happend := commandName_append cs
  rw [h] at happend
  exact ⟨by rw [← happend], rfl⟩

/-- **What is met at a place says what is there.** -/
theorem told_at (offset : Nat) (c : Char) (cs : List Char) :
    ∀ e ∈ (Reading.at offset c cs).events, e.Told ⟨offset, c :: cs⟩ := by
  rcases at_cases offset c cs with ⟨rfl, name, rest, hname, -, hread⟩ | ⟨rfl, hread⟩ |
    ⟨rfl, hread⟩ | hevents
  · rw [hread]
    intro e he
    rcases List.mem_cons.1 he with rfl | he
    · exact .command _
    · exact told_arguments (called_of_commandName hname) e he
  · rw [hread]
    exact List.forall_mem_singleton.2 (.braceOpened ⟨[], cs, rfl, rfl, rfl⟩)
  · rw [hread]
    exact List.forall_mem_singleton.2 (.braceClosed ⟨[], cs, rfl, rfl, rfl⟩)
  · rw [hevents]
    exact List.forall_mem_nil _

theorem reaches_at (offset : Nat) (c : Char) (cs : List Char) :
    Cursor.Reaches ⟨offset, c :: cs⟩ (Reading.at offset c cs).next :=
  Cursor.Reaches.trans ⟨[c], rfl, by simp⟩ (from_token offset c _)

end Reading

/-- **What a scan says is in the text.** -/
theorem told_scan (k : Cursor) : ∀ e ∈ scan k, e.Told k := by
  induction k using scan_induction with
  | nil offset =>
      rw [scan_nil]
      exact List.forall_mem_nil _
  | cons offset c cs ih =>
      rw [scan_cons]
      intro e he
      rcases List.mem_append.1 he with he | he
      · exact Reading.told_at offset c cs e he
      · exact (ih e he).of_reaches (Reading.reaches_at offset c cs)

/-! ## The order of headings and definitions -/

namespace Reading

/-- What neither plain events nor those of a begin command have, a begin command leaves none of. -/
theorem filterMap_opening {α : Type} {f : Event → Option α} (start : Nat) (k : Cursor)
    (hplain : ∀ {k : Cursor} {events : List Event}, (∀ e ∈ events, e.Plain k) →
      events.filterMap f = [])
    (hbegins : ∀ {name : String} {span : Span} {k : Cursor} {e : Event} {k' : Cursor},
      Begins name span k e k' → f e = none) :
    (opening start k).events.filterMap f = [] := by
  cases hnamed : Group.named? k with
  | none => exact hplain (plain_opening hnamed)
  | some found =>
      obtain ⟨e, hevents, he⟩ := opening_of_named start hnamed
      rw [hevents, List.filterMap_append,
        hplain (Group.plain_faults (Group.named?_eq_some.1 hnamed).1)]
      simp [hbegins he]

theorem filterMap_closing {α : Type} {f : Event → Option α} (start : Nat) (k : Cursor)
    (hplain : ∀ {k : Cursor} {events : List Event}, (∀ e ∈ events, e.Plain k) →
      events.filterMap f = [])
    (hclosed : ∀ name span, f (.environmentClosed name span) = none) :
    (closing start k).events.filterMap f = [] := by
  cases hnamed : Group.named? k with
  | none => exact hplain (plain_closing hnamed)
  | some found =>
      rw [closing_of_named hnamed, List.filterMap_append,
        hplain (Group.plain_faults (Group.named?_eq_some.1 hnamed).1)]
      simp [hclosed]

theorem heading?_plain {k : Cursor} {events : List Event} (h : ∀ e ∈ events, e.Plain k) :
    events.filterMap Event.heading? = [] :=
  Event.filterMap_plain h (fun e s hs => by cases e <;> first | rfl | cases hs) fun _ => rfl

theorem definition?_plain {k : Cursor} {events : List Event} (h : ∀ e ∈ events, e.Plain k) :
    events.filterMap Event.definition? = [] :=
  Event.filterMap_plain h (fun e s hs => by cases e <;> first | rfl | cases hs) fun _ => rfl

/-- A heading starts where it is met. -/
theorem heading?_at (offset : Nat) (c : Char) (cs : List Char) :
    (Reading.at offset c cs).events.filterMap Event.heading? = [] ∨
    ∃ part, (Reading.at offset c cs).events.filterMap Event.heading? = [part] ∧
      part.span.start = offset := by
  rcases at_cases offset c cs with ⟨-, name, rest, -, -, hread⟩ | ⟨-, hread⟩ | ⟨-, hread⟩ | hevents
  · rw [hread, List.filterMap_cons_none rfl]
    generalize (⟨offset + 1 + utf8Length name, rest⟩ : Cursor) = k
    rcases arguments_cases offset (String.ofList name) k with ⟨-, h⟩ | ⟨-, h⟩ | ⟨level, h⟩ | h | h
    · rw [h]
      exact .inl (filterMap_opening _ _ heading?_plain fun h => by cases h <;> rfl)
    · rw [h]
      exact .inl (filterMap_closing _ _ heading?_plain fun _ _ => rfl)
    · rw [h]
      rcases heading_cases offset level k with hevents | ⟨part, k', -, hspan, hevents⟩
      · exact .inl (by rw [hevents]; rfl)
      · exact .inr ⟨part, by rw [hevents]; rfl, by rw [hspan]⟩
    · rw [h]
      rcases definition_cases k with hevents | ⟨_, _, _, hevents, -⟩ <;>
        exact .inl (by rw [hevents]; rfl)
    · exact .inl (heading?_plain h)
  · exact .inl (by rw [hread]; rfl)
  · exact .inl (by rw [hread]; rfl)
  · exact .inl (by rw [hevents]; rfl)

/-- A definition lies behind the place where it is met.  What the scan meets later lies behind
the definition's backslash. -/
theorem definition?_at (offset : Nat) (c : Char) (cs : List Char) :
    (Reading.at offset c cs).events.filterMap Event.definition? = [] ∨
    ∃ name k', (Reading.at offset c cs).events.filterMap Event.definition? = [name] ∧
      offset < name.span.start ∧ name.span.start ≤ k'.offset ∧
      (scan (Reading.at offset c cs).next).filterMap Event.definition? =
        (scan k').filterMap Event.definition? := by
  rcases at_cases offset c cs with ⟨-, name, rest, -, -, hread⟩ | ⟨-, hread⟩ | ⟨-, hread⟩ | hevents
  · rw [hread, List.filterMap_cons_none rfl]
    have hbehind : offset < (⟨offset + 1 + utf8Length name, rest⟩ : Cursor).offset := by
      show offset < offset + 1 + utf8Length name
      omega
    generalize (⟨offset + 1 + utf8Length name, rest⟩ : Cursor) = k at hbehind ⊢
    rcases arguments_cases offset (String.ofList name) k with ⟨-, h⟩ | ⟨-, h⟩ | ⟨level, h⟩ | h | h
    · rw [h]
      exact .inl (filterMap_opening _ _ definition?_plain fun h => by cases h <;> rfl)
    · rw [h]
      exact .inl (filterMap_closing _ _ definition?_plain fun _ _ => rfl)
    · rw [h]
      rcases heading_cases offset level k with hevents | ⟨part, k', -, -, hevents⟩ <;>
        exact .inl (by rw [hevents]; rfl)
    · rw [h]
      rcases definition_cases k with hevents | ⟨s, k', rest, hevents, hk', -, hspan, hnext⟩
      · exact .inl (by rw [hevents]; rfl)
      · have hstart : s.span.start = k'.offset := by rw [hspan]
        have hle := hk'.offset_le
        rcases hnext with hnext | ⟨brace, hnext, hscan⟩
        · refine .inr ⟨s, (definition k).next, by rw [hevents]; rfl, by omega, ?_, rfl⟩
          have hstop : s.span.stop = k'.offset + 1 + utf8Length s.name.toList := by rw [hspan]
          rw [hnext]
          show s.span.start ≤ s.span.stop
          omega
        · refine .inr ⟨s, k', by rw [hevents]; rfl, by omega, by omega, ?_⟩
          simp only [hnext, hscan]
          rfl
    · exact .inl (definition?_plain h)
  · exact .inl (by rw [hread]; rfl)
  · exact .inl (by rw [hread]; rfl)
  · exact .inl (by rw [hevents]; rfl)

theorem offset_lt_at (offset : Nat) (c : Char) (cs : List Char) :
    offset < (Reading.at offset c cs).next.offset := by
  have hle := (from_token offset c ⟨offset + c.utf8Size, cs⟩).offset_le
  have hpos := c.utf8Size_pos
  exact Nat.lt_of_lt_of_le (show offset < offset + c.utf8Size by omega) hle

end Reading

theorem sees_heading {k : Cursor} {part : Section}
    (h : part ∈ (scan k).filterMap Event.heading?) :
    ∃ more, k.Sees part.span ('\\' :: more) := by
  obtain ⟨e, he, hpart⟩ := List.mem_filterMap.1 h
  cases e <;> cases hpart
  cases told_scan k _ he with
  | key hkey => cases hkey
  | heading hs => exact ⟨_, hs⟩

theorem sees_definition {k : Cursor} {name : Symbol}
    (h : name ∈ (scan k).filterMap Event.definition?) :
    k.Sees name.span ('\\' :: name.name.toList) := by
  obtain ⟨e, he, hname⟩ := List.mem_filterMap.1 h
  cases e <;> cases hname
  cases told_scan k _ he with
  | key hkey => cases hkey
  | definition hs => exact hs

/-- **Headings come in the order of the text.** -/
theorem headings_increasing (k : Cursor) :
    ((scan k).filterMap Event.heading?).Pairwise fun a b => a.span.start < b.span.start := by
  induction k using scan_induction with
  | nil offset =>
      rw [scan_nil]
      exact .nil
  | cons offset c cs ih =>
      rw [scan_cons, List.filterMap_append]
      rcases Reading.heading?_at offset c cs with hnone | ⟨part, hpart, hstart⟩
      · rw [hnone]
        exact ih
      · rw [hpart]
        refine .cons (fun other hother => ?_) ih
        have hlt := Reading.offset_lt_at offset c cs
        obtain ⟨more, hsees⟩ := sees_heading hother
        have hle := hsees.offset_le
        omega

theorem lt_of_mem_definitions {k : Cursor} {name : Symbol}
    (h : name ∈ (scan k).filterMap Event.definition?) : k.offset < name.span.start := by
  induction k using scan_induction with
  | nil offset =>
      rw [scan_nil] at h
      cases h
  | cons offset c cs ih =>
      rw [scan_cons, List.filterMap_append] at h
      rcases List.mem_append.1 h with h | h
      · rcases Reading.definition?_at offset c cs with hnone | ⟨s, k', hs, hlt, -⟩
        · rw [hnone] at h
          cases h
        · rw [hs] at h
          rw [List.mem_singleton.1 h]
          exact hlt
      · exact Nat.lt_trans (Reading.offset_lt_at offset c cs) (ih h)

/-- **Definitions come in the order of the text.** -/
theorem definitions_increasing (k : Cursor) :
    ((scan k).filterMap Event.definition?).Pairwise fun a b => a.span.start < b.span.start := by
  induction k using scan_induction with
  | nil offset =>
      rw [scan_nil]
      exact .nil
  | cons offset c cs ih =>
      rw [scan_cons, List.filterMap_append]
      rcases Reading.definition?_at offset c cs with hnone | ⟨s, k', hs, -, hle, hscan⟩
      · rw [hnone]
        exact ih
      · rw [hs]
        refine .cons (fun other hother => ?_) ih
        rw [hscan] at hother
        exact Nat.lt_of_le_of_lt hle (lt_of_mem_definitions hother)

end Manuscript.Latex

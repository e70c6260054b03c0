/-
# Manuscript.Proofs.Latex.Reading -- what a command gives

What the scan of a LaTeX text does at one place is stated here once, so that a proof
about a text need not open its readers.

The events of most commands are those of key groups: keys, and the missing brace of a
group that is half typed (`Event.Plain`).  Four kinds of commands give other events,
and each of them gives one at most: a begin or an end command, a heading and a
definition (`Reading.arguments_cases`).  A begin or end command counts when it has a
name (`Group.named?`); without one it is read over.
-/
import Manuscript.Proofs.Latex.Placement
import Manuscript.Proofs.Text.Stretch

namespace Manuscript.Latex

set_option autoImplicit false

open Text

/-! ## Key groups -/

namespace Event

/-- An event of a key group that stands behind the cursor. -/
inductive Plain (k : Cursor) : Event → Prop where
  | key {e : Event} {s : Symbol} : e.key? = some s → Plain k e
  | missing {brace : Nat} : k.Sees ⟨brace, brace + 1⟩ ['{'] → Plain k (.fault (missingBrace brace))

theorem Plain.of_reaches {k k' : Cursor} {e : Event} (h : k.Reaches k') (he : Plain k' e) :
    Plain k e := by
  cases he with
  | key he => exact .key he
  | missing hs => exact .missing (hs.of_reaches h)

/-- What no event of a key group has, no list of them has. -/
theorem filterMap_plain {α : Type} {f : Event → Option α} {k : Cursor} {events : List Event}
    (h : ∀ e ∈ events, Plain k e) (hkey : ∀ e s, e.key? = some s → f e = none)
    (hmissing : ∀ brace, f (.fault (missingBrace brace)) = none) : events.filterMap f = [] := by
  rw [List.filterMap_eq_nil_iff]
  intro e he
  cases h e he with
  | key hs => exact hkey e _ hs
  | missing _ => exact hmissing _

end Event

namespace Group

/-- The key group at a place, with the one name that it holds. -/
def named? (k : Cursor) : Option (Group × Symbol) :=
  (read? k).bind fun g => g.name?.map fun name => (g, name)

variable {k : Cursor} {g : Group} {name : Symbol}

theorem named?_eq_some : named? k = some (g, name) ↔ read? k = some g ∧ g.name? = some name := by
  unfold named?
  constructor
  · intro h
    obtain ⟨g', hg, h⟩ := Option.bind_eq_some_iff.1 h
    obtain ⟨name', hname, heq⟩ := Option.map_eq_some_iff.1 h
    cases heq
    exact ⟨hg, hname⟩
  · rintro ⟨hg, hname⟩
    rw [hg, Option.bind_some, hname]
    rfl

theorem reaches_named? (h : named? k = some (g, name)) : k.Reaches g.next :=
  reaches_read? (named?_eq_some.1 h).1

/-- The brace of a group stands behind the place the group was read from. -/
theorem sees_brace (h : read? k = some g) : k.Sees ⟨g.brace, g.brace + 1⟩ ['{'] := by
  obtain ⟨layout, body, hlayout, rfl⟩ := exists_of_read? h
  have hrest := afterLayout_append false k.rest
  rw [hlayout] at hrest
  rw [(takes_ofBody _ body).brace_eq]
  exact ⟨layout, body, hrest.symm, rfl, rfl⟩

theorem plain_faults (h : read? k = some g) : ∀ e ∈ g.faults, e.Plain k := by
  unfold faults
  split
  · exact List.forall_mem_nil _
  · exact List.forall_mem_singleton.2 (.missing (sees_brace h))

end Group

namespace Reading

/-! ## Readers of keys -/

theorem plain_map {event : Symbol → Event} (hevent : ∀ s, (event s).key? = some s) (k : Cursor)
    (names : List Symbol) : ∀ e ∈ names.map event, e.Plain k := by
  intro e he
  obtain ⟨s, -, rfl⟩ := List.mem_map.1 he
  exact .key (hevent s)

theorem plain_keys {event : Symbol → Event} (hevent : ∀ s, (event s).key? = some s) (k : Cursor) :
    ∀ e ∈ (keys event k).events, e.Plain k := by
  unfold keys
  split
  · rename_i g hg
    exact List.forall_mem_append.2 ⟨Group.plain_faults hg, plain_map hevent k g.names⟩
  · exact List.forall_mem_nil _

theorem plain_label (k : Cursor) : ∀ e ∈ (label k).events, e.Plain k := by
  unfold label
  split
  · rename_i g hg
    refine List.forall_mem_append.2 ⟨Group.plain_faults hg, fun e he => ?_⟩
    obtain ⟨s, -, rfl⟩ := Option.map_eq_some_iff.1 (Option.mem_toList.1 he)
    exact .key rfl
  · exact List.forall_mem_nil _

theorem plain_references (isRange : Bool) (k : Cursor) :
    ∀ e ∈ (references isRange k).events, e.Plain k := by
  unfold references
  split
  · rename_i g hg
    refine List.forall_mem_append.2 ⟨List.forall_mem_append.2 ⟨Group.plain_faults hg,
      plain_map (fun _ => rfl) k g.names⟩, fun e he => ?_⟩
    cases isRange with
    | true => exact (plain_keys (fun _ => rfl) g.next e he).of_reaches (Group.reaches_read? hg)
    | false => cases he
  · exact List.forall_mem_nil _

theorem plain_citations (k : Cursor) : ∀ e ∈ (citations k).events, e.Plain k := by
  unfold citations
  split
  · rename_i g hg
    have hgroup : ∀ e ∈ g.faults ++ (g.names.filter (·.name ≠ "*")).map Event.citation,
        e.Plain (skipOptions k) :=
      List.forall_mem_append.2 ⟨Group.plain_faults hg, plain_map (fun _ => rfl) _ _⟩
    exact fun e he => (hgroup e he).of_reaches (reaches_skipOptions k)
  · exact List.forall_mem_nil _

theorem plain_includes (kind : IncludeKind) (k : Cursor) :
    ∀ e ∈ (includes kind k).events, e.Plain k :=
  fun e he => (plain_keys (fun _ => rfl) _ e he).of_reaches (reaches_skipOptions k)

/-- **What a command gives**, by the kinds of commands. -/
theorem arguments_cases (start : Nat) (name : String) (k : Cursor) :
    (name = "begin" ∧ arguments start name k = opening start k) ∨
    (name = "end" ∧ arguments start name k = closing start k) ∨
    (∃ level, arguments start name k = heading start level k) ∨
    arguments start name k = definition k ∨
    ∀ e ∈ (arguments start name k).events, e.Plain k := by
  unfold arguments
  repeat' split
  · exact .inl ⟨‹_›, rfl⟩
  · exact .inr (.inl ⟨‹_›, rfl⟩)
  · exact .inr (.inr (.inr (.inr (plain_label k))))
  · exact .inr (.inr (.inr (.inr (plain_includes _ k))))
  · exact .inr (.inr (.inr (.inr (plain_references _ k))))
  · exact .inr (.inr (.inr (.inr (plain_citations k))))
  · exact .inr (.inr (.inl ⟨_, rfl⟩))
  · exact .inr (.inr (.inr (.inl rfl)))
  · exact .inr (.inr (.inr (.inr fun e he => by cases he)))

/-! ## Begin and end commands -/

theorem verbatim_of_nil {name : String} {opening : Span} {k : Cursor} {body : List Char}
    (h : Cursor.split (terminator name).isPrefixOf k.rest = (body, [])) :
    verbatim name opening k = ⟨[.fault (unclosedEnvironment name opening)], k.after body []⟩ := by
  simp only [verbatim, Cursor.upTo, h]
  rfl

theorem verbatim_of_found {name : String} {opening : Span} {k : Cursor} {body rest : List Char}
    (h : Cursor.split (terminator name).isPrefixOf k.rest = (body, terminator name ++ rest)) :
    verbatim name opening k = ⟨[.verbatim ⟨name, opening, ⟨k.offset + utf8Length body,
      k.offset + utf8Length body + utf8Length (terminator name)⟩⟩],
        ⟨k.offset + utf8Length body + utf8Length (terminator name), rest⟩⟩ := by
  obtain ⟨c, cs, hc⟩ : ∃ c cs, terminator name ++ rest = c :: cs := ⟨_, _, rfl⟩
  have hdrop : (c :: cs).drop (terminator name).length = rest := by
    rw [← hc, List.drop_left]
  simp only [verbatim, Cursor.upTo, h, Cursor.after, hc, hdrop]

/-- A begin command without a name. -/
theorem plain_opening {start : Nat} {k : Cursor} (h : Group.named? k = none) :
    ∀ e ∈ (opening start k).events, e.Plain k := by
  unfold opening
  split
  · rename_i g hg
    split
    · rename_i name span hname
      rw [Group.named?, hg, Option.bind_some, hname] at h
      cases h
    · exact Group.plain_faults hg
  · exact List.forall_mem_nil _

/-- An end command without a name. -/
theorem plain_closing {start : Nat} {k : Cursor} (h : Group.named? k = none) :
    ∀ e ∈ (closing start k).events, e.Plain k := by
  unfold closing
  split
  · rename_i g hg
    rw [Group.named?, hg, Option.bind_some, Option.map_eq_none_iff] at h
    intro e he
    rw [h] at he
    exact Group.plain_faults hg e (by simpa using he)
  · exact List.forall_mem_nil _

theorem closing_of_named {start : Nat} {k : Cursor} {g : Group} {name : Symbol}
    (h : Group.named? k = some (g, name)) : closing start k =
      ⟨g.faults ++ [.environmentClosed name.name ⟨start, g.next.offset⟩], g.next⟩ := by
  obtain ⟨hg, hname⟩ := Group.named?_eq_some.1 h
  unfold closing
  rw [hg]
  dsimp only
  rw [hname]
  rfl

/-- What a begin command with a name leaves.  The cursors are the one behind its name and the one
where the scan goes on. -/
inductive Begins (name : String) (opening : Span) : Cursor → Event → Cursor → Prop where
  | opened (k : Cursor) : Begins name opening k (.environmentOpened name opening) k
  | verbatim {k : Cursor} {body rest : List Char} :
      k.rest = body ++ (terminator name ++ rest) →
      Begins name opening k
        (.verbatim ⟨name, opening, ⟨k.offset + utf8Length body,
          k.offset + utf8Length body + utf8Length (terminator name)⟩⟩)
        ⟨k.offset + utf8Length body + utf8Length (terminator name), rest⟩
  | unclosed {k k' : Cursor} : k.Reaches k' →
      Begins name opening k (.fault (unclosedEnvironment name opening)) k'

/-- The body of a verbatim environment ends with its terminator or with the text. -/
theorem begins_verbatim (name : String) (opening : Span) (k : Cursor) :
    ∃ e, (verbatim name opening k).events = [e] ∧
      Begins name opening k e (verbatim name opening k).next := by
  have happend := Cursor.split_append (terminator name).isPrefixOf k.rest
  have hfrom := from_verbatim name opening k
  cases hsplit : Cursor.split (terminator name).isPrefixOf k.rest with
  | mk body rest =>
      rw [hsplit] at happend
      cases rest with
      | nil => exact ⟨_, congrArg Reading.events (verbatim_of_nil hsplit), .unclosed hfrom⟩
      | cons c cs =>
          obtain ⟨rest, hrest⟩ := List.isPrefixOf_iff_prefix.1 (isPrefixOf_of_split hsplit)
          rw [← hrest] at hsplit happend
          rw [verbatim_of_found hsplit]
          exact ⟨_, rfl, .verbatim happend.symm⟩

/-- **A begin command with a name leaves one event**, behind the faults of its group. -/
theorem opening_of_named (start : Nat) {k : Cursor} {g : Group} {name : Symbol}
    (h : Group.named? k = some (g, name)) :
    ∃ e, (opening start k).events = g.faults ++ [e] ∧
      Begins name.name ⟨start, g.next.offset⟩ g.next e (opening start k).next := by
  obtain ⟨hg, hname⟩ := Group.named?_eq_some.1 h
  unfold opening
  rw [hg]
  dsimp only
  rw [hname]
  dsimp only
  split
  · obtain ⟨e, hevents, hbegins⟩ := begins_verbatim name.name ⟨start, g.next.offset⟩ g.next
    exact ⟨e, by rw [hevents], hbegins⟩
  · exact ⟨_, rfl, .opened _⟩

end Reading

/-! ## Commands -/

theorem readCommand_nil {start : Nat} {k : Cursor} (hk : k.rest = []) :
    readCommand start k = .nothing k := by
  unfold readCommand
  rw [hk]

theorem readCommand_letters {start : Nat} {k : Cursor} {c : Char} {cs name rest : List Char}
    (hk : k.rest = c :: cs) (hletter : isLetter c = true)
    (hname : commandName k.rest = (name, rest)) :
    readCommand start k = ⟨.command (Command.bare (String.ofList name)) ::
      (Reading.arguments start (String.ofList name) (k.after name rest)).events,
      (Reading.arguments start (String.ofList name) (k.after name rest)).next⟩ := by
  unfold readCommand
  rw [hname]
  simp only [hk, hletter, if_true]

theorem readCommand_symbol {start : Nat} {k : Cursor} {c : Char} {cs : List Char}
    (hk : k.rest = c :: cs) (hletter : isLetter c ≠ true) :
    readCommand start k = .nothing ⟨k.offset + c.utf8Size, cs⟩ := by
  unfold readCommand
  simp only [hk, hletter, Cursor.bump]
  rfl

namespace Reading

/-! ### The readings at a character -/

theorem at_letters {offset : Nat} {d : Char} {ds name rest : List Char}
    (hletter : isLetter d = true) (hname : commandName (d :: ds) = (name, rest)) :
    Reading.at offset '\\' (d :: ds) = ⟨.command (Command.bare (String.ofList name)) ::
      (arguments offset (String.ofList name) ⟨offset + 1 + utf8Length name, rest⟩).events,
      (arguments offset (String.ofList name) ⟨offset + 1 + utf8Length name, rest⟩).next⟩ :=
  readCommand_letters (k := ⟨offset + 1, d :: ds⟩) rfl hletter hname

theorem at_symbol {offset : Nat} {d : Char} {ds : List Char} (hletter : isLetter d ≠ true) :
    Reading.at offset '\\' (d :: ds) = .nothing ⟨offset + 1 + d.utf8Size, ds⟩ :=
  readCommand_symbol (k := ⟨offset + 1, d :: ds⟩) rfl hletter

theorem at_comment (offset : Nat) (cs : List Char) :
    Reading.at offset '%' cs = .nothing (Cursor.upTo (startsWith (· == '\n')) ⟨offset + 1, cs⟩).2 :=
  rfl

theorem at_other {offset : Nat} {c : Char} {cs : List Char} (h : c ∉ ['\\', '%', '{', '}']) :
    Reading.at offset c cs = .nothing ⟨offset + c.utf8Size, cs⟩ := by
  simp only [List.mem_cons, List.not_mem_nil, or_false, not_or] at h
  simp only [Reading.at, token, h, if_false]

/-- **What a character of a text begins**: a command, a group, the end of one, or nothing that
leaves an event. -/
theorem at_cases (offset : Nat) (c : Char) (cs : List Char) :
    (c = '\\' ∧ ∃ name rest, commandName cs = (name, rest) ∧ startsWith isLetter cs = true ∧
      Reading.at offset c cs = ⟨.command (Command.bare (String.ofList name)) ::
        (arguments offset (String.ofList name) ⟨offset + 1 + utf8Length name, rest⟩).events,
        (arguments offset (String.ofList name) ⟨offset + 1 + utf8Length name, rest⟩).next⟩) ∨
    (c = '{' ∧ Reading.at offset c cs = ⟨[.braceOpened offset], ⟨offset + 1, cs⟩⟩) ∨
    (c = '}' ∧ Reading.at offset c cs = ⟨[.braceClosed offset], ⟨offset + 1, cs⟩⟩) ∨
    (Reading.at offset c cs).events = [] := by
  unfold Reading.at token
  by_cases hcommand : c = '\\'
  · subst hcommand
    rw [if_pos rfl]
    cases cs with
    | nil => exact .inr (.inr (.inr (by rw [readCommand_nil rfl]; rfl)))
    | cons d ds =>
        by_cases hletter : isLetter d = true
        · refine .inl ⟨rfl, _, _, rfl, hletter, ?_⟩
          exact readCommand_letters rfl hletter rfl
        · exact .inr (.inr (.inr (by rw [readCommand_symbol rfl hletter]; rfl)))
  rw [if_neg hcommand]
  by_cases hcomment : c = '%'
  · rw [if_pos hcomment]
    exact .inr (.inr (.inr rfl))
  rw [if_neg hcomment]
  by_cases hopen : c = '{'
  · subst hopen
    exact .inr (.inl ⟨rfl, rfl⟩)
  rw [if_neg hopen]
  by_cases hclose : c = '}'
  · subst hclose
    exact .inr (.inr (.inl ⟨rfl, rfl⟩))
  · rw [if_neg hclose]
    exact .inr (.inr (.inr rfl))

end Reading

end Manuscript.Latex

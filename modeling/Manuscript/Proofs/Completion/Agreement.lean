/-
# Manuscript.Proofs.Completion.Agreement -- completion and analysis see the same group

A line that ends in an open group tells what is typed in it; the analysis of the line with
the group closed records the same name, in the same place.  The two read what comes before
the key in ways of their own, so they agree where the analysis comes to the command and goes
on from its name to the group.  The first is what `Exposed` says.  The second is `Bridge`:
layout, optional arguments of a command that takes them, and the first group of a range.

Behind the bridge both take the same brace for the start of the group.  The typed key is
the last stretch between commas, so its name ends where the line ends.
-/
import Manuscript.Proofs.Completion.Context
import Manuscript.Proofs.Latex.Bridge

namespace Manuscript.Completion

set_option autoImplicit false

open Text Latex

/-! ## What the analysis records -/

/-- The symbols of a topic. -/
def recorded (s : Latex.Structure) : Topic → List Symbol
  | .label => s.labelReferences
  | .citation => s.citations
  | .inclusion kind =>
      (s.includes.filter (·.kind = kind)).map fun file => ⟨file.path, file.span⟩
  | .environment => []
  | .command => []

/-- What a symbol of a topic is met as. -/
def eventOf? (symbol : Symbol) : Topic → Option Event
  | .label => some (.reference symbol)
  | .citation => some (.citation symbol)
  | .inclusion kind => some (.inclusion ⟨kind, symbol.name, symbol.span⟩)
  | .environment => none
  | .command => none

theorem mem_recorded {events : List Event} {topic : Topic} {symbol : Symbol} {e : Event}
    (he : eventOf? symbol topic = some e) (h : e ∈ events) :
    symbol ∈ recorded (.ofEvents events) topic := by
  cases topic with
  | label =>
      cases he
      exact List.mem_filterMap.2 ⟨_, h, rfl⟩
  | citation =>
      cases he
      exact List.mem_filterMap.2 ⟨_, h, rfl⟩
  | inclusion kind =>
      cases he
      refine List.mem_map.2 ⟨⟨kind, symbol.name, symbol.span⟩, List.mem_filter.2 ⟨?_, ?_⟩, rfl⟩
      · exact List.mem_filterMap.2 ⟨_, h, rfl⟩
      · exact decide_eq_true rfl
  | environment => cases he
  | command => cases he

theorem topicOf?_cases {name : String} {topic : Topic}
    (h : Context.topicOf? name = some topic) :
    (topic = .label ∧ name ∈ Command.labelReferences) ∨
      (topic = .citation ∧ name ∈ Command.citations) ∨ topic = .environment ∨
      ∃ kind, topic = .inclusion kind ∧ name ∈ kind.commands := by
  have hinclude {kind : Latex.IncludeKind} (hkind : Command.includeKind? name = some kind) :
      name ∈ kind.commands := by
    simpa using List.find?_some hkind
  unfold Context.topicOf? at h
  split at h
  · rename_i hreference
    cases h
    exact .inl ⟨rfl, of_decide_eq_true hreference⟩
  split at h
  · rename_i hcitation
    cases h
    exact .inr (.inl ⟨rfl, of_decide_eq_true hcitation⟩)
  split at h
  · cases h
    exact .inr (.inr (.inl rfl))
  · refine .inr (.inr (.inr ?_))
    split at h
    · cases h
      exact ⟨_, rfl, hinclude ‹_›⟩
    · cases h
      exact ⟨_, rfl, hinclude ‹_›⟩
    · cases h

/-- **The command of an open group meets the keys of that group.** -/
theorem exists_mem_arguments {name : String} {topic : Topic} {between : List Char}
    (htopic : Context.topicOf? name = some topic) (hother : topic ≠ .environment)
    (hbridge : Bridge name between) {o : Nat} {body : List Char} {symbol : Symbol}
    (hsymbol : symbol ∈ (Latex.Group.ofBody (o + utf8Length between) body).names)
    (hwild : topic = .citation → symbol.name ≠ "*") (start : Nat) :
    ∃ e, eventOf? symbol topic = some e ∧
      e ∈ (Reading.arguments start name ⟨o, between ++ '{' :: body⟩).events := by
  rcases topicOf?_cases htopic with ⟨rfl, hknown⟩ | ⟨rfl, hknown⟩ | rfl | ⟨kind, rfl, hknown⟩
  · refine ⟨_, rfl, ?_⟩
    rw [Markup.arguments_reference hknown]
    exact hbridge.mem_references (takesOptions_of_isLabelReference.1 name hknown) o body symbol
      hsymbol
  · obtain ⟨hlisted, hkind, hreference⟩ := Markup.isListed_known.2.1 name hknown
    have hcitation : Command.isCitation name = true := decide_eq_true hknown
    have hread := hbridge.read?_skipOptions (by simp [Command.takesOptions, hcitation]) o body
    refine ⟨_, rfl, ?_⟩
    rw [Markup.arguments_of_isListed hlisted, hkind]
    simp only [hreference, hcitation, Bool.false_eq_true, if_false, if_true, Reading.citations]
    rw [hread]
    exact List.mem_append_right _ (List.mem_map_of_mem
      (List.mem_filter.2 ⟨hsymbol, decide_eq_true (hwild rfl)⟩))
  · exact absurd rfl hother
  · have hall : kind ∈ IncludeKind.all := by cases kind <;> decide
    obtain ⟨hlisted, hkind⟩ := Markup.isListed_known.2.2.1 kind hall name hknown
    have hread := hbridge.read?_skipOptions (by simp [Command.takesOptions, hkind]) o body
    refine ⟨_, rfl, ?_⟩
    rw [Markup.arguments_of_isListed hlisted, hkind]
    simp only [Reading.includes, Reading.keys]
    rw [hread]
    exact List.mem_append_right _ (List.mem_map_of_mem hsymbol)

/-- The last key of an open group, in the group that a brace closes. -/
theorem Context.EndsWith.exists_mem_names {keys typed : List Char}
    (h : Context.EndsWith keys typed) (hne : typed ≠ []) (hline : '\n' ∉ keys) (brace : Nat) :
    ∃ symbol ∈ (Latex.Group.ofBody brace (keys ++ ['}'])).names,
      symbol.name = String.ofList typed ∧ symbol.span.stop = brace + 1 + utf8Length keys := by
  have hkeys : ∀ c ∈ keys, Markup.isKey c = true := by
    intro c hc
    have hplain := h.plain c hc
    have hbreak : c ≠ '\n' := fun heq => hline (heq ▸ hc)
    simp only [List.mem_cons, List.not_mem_nil, or_false, not_or] at hplain
    simp [Markup.isKey, hplain, hbreak]
  have hsolid : Solid isBlank typed := solid_of_forall hne fun c hc => (h.name c hc).2
  obtain ⟨pad, hpad, hlast⟩ := h.last
  have hcomma : ',' ∉ pad ++ typed := by
    rw [List.mem_append, not_or]
    refine ⟨fun hmem => ?_, fun hmem => (h.name _ hmem).1 rfl⟩
    exact absurd (hpad _ hmem) (by decide)
  rw [Markup.ofBody_keys hkeys]
  rcases hlast with rfl | ⟨earlier, rfl⟩
  · refine ⟨_, mem_namesFrom_only hpad hsolid hcomma _, rfl, ?_⟩
    simp [Symbol.ofText, Group.inside, Group.closedBy, Nat.add_assoc]
  · refine ⟨_, mem_namesFrom_last hpad hsolid hcomma _, rfl, ?_⟩
    simp [Symbol.ofText, Group.inside, Group.closedBy, Nat.add_assoc,
      show Char.utf8Size ',' = 1 from rfl]

/-- What is typed in the open group at the end of a line is recorded when a brace closes the
group, and it ends where the line ends. -/
def Agrees (p : String) : Prop :=
  ∀ topic typed, Context.ofLine? p.toList = some ⟨topic, typed⟩ → typed ≠ [] →
    topic ≠ .environment → topic ≠ .command →
    ∃ symbol ∈ recorded (Latex.analyze (p ++ "\x7d")) topic,
      symbol.name = String.ofList typed ∧ symbol.span.stop = utf8Length p.toList

/-- **Completion and analysis agree on an open group** where the analysis comes to its command
and goes on from the name to the group, unless every entry is cited. -/
theorem agrees_of_opens {p : String} {front command between keys : List Char}
    (hline : '\n' ∉ p.toList) (hopens : Context.Opens p.toList front command between keys)
    (hbridge : Bridge (String.ofList command) between) (hescapes : escapes false front = false)
    (hexposed : Exposed (.ofString (p ++ "\x7d")) (utf8Length front))
    (hwild : Context.ofLine? p.toList ≠ some ⟨.citation, ['*']⟩) : Agrees p := by
  intro topic typed hcontext hne hother htopic
  obtain ⟨hcomment, name, hgroup, hname⟩ := Context.of_ofLine? hcontext htopic
  obtain ⟨rfl, hcommand, hkeys⟩ := hopens.parts hgroup
  have hcut := hopens.cut
  have htext : Cursor.ofString (p ++ "\x7d") =
      ⟨0, front ++ '\\' :: (command ++ (between ++ '{' :: (keys ++ ['}'])))⟩ := by
    simp [Cursor.ofString, hcut]
  -- the analysis comes to the command
  have hfront : Uncommented front := by
    rintro before after rfl
    exact Context.uncommented_of_isComment hcomment before _ (by rw [hcut, List.append_assoc]; rfl)
  have hfaces := @Faces.mk
    ⟨utf8Length front, '\\' :: (command ++ (between ++ '{' :: (keys ++ ['}'])))⟩
    0 front hfront hescapes (Nat.zero_add _)
  rw [htext] at hexposed
  have hvisits := visits_of_exposed rfl hfaces hexposed
  -- and goes on to the group
  obtain ⟨symbol, hsymbol, hsame, hstop⟩ := hkeys.exists_mem_names hne
    (fun hmem => hline (by rw [hcut]; simp [hmem]))
    (utf8Length front + 1 + utf8Length command + utf8Length between)
  have hstar : topic = .citation → symbol.name ≠ "*" := by
    rintro rfl hstar
    have htyped : typed = ['*'] := String.ofList_injective (hsame.symm.trans hstar)
    exact hwild (htyped ▸ hcontext)
  obtain ⟨e, he, hmem⟩ := exists_mem_arguments hname hother hbridge hsymbol hstar
    (utf8Length front)
  refine ⟨symbol, mem_recorded he ?_, hsame, ?_⟩
  · rw [htext]
    exact mem_scan_of_visits hcommand (hbridge.endsName _) hvisits hmem
  · rw [hstop, hcut]
    simp only [utf8Length_append, utf8Length_cons, show Char.utf8Size '\\' = 1 from rfl,
      show Char.utf8Size '{' = 1 from rfl]
    omega

/-- A key behind an optional argument and another key. -/
theorem agrees_of_opens_cite :
    let p := "See \\cite[p]\x7ba, b"
    Context.Opens p.toList "See ".toList "cite".toList "[p]".toList "a, b".toList ∧
      Bridge "cite" "[p]".toList ∧ escapes false "See ".toList = false ∧
      Exposed (.ofString (p ++ "\x7d")) (utf8Length "See ".toList) ∧
      Context.ofLine? p.toList = some ⟨.citation, "b".toList⟩ ∧
      ∃ symbol ∈ (Latex.analyze (p ++ "\x7d")).citations,
        symbol.name = "b" ∧ symbol.span.stop = 17 := by
  intro p
  have hcontext : Context.ofLine? p.toList = some ⟨.citation, "b".toList⟩ := by decide +kernel
  have hfind : (Context.groupPattern.find? p.toList).map
      (fun m => (m.group? 1, m.start.rest)) =
        some (some "cite".toList, "\\cite[p]\x7ba, b".toList) := by decide +kernel
  obtain ⟨m, hm, hparts⟩ := Option.map_eq_some_iff.1 hfind
  obtain ⟨hname, hrest⟩ := Prod.mk.inj hparts
  have hopens : Context.Opens p.toList "See ".toList "cite".toList "[p]".toList
      "a, b".toList := ⟨by decide, ⟨m, hm, hname, hrest⟩, by decide⟩
  have hbridge : Bridge "cite" "[p]".toList :=
    @Bridge.option "cite" [] "p".toList [] (by decide) (List.forall_mem_nil _) (by decide)
      (.layout (List.forall_mem_nil _))
  have htext : Cursor.ofString (p ++ "\x7d") =
      ⟨0, "See ".toList ++ "\\cite[p]\x7ba, b\x7d".toList⟩ := by decide
  have hexposed : Exposed (.ofString (p ++ "\x7d")) (utf8Length "See ".toList) := by
    rw [htext, ← Nat.zero_add (utf8Length _)]
    exact exposed_of_not_mem (by decide)
  have hescapes : escapes false "See ".toList = false := by decide
  obtain ⟨symbol, hsymbol, hsame, hstop⟩ := agrees_of_opens (by decide) hopens hbridge hescapes
    hexposed (by rw [hcontext]; decide) _ _ hcontext (by decide) (by decide) (by decide)
  exact ⟨hopens, hbridge, hescapes, hexposed, hcontext, symbol, hsymbol,
    hsame.trans String.ofList_toList, hstop.trans (by decide)⟩

theorem not_agrees_of_nil {p : String} {topic : Topic} {typed : List Char}
    (h : Context.ofLine? p.toList = some ⟨topic, typed⟩)
    (hkey : typed ≠ [] ∧ topic ≠ .environment ∧ topic ≠ .command)
    (hnone : recorded (Latex.analyze (p ++ "\x7d")) topic = []) : ¬ Agrees p := by
  intro hagrees
  obtain ⟨symbol, hsymbol, -⟩ := hagrees topic typed h hkey.1 hkey.2.1 hkey.2.2
  rw [hnone] at hsymbol
  cases hsymbol

/-- A star cites every entry and names none.  Label references take no optional argument, and
one with brackets that do not match is none.  A blank that is not ASCII is no layout.  Verbatim
bodies, definitions, optional arguments and groups of keys read over commands.  Two backslashes
are a line break, and what stands behind it is text. -/
theorem not_agrees :
    ¬ Agrees "\\cite\x7b*" ∧ ¬ Agrees "\\ref[o]\x7bx" ∧ ¬ Agrees "\\cite[\x7b]\x7bx" ∧
      ¬ Agrees "\\ref\u00a0\x7bx" ∧ ¬ Agrees "\\begin\x7bverbatim\x7d\\ref\x7bx" ∧
      ¬ Agrees "\\def\\ref\x7bx" ∧ ¬ Agrees "\\cite[a \\ref\x7bb]],x" ∧
      ¬ Agrees "\\label\x7ba \\cite[[\x7d]\x7bx" ∧ ¬ Agrees "\\\\ref\x7bx" := by
  refine ⟨?_, ?_, ?_, ?_, ?_, ?_, ?_, ?_, ?_⟩
  · exact @not_agrees_of_nil _ .citation ['*'] (by decide +kernel) (by decide) (by decide +kernel)
  · exact @not_agrees_of_nil _ .label ['x'] (by decide +kernel) (by decide) (by decide +kernel)
  · exact @not_agrees_of_nil _ .citation ['x'] (by decide +kernel) (by decide) (by decide +kernel)
  · exact @not_agrees_of_nil _ .label ['x'] (by decide +kernel) (by decide) (by decide +kernel)
  · exact @not_agrees_of_nil _ .label ['x'] (by decide +kernel) (by decide) (by decide +kernel)
  · exact @not_agrees_of_nil _ .label ['x'] (by decide +kernel) (by decide) (by decide +kernel)
  · exact @not_agrees_of_nil _ .label ['x'] (by decide +kernel) (by decide) (by decide +kernel)
  · exact @not_agrees_of_nil _ .citation ['x'] (by decide +kernel) (by decide) (by decide +kernel)
  · exact @not_agrees_of_nil _ .label ['x'] (by decide +kernel) (by decide) (by decide +kernel)

end Manuscript.Completion

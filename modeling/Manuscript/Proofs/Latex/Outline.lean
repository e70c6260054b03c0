/-
# Manuscript.Proofs.Latex.Outline -- a comment does not show in the structure

The scans of two texts that differ in a comment stay in the same place: what one command or
one character gives tells the same in both texts (`Event.Alike`), and what is matched or
reported stands in the same order.  So the structures have the same outline: the same paths,
names, levels and codes (`outline_remark`).

A comment shows where text is read as it stands.  In a key group it becomes part of a key,
and in an optional argument its brackets and braces count (`outline_remark_shows`).  Those
are the only places but for a verbatim body: what the theorem asks for (`Hidden`) is that
the comment is in no key group of a command, and that an optional argument with the comment
in it finds neither bracket nor brace nor backslash there.
-/
import Manuscript.Proofs.Latex.Remark

namespace Manuscript.Latex

set_option autoImplicit false

open Text Text.Form

/-! ## Events -/

/-- The events tell the same, and what is matched or reported stands in the same place. -/
inductive Event.Alike (same : Nat → Nat → Prop) : Event → Event → Prop where
  | command (name : String) : Alike same (.command name) (.command name)
  | braceOpened {o o' : Nat} : same o o' → same (o + 1) (o' + 1) →
      Alike same (.braceOpened o) (.braceOpened o')
  | braceClosed {o o' : Nat} : same o o' → same (o + 1) (o' + 1) →
      Alike same (.braceClosed o) (.braceClosed o')
  | label {s s' : Symbol} : s.name = s'.name → Alike same (.label s) (.label s')
  | reference {s s' : Symbol} : s.name = s'.name → Alike same (.reference s) (.reference s')
  | citation {s s' : Symbol} : s.name = s'.name → Alike same (.citation s) (.citation s')
  | inclusion {i i' : Include} : i.kind = i'.kind → i.path = i'.path →
      Alike same (.inclusion i) (.inclusion i')
  | heading {part part' : Section} : part.level = part'.level →
      Alike same (.heading part) (.heading part')
  | definition {s s' : Symbol} : s.name = s'.name → Alike same (.definition s) (.definition s')
  | environmentOpened (name : String) {s s' : Span} : SameSpan same s s' →
      Alike same (.environmentOpened name s) (.environmentOpened name s')
  | environmentClosed (name : String) {s s' : Span} : SameSpan same s s' →
      Alike same (.environmentClosed name s) (.environmentClosed name s')
  | verbatim {e e' : Environment} : e.name = e'.name → Alike same (.verbatim e) (.verbatim e')
  | fault {d d' : Diagnostic} : DiagnosticRespelt same d d' → Alike same (.fault d) (.fault d')

variable {same : Nat → Nat → Prop}

/-- Events that tell the same keep what is open alike. -/
theorem Pending.Respelt.step_alike {p p' : Pending} (h : p.Respelt same p') {e e' : Event}
    (he : e.Alike same e') : (p.step e).Respelt same (p'.step e') := by
  -- no spelling matters to what is open
  have hstep : ∀ {e e'}, Event.Respelt .label [] [] same e e' →
      (p.step e).Respelt same (p'.step e') := h.step
  cases he with
  | braceOpened hstart hstop => exact hstep (.braceOpened hstart hstop)
  | braceClosed hstart hstop => exact hstep (.braceClosed hstart hstop)
  | environmentOpened name hs => exact hstep (.environmentOpened name hs)
  | environmentClosed name hs => exact hstep (.environmentClosed name hs)
  | verbatim hname => exact hstep (.verbatim hname)
  | fault hd => exact hstep (.fault hd)
  | _ => exact h

theorem Pending.Respelt.foldl_alike {p p' : Pending} (h : p.Respelt same p') {es es' : List Event}
    (hes : List.Forall₂ (Event.Alike same) es es') :
    (es.foldl Pending.step p).Respelt same (es'.foldl Pending.step p') := by
  induction hes generalizing p p' with
  | nil => exact h
  | cons he _ ih => exact ih (h.step_alike he)

/-! ## Commands -/

/-- The key groups that a command reads; the cursor is behind its name. -/
def Reading.keyGroups (name : String) (k : Cursor) : List Group :=
  if name = "begin" ∨ name = "end" ∨ name = "label" then (Group.read? k).toList
  else if (Command.includeKind? name).isSome then (Group.read? (skipOptions k)).toList
  else if Command.isLabelReference name then
    match Group.read? k with
    | some g => g :: if Command.isLabelRange name then (Group.read? g.next).toList else []
    | none => []
  else if Command.isCitation name then (Group.read? (skipOptions k)).toList
  else []

namespace Reading

/-- The two readings tell the same, and go on in the same place. -/
structure Twin (c c' v : List Char) (edge : Nat) (r r' : Reading) : Prop where
  events : List.Forall₂ (Event.Alike (Shifted c c' edge)) r.events r'.events
  next : Latex.Twin c c' v edge r.next r'.next

variable {c c' v : List Char} {edge start start' : Nat} {k k' : Cursor}

theorem twin_nothing (h : Latex.Twin c c' v edge k k') :
    Twin c c' v edge (nothing k) (nothing k') := ⟨.nil, h⟩

theorem alike_faults {g g' : Group} (h : Group.Twin c c' v edge g g') :
    List.Forall₂ (Event.Alike (Shifted c c' edge)) g.faults g'.faults := by
  unfold Group.faults
  rw [← h.closed]
  split
  · exact .nil
  · exact .cons (.fault ⟨rfl, rfl, rfl, h.brace, h.inside⟩) .nil

/-- The names between the commas of one content. -/
theorem alike_names {event : Symbol → Event}
    (hevent : ∀ s s', s.name = s'.name → Event.Alike same (event s) (event s'))
    (content : List Char) (o o' : Nat) :
    List.Forall₂ (Event.Alike same) ((namesFrom o (betweenCommas content)).map event)
      ((namesFrom o' (betweenCommas content)).map event) :=
  List.rel_map hevent (forall₂_namesFrom _ o o')

/-- A verbatim body behind the comment. -/
theorem twin_verbatim (name : String) {opening opening' : Span}
    (hopening : SameSpan (Shifted c c' edge) opening opening') (n : Nat) (rest : List Char) :
    Twin c c' v edge (verbatim name opening ⟨edge + 1 + utf8Length c + n, rest⟩)
      (verbatim name opening' ⟨edge + 1 + utf8Length c' + n, rest⟩) := by
  cases hsplit : Cursor.split (terminator name).isPrefixOf rest with
  | mk body after =>
      cases after with
      | nil =>
          have hnil (k : Cursor) (hk : k.rest = rest) (opening : Span) :=
            @verbatim_of_nil name opening k body (by rw [hk]; exact hsplit)
          rw [hnil _ rfl, hnil _ rfl]
          exact ⟨.cons (.fault ⟨rfl, rfl, rfl, hopening⟩) .nil, Twin.behind_after n _ _⟩
      | cons d ds =>
          obtain ⟨after, hafter⟩ := List.isPrefixOf_iff_prefix.1 (isPrefixOf_of_split hsplit)
          rw [← hafter] at hsplit
          have hfound (k : Cursor) (hk : k.rest = rest) (opening : Span) :=
            @verbatim_of_found name opening k body after (by rw [hk]; exact hsplit)
          rw [hfound _ rfl, hfound _ rfl]
          refine ⟨.cons (.verbatim rfl) .nil, ?_⟩
          have hnext := @Twin.behind_after c c' v edge n (body ++ terminator name) after
          simpa only [utf8Length_append, ← Nat.add_assoc] using hnext

theorem exists_heading (start level : Nat) {k : Cursor} {body : List Char}
    (h : (skipLayout (skipOptions k)).rest = '{' :: body) :
    ∃ part, heading start level k = ⟨[.heading part], skipLayout (skipOptions k)⟩ ∧
      part.level = level := by
  unfold heading
  dsimp only
  rw [h]
  exact ⟨_, rfl, rfl⟩

/-- The name that is defined is the text up to the end of its letters. -/
theorem definedName?_upTo {cs read : List Char} {there : Cursor} (hk : k.rest = '\\' :: cs)
    (h : Cursor.upTo (startsWith (!isLetter ·)) ⟨k.offset + 1, cs⟩ = (read, there)) :
    definedName? k =
      if read = [] then none
      else some (⟨String.ofList read, ⟨k.offset, there.offset⟩⟩, there) := by
  simp only [definedName?, hk]
  unfold Cursor.upTo at h
  generalize Cursor.split (startsWith (!isLetter ·)) cs = parts at h ⊢
  obtain ⟨letters, rest⟩ := parts
  cases h
  cases read with
  | nil => rfl
  | cons c read =>
      have hoffset : k.offset + utf8Length ('\\' :: c :: read) =
          k.offset + 1 + utf8Length (c :: read) := by
        rw [utf8Length_cons, ← Nat.add_assoc]
        rfl
      simp only [Cursor.after, hoffset]
      rfl

theorem twin_definedName? (h : Latex.Twin c c' v edge k k') :
    Option.Rel (fun found found' : Symbol × Cursor => found.1.name = found'.1.name ∧
      Latex.Twin c c' v edge found.2 found'.2) (definedName? k) (definedName? k') := by
  rcases h.at_or (show '\\' ≠ '%' by decide) with hat | ⟨hk, hk'⟩
  · obtain ⟨cs, cs', hk, hk', hsame⟩ := hat.escape
    rcases hsame with ⟨rfl, rfl, -⟩ | ⟨d, ds, ds', rfl, rfl, -, htwin⟩
    · rw [definedName?_upTo hk rfl, definedName?_upTo hk' rfl]
      exact .none
    by_cases hd : d = '\\'
    · subst hd
      rw [definedName?_upTo hk rfl, definedName?_upTo hk' rfl]
      exact .none
    · obtain ⟨read, there, there', hthere, hread, hread'⟩ :=
        @Latex.Twin.upTo _ _ _ _ _ _ (!isLetter ·) (by decide) (by decide) (htwin hd)
      rw [definedName?_upTo hk hread, definedName?_upTo hk' hread']
      split
      · exact .none
      · exact .some ⟨rfl, hthere⟩
  · rw [definedName?_nothing hk, definedName?_nothing hk']
    exact .none

section Groups

variable (hc : '\n' ∉ c) (hc' : '\n' ∉ c')

include hc hc'

/-- **A group that does not show the comment**, and what is read behind it. -/
theorem twin_group {names : Nat → List Char → List Event}
    {f : List Char → Nat → Cursor → Reading} (h : Latex.Twin c c' v edge k k')
    (hhas : ∀ g ∈ Group.read? k, ¬ g.Has edge) (hhas' : ∀ g ∈ Group.read? k', ¬ g.Has edge)
    (hnames : ∀ content o o', List.Forall₂ (Event.Alike (Shifted c c' edge)) (names o content)
      (names o' content))
    (hf : ∀ g g', Group.read? k = some g → Group.read? k' = some g' →
      Group.Twin c c' v edge g g' →
      Twin c c' v edge (f g.content start g.next) (f g.content start' g'.next)) :
    Twin c c' v edge (group names f start k) (group names f start' k') := by
  have hrel := Group.twin_read? hc hc' h hhas hhas'
  cases hread : Group.read? k with
  | none =>
      cases hread' : Group.read? k' with
      | none =>
          rw [group_of_none hread, group_of_none hread']
          exact twin_nothing h
      | some g' =>
          rw [hread, hread'] at hrel
          cases hrel
  | some g =>
      cases hread' : Group.read? k' with
      | none =>
          rw [hread, hread'] at hrel
          cases hrel
      | some g' =>
          rw [hread, hread'] at hrel
          cases hrel with
          | some htwin =>
              obtain ⟨hevents, hnext⟩ := hf g g' hread hread' htwin
              rw [group_of_read? hread, group_of_read? hread', ← htwin.content]
              exact ⟨List.rel_append (List.rel_append (alike_faults htwin) (hnames _ _ _)) hevents,
                hnext⟩

theorem twin_keys {event : Symbol → Event}
    (hevent : ∀ s s', s.name = s'.name → Event.Alike (Shifted c c' edge) (event s) (event s'))
    (h : Latex.Twin c c' v edge k k') (hhas : ∀ g ∈ Group.read? k, ¬ g.Has edge)
    (hhas' : ∀ g ∈ Group.read? k', ¬ g.Has edge) :
    Twin c c' v edge (keys event k) (keys event k') := by
  rw [keys_eq event 0 k, keys_eq event 0 k']
  exact twin_group hc hc' h hhas hhas' (alike_names hevent) fun _ _ _ _ htwin =>
    twin_nothing htwin.next

theorem twin_label (h : Latex.Twin c c' v edge k k') (hhas : ∀ g ∈ Group.read? k, ¬ g.Has edge)
    (hhas' : ∀ g ∈ Group.read? k', ¬ g.Has edge) :
    Twin c c' v edge (label k) (label k') := by
  rw [label_eq 0 k, label_eq 0 k']
  exact twin_group hc hc' h hhas hhas'
    (fun content o o' => List.rel_map (fun _ _ hs => .label hs) (forall₂_trimmed? content o o'))
    fun _ _ _ _ htwin => twin_nothing htwin.next

theorem twin_references {isRange : Bool} (h : Latex.Twin c c' v edge k k')
    (hhas : ∀ g ∈ Group.read? k, ¬ g.Has edge ∧
      (isRange = true → ∀ g₂ ∈ Group.read? g.next, ¬ g₂.Has edge))
    (hhas' : ∀ g ∈ Group.read? k', ¬ g.Has edge ∧
      (isRange = true → ∀ g₂ ∈ Group.read? g.next, ¬ g₂.Has edge)) :
    Twin c c' v edge (references isRange k) (references isRange k') := by
  rw [references_eq isRange 0 k, references_eq isRange 0 k']
  refine twin_group hc hc' h (fun g hg => (hhas g hg).1) (fun g hg => (hhas' g hg).1)
    (alike_names fun _ _ hs => .reference hs) fun g g' hg hg' htwin => ?_
  cases isRange with
  | true =>
      exact twin_keys hc hc' (fun _ _ hs => .reference hs) htwin.next ((hhas g hg).2 rfl)
        ((hhas' g' hg').2 rfl)
  | false => exact twin_nothing htwin.next

theorem twin_citations (h : Latex.Twin c c' v edge (skipOptions k) (skipOptions k'))
    (hhas : ∀ g ∈ Group.read? (skipOptions k), ¬ g.Has edge)
    (hhas' : ∀ g ∈ Group.read? (skipOptions k'), ¬ g.Has edge) :
    Twin c c' v edge (citations k) (citations k') := by
  rw [citations_eq 0 k, citations_eq 0 k']
  refine twin_group hc hc' h hhas hhas' (fun content o o' => ?_) fun _ _ _ _ htwin =>
    twin_nothing htwin.next
  exact List.rel_map (fun _ _ hs => .citation hs) (List.rel_filter
    (fun s s' hs => by simp only [hs]) (forall₂_namesFrom _ o o'))

theorem twin_includes (kind : IncludeKind)
    (h : Latex.Twin c c' v edge (skipOptions k) (skipOptions k'))
    (hhas : ∀ g ∈ Group.read? (skipOptions k), ¬ g.Has edge)
    (hhas' : ∀ g ∈ Group.read? (skipOptions k'), ¬ g.Has edge) :
    Twin c c' v edge (includes kind k) (includes kind k') :=
  twin_keys hc hc' (fun _ _ hs => .inclusion rfl hs) h hhas hhas'

/-! ### Environments -/

theorem twin_closing (hstart : Shifted c c' edge start start') (h : Latex.Twin c c' v edge k k')
    (hhas : ∀ g ∈ Group.read? k, ¬ g.Has edge) (hhas' : ∀ g ∈ Group.read? k', ¬ g.Has edge) :
    Twin c c' v edge (closing start k) (closing start' k') := by
  rw [closing_eq, closing_eq]
  refine twin_group hc hc' h hhas hhas' (fun _ _ _ => .nil) fun g g' _ _ htwin => ?_
  unfold closed
  cases trim g.content with
  | nil => exact twin_nothing htwin.next
  | cons d word =>
      exact ⟨.cons (.environmentClosed _ ⟨hstart, htwin.next.shifted⟩) .nil, htwin.next⟩

theorem twin_opening (hstart : Shifted c c' edge start start') (h : Latex.Twin c c' v edge k k')
    (hhas : ∀ g ∈ Group.read? k, ¬ g.Has edge) (hhas' : ∀ g ∈ Group.read? k', ¬ g.Has edge)
    (hbody : ∀ g symbol, Group.named? k = some (g, symbol) →
      Command.isVerbatim symbol.name = true → edge < g.next.offset) :
    Twin c c' v edge (opening start k) (opening start' k') := by
  rw [opening_eq, opening_eq]
  refine twin_group hc hc' h hhas hhas' (fun _ _ _ => .nil) fun g g' hg _ htwin => ?_
  have hspan : SameSpan (Shifted c c' edge) ⟨start, g.next.offset⟩ ⟨start', g'.next.offset⟩ :=
    ⟨hstart, htwin.next.shifted⟩
  unfold opened
  cases hname : trim g.content with
  | nil => exact twin_nothing htwin.next
  | cons d word =>
      by_cases hverbatim : Command.isVerbatim (String.ofList (d :: word)) = true
      · simp only [hverbatim, if_true]
        have hsymbol : ∃ symbol, g.name? = some symbol ∧
            symbol.name = String.ofList (d :: word) := by
          unfold Group.name? Symbol.trimmed?
          rw [hname]
          exact ⟨_, rfl, rfl⟩
        obtain ⟨symbol, hsymbol, hword⟩ := hsymbol
        have hbehind := hbody g symbol (Group.named?_eq_some.2 ⟨hg, hsymbol⟩) (hword ▸ hverbatim)
        -- the body begins behind the comment
        generalize hthere : g.next = there at htwin hspan hbehind
        generalize hthere' : g'.next = there' at htwin hspan
        have hnext := htwin.next
        rw [hthere, hthere'] at hnext
        cases hnext with
        | before _ ho => exact absurd ho (by simp only at hbehind; omega)
        | behind n rest => exact twin_verbatim _ hspan n rest
      · simp only [hverbatim]
        exact ⟨.cons (.environmentOpened _ hspan) .nil, htwin.next⟩

/-! ### Headings and definitions -/

theorem twin_heading (start start' level : Nat)
    (h : Latex.Twin c c' v edge (skipOptions k) (skipOptions k')) :
    Twin c c' v edge (heading start level k) (heading start' level k') := by
  have hlayout := h.skipLayout hc hc'
  rcases hlayout.at_or (show '{' ≠ '%' by decide) with hat | ⟨hk, hk'⟩
  · obtain ⟨body, body', hbody, hbody'⟩ := hat.exists_rest
    obtain ⟨part, hpart, hlevel⟩ := exists_heading start level hbody
    obtain ⟨part', hpart', hlevel'⟩ := exists_heading start' level hbody'
    rw [hpart, hpart']
    exact ⟨.cons (.heading (hlevel.trans hlevel'.symm)) .nil, hlayout⟩
  · rw [heading_nothing hk, heading_nothing hk']
    exact twin_nothing h

theorem twin_definition (h : Latex.Twin c c' v edge k k') :
    Twin c c' v edge (definition k) (definition k') := by
  have hlayout := h.skipLayout hc hc'
  rcases hlayout.at_or (show '{' ≠ '%' by decide) with hat | ⟨hk, hk'⟩
  · obtain ⟨body, body', hbody, hbody'⟩ := hat.exists_rest
    obtain ⟨blanks, there, there', hthere, hblanks, hblanks'⟩ :=
      @Latex.Twin.upTo _ _ _ _ _ _ (!isAsciiBlank ·) (by decide) (by decide)
        (hat.passed (by decide) hbody hbody')
    rw [definition_brace hbody, definition_brace hbody', Cursor.bump, Cursor.bump, hbody, hbody']
    dsimp only
    rw [hblanks, hblanks']
    refine ⟨?_, h⟩
    have hrel := twin_definedName? hthere
    revert hrel
    generalize definedName? there = found
    generalize definedName? there' = found'
    rintro (⟨hname, -⟩ | _)
    · exact .cons (.definition hname) .nil
    · exact .nil
  · rw [definition_plain hk, definition_plain hk']
    have hrel := twin_definedName? hlayout
    revert hrel
    generalize definedName? (skipLayout k) = found
    generalize definedName? (skipLayout k') = found'
    rintro (⟨hname, hnext⟩ | _)
    · exact ⟨.cons (.definition hname) .nil, hnext⟩
    · exact twin_nothing h

/-- **What follows a command name tells the same in both texts**, if it does not show the
comments. -/
theorem twin_arguments {name : String} (hstart : Shifted c c' edge start start')
    (h : Latex.Twin c c' v edge k k') (hkeys : ∀ g ∈ keyGroups name k, ¬ g.Has edge)
    (hkeys' : ∀ g ∈ keyGroups name k', ¬ g.Has edge)
    (hoptions : (Harmless c ∧ Harmless c') ∨
      (Command.takesOptions name = true → Spares k edge ∧ Spares k' edge))
    (hbody : name = "begin" → ∀ g symbol, Group.named? k = some (g, symbol) →
      Command.isVerbatim symbol.name = true → edge < g.next.offset) :
    Twin c c' v edge (arguments start name k) (arguments start' name k') := by
  have hskip (htakes : Command.takesOptions name = true) :
      Latex.Twin c c' v edge (skipOptions k) (skipOptions k') :=
    h.skipOptions hc hc' (hoptions.imp_right fun hspares => hspares htakes)
  unfold keyGroups at hkeys hkeys'
  unfold arguments
  by_cases hbegin : name = "begin"
  · simp only [hbegin, true_or, if_true, Option.mem_toList] at hkeys hkeys' ⊢
    exact twin_opening hc hc' hstart h hkeys hkeys' (hbody hbegin)
  by_cases hend : name = "end"
  · simp only [hend, true_or, or_true, if_true, Option.mem_toList] at hkeys hkeys' ⊢
    exact twin_closing hc hc' hstart h hkeys hkeys'
  by_cases hlabel : name = "label"
  · simp only [hlabel, or_true, if_true, Option.mem_toList] at hkeys hkeys' ⊢
    exact twin_label hc hc' h hkeys hkeys'
  simp only [hbegin, hend, hlabel, or_self, if_false] at hkeys hkeys' ⊢
  cases hkind : Command.includeKind? name with
  | some kind =>
      simp only [hkind, Option.isSome_some, if_true, Option.mem_toList] at hkeys hkeys' ⊢
      exact twin_includes hc hc' kind (hskip (by simp [Command.takesOptions, hkind])) hkeys hkeys'
  | none =>
  simp only [hkind, Option.isSome_none, Bool.false_eq_true, if_false] at hkeys hkeys' ⊢
  by_cases hreference : Command.isLabelReference name = true
  · simp only [hreference, if_true] at hkeys hkeys' ⊢
    refine twin_references hc hc' h (fun g hg => ?_) fun g hg => ?_
    · rw [Option.mem_def.1 hg] at hkeys
      refine ⟨hkeys g List.mem_cons_self, fun hrange g₂ hg₂ => hkeys g₂ ?_⟩
      simp [hrange, Option.mem_def.1 hg₂]
    · rw [Option.mem_def.1 hg] at hkeys'
      refine ⟨hkeys' g List.mem_cons_self, fun hrange g₂ hg₂ => hkeys' g₂ ?_⟩
      simp [hrange, Option.mem_def.1 hg₂]
  simp only [hreference, Bool.false_eq_true, if_false] at hkeys hkeys' ⊢
  by_cases hcitation : Command.isCitation name = true
  · simp only [hcitation, if_true, Option.mem_toList] at hkeys hkeys' ⊢
    exact twin_citations hc hc' (hskip (by simp [Command.takesOptions, hcitation])) hkeys hkeys'
  simp only [hcitation, Bool.false_eq_true, if_false]
  cases hlevel : Command.sectionLevel? name with
  | some level =>
      exact twin_heading hc hc' start start' level (hskip (by simp [Command.takesOptions, hlevel]))
  | none =>
  by_cases hdefinition : Command.isDefinition name = true
  · simp only [hdefinition, if_true]
    exact twin_definition hc hc' h
  · simp only [hdefinition]
    exact twin_nothing h

end Groups

/-! ## A character -/

/-- A command has the same name in both texts. -/
theorem twin_commandName (h : Latex.Twin c c' v edge k k') :
    ∃ name rest rest', commandName k.rest = (name, rest) ∧ commandName k'.rest = (name, rest') ∧
      Latex.Twin c c' v edge (k.after name rest) (k'.after name rest') := by
  obtain ⟨letters, there, there', hthere, hread, hread'⟩ :=
    @Latex.Twin.upTo _ _ _ _ _ _ (!isLetter ·) (by decide) (by decide) h
  unfold Cursor.upTo at hread hread'
  cases hsplit : Cursor.split (startsWith (!isLetter ·)) k.rest with
  | mk read rest =>
  cases hsplit' : Cursor.split (startsWith (!isLetter ·)) k'.rest with
  | mk read' rest' =>
      rw [hsplit] at hread
      rw [hsplit'] at hread'
      cases hread
      cases hread'
      rcases hthere.at_or (show '*' ≠ '%' by decide) with hat | ⟨hstar, hstar'⟩
      · obtain ⟨cs, cs', hcs, hcs'⟩ := hat.exists_rest
        have hnext := hat.passed (by decide) hcs hcs'
        obtain rfl : rest = '*' :: cs := hcs
        obtain rfl : rest' = '*' :: cs' := hcs'
        refine ⟨letters ++ ['*'], cs, cs', commandName_star hsplit, commandName_star hsplit', ?_⟩
        simpa only [Cursor.after, utf8Length_append, utf8Length_cons, utf8Length_nil, Nat.add_zero,
          ← Nat.add_assoc] using hnext
      · exact ⟨letters, rest, rest', commandName_letters hsplit hstar,
          commandName_letters hsplit' hstar', hthere⟩

end Reading

/-! ## Where a comment shows -/

/-- The scan comes to a command with this name; `here` is the place behind the name. -/
def Comes (k : Cursor) (name : String) (here : Cursor) : Prop :=
  ∃ start cs rest, Visits k ⟨start, '\\' :: cs⟩ ∧ commandName cs = (name.toList, rest) ∧
    here = ⟨start + 1 + utf8Length name.toList, rest⟩

/-- A command reads keys from a group that has the offset in it. -/
def InKeys (k : Cursor) (offset : Nat) : Prop :=
  ∃ name here, Comes k name here ∧ ∃ g ∈ Reading.keyGroups name here, g.Has offset

/-- A command skips an optional argument that has the offset in it. -/
def InOption (k : Cursor) (offset : Nat) : Prop :=
  ∃ name here, Comes k name here ∧ Command.takesOptions name = true ∧
    ∃ s, Optional here s ∧ Span.Has s offset

/-- Comments at `edge` do not show: no verbatim body begins before them, no command makes keys of
them, and an optional argument does not count what is in them. -/
structure Hidden (c c' : List Char) (edge : Nat) (k k' : Cursor) : Prop where
  body : ∀ body ≤ edge, ¬ MeetsVerbatim k body
  keys : ¬ InKeys k edge
  keys' : ¬ InKeys k' edge
  options : (Harmless c ∧ Harmless c') ∨ ¬ InOption k edge ∧ ¬ InOption k' edge

variable {c c' v : List Char} {edge : Nat}

section Next

variable {offset offset' n : Nat} {d : Char} {cs cs' : List Char}

/-- What the scan comes to behind a reading, it comes to. -/
theorem Comes.next {name : String} {here : Cursor}
    (h : Comes (Reading.at offset d cs).next name here) : Comes ⟨offset, d :: cs⟩ name here := by
  obtain ⟨start, cs, rest, hvisits, hcommand⟩ := h
  exact ⟨start, cs, rest, .next hvisits, hcommand⟩

theorem InKeys.next (h : InKeys (Reading.at offset d cs).next n) :
    InKeys ⟨offset, d :: cs⟩ n := by
  obtain ⟨name, here, hcomes, hkeys⟩ := h
  exact ⟨name, here, hcomes.next, hkeys⟩

theorem InOption.next (h : InOption (Reading.at offset d cs).next n) :
    InOption ⟨offset, d :: cs⟩ n := by
  obtain ⟨name, here, hcomes, hoption⟩ := h
  exact ⟨name, here, hcomes.next, hoption⟩

/-- What is behind a reading of both texts. -/
theorem Hidden.next (h : Hidden c c' edge ⟨offset, d :: cs⟩ ⟨offset', d :: cs'⟩) :
    Hidden c c' edge (Reading.at offset d cs).next (Reading.at offset' d cs').next where
  body := fun body hbody ⟨start, cs, rest, g, symbol, hvisits, hmeets⟩ =>
    h.body body hbody ⟨start, cs, rest, g, symbol, .next hvisits, hmeets⟩
  keys := fun hkeys => h.keys hkeys.next
  keys' := fun hkeys => h.keys' hkeys.next
  options := h.options.imp_right fun hoptions =>
    ⟨fun hoption => hoptions.1 hoption.next, fun hoption => hoptions.2 hoption.next⟩

end Next

namespace Reading

variable {offset offset' : Nat} {d : Char} {cs cs' : List Char}

theorem twin_command (hc : '\n' ∉ c) (hc' : '\n' ∉ c')
    (hat : Latex.Twin.At c c' v edge '\\' ⟨offset, '\\' :: cs⟩ ⟨offset', '\\' :: cs'⟩)
    (hhidden : Hidden c c' edge ⟨offset, '\\' :: cs⟩ ⟨offset', '\\' :: cs'⟩) :
    Twin c c' v edge (Reading.at offset '\\' cs) (Reading.at offset' '\\' cs') := by
  have hstart := (hat.shifted rfl).1
  obtain ⟨cs, cs', hk, hk', hsame⟩ := hat.escape
  cases hk
  cases hk'
  rcases hsame with ⟨rfl, rfl, hnext⟩ | ⟨d, ds, ds', rfl, rfl, hsymbol, hcommand⟩
  · exact ⟨.nil, hnext⟩
  by_cases hletter : isLetter d = true
  · have hslash : d ≠ '\\' := by
      rintro rfl
      revert hletter
      decide
    obtain ⟨name, rest, rest', hname, hname', hnext⟩ := twin_commandName (hcommand hslash)
    rw [at_letters hletter hname, at_letters hletter hname']
    have hmeets : Comes ⟨offset, '\\' :: d :: ds⟩ (String.ofList name)
        ⟨offset + 1 + utf8Length name, rest⟩ :=
      ⟨offset, _, rest, .here _, by rwa [String.toList_ofList], by rw [String.toList_ofList]⟩
    have hmeets' : Comes ⟨offset', '\\' :: d :: ds'⟩ (String.ofList name)
        ⟨offset' + 1 + utf8Length name, rest'⟩ :=
      ⟨offset', _, rest', .here _, by rwa [String.toList_ofList], by rw [String.toList_ofList]⟩
    obtain ⟨hevents, hgoes⟩ := twin_arguments hc hc' hstart hnext
      (fun g hg hhas => hhidden.keys ⟨_, _, hmeets, g, hg, hhas⟩)
      (fun g hg hhas => hhidden.keys' ⟨_, _, hmeets', g, hg, hhas⟩)
      (hhidden.options.imp_right fun hoptions htakes =>
        ⟨fun s hs hhas => hoptions.1 ⟨_, _, hmeets, htakes, s, hs, hhas⟩,
          fun s hs hhas => hoptions.2 ⟨_, _, hmeets', htakes, s, hs, hhas⟩⟩)
      (by
        intro hbegin g symbol hnamed hverbatim
        by_contra hbefore
        obtain rfl : name = "begin".toList := by rw [← hbegin, String.toList_ofList]
        exact hhidden.body _ (Nat.le_of_not_lt hbefore)
          ⟨offset, _, rest, g, symbol, .here _, hname, hnamed, hverbatim, rfl⟩)
    exact ⟨.cons (.command _) hevents, hgoes⟩
  · rw [at_symbol hletter, at_symbol hletter]
    exact ⟨.nil, hsymbol⟩

/-- A line that is read over ends in front of the other comment. -/
theorem twin_comment
    (hat : Latex.Twin.At c c' v edge '%' ⟨offset, '%' :: cs⟩ ⟨offset', '%' :: cs'⟩) :
    Twin c c' v edge (Reading.at offset '%' cs) (Reading.at offset' '%' cs') := by
  rw [at_comment, at_comment]
  generalize hk : (⟨offset, '%' :: cs⟩ : Cursor) = k at hat
  generalize hk' : (⟨offset', '%' :: cs'⟩ : Cursor) = k' at hat
  cases hat with
  | behind n rest =>
      cases hk
      cases hk'
      exact ⟨.nil, Twin.behind_after (n + 1) _ _⟩
  | @before o w hw ho =>
      cases hk
      cases hk'
      obtain ⟨line, after, rfl, hline⟩ :=
        List.eq_append_cons_of_mem (hw.line w (List.suffix_refl _))
      have hsplit (d : List Char) : Cursor.upTo (startsWith (· == '\n'))
          ⟨offset + 1, line ++ '\n' :: after ++ remark d v⟩ =
          (line, ⟨offset + 1 + utf8Length line, '\n' :: after ++ remark d v⟩) := by
        rw [Cursor.upTo, List.append_assoc, Cursor.split_startsWith (fun e he => ?_) (.inr rfl)]
        · rfl
        · rw [beq_eq_false_iff_ne]
          rintro rfl
          exact hline he
      rw [hsplit, hsplit]
      refine ⟨.nil, .before ⟨fun w' hw' => ?_, ?_⟩ ?_⟩
      · exact hw.line w' (hw'.trans ((List.suffix_append line _).trans (List.suffix_cons '%' _)))
      · have hslashes := hw.slashes
        rw [← List.cons_append, escapes_append, escapes_of_break (by simp)] at hslashes
        exact hslashes
      · rw [utf8Length_append, ← Nat.add_assoc] at ho
        exact ho

/-- The comments themselves are read over. -/
theorem twin_remark (hc : '\n' ∉ c) (hc' : '\n' ∉ c') :
    Twin c c' v edge (Reading.at edge '%' (c ++ '\n' :: v))
      (Reading.at edge '%' (c' ++ '\n' :: v)) := by
  have hsplit (d : List Char) (hd : '\n' ∉ d) : Cursor.upTo (startsWith (· == '\n'))
      ⟨edge + 1, d ++ '\n' :: v⟩ = (d, ⟨edge + 1 + utf8Length d, '\n' :: v⟩) := by
    rw [Cursor.upTo, Cursor.split_startsWith (fun e he => ?_) (.inr rfl)]
    · rfl
    · rw [beq_eq_false_iff_ne]
      rintro rfl
      exact hd he
  rw [at_comment, at_comment, hsplit c hc, hsplit c' hc']
  exact ⟨.nil, .behind 0 _⟩

/-- **What a character begins tells the same in both texts.** -/
theorem twin_at (hc : '\n' ∉ c) (hc' : '\n' ∉ c')
    (hat : Latex.Twin.At c c' v edge d ⟨offset, d :: cs⟩ ⟨offset', d :: cs'⟩)
    (hhidden : Hidden c c' edge ⟨offset, d :: cs⟩ ⟨offset', d :: cs'⟩) :
    Twin c c' v edge (Reading.at offset d cs) (Reading.at offset' d cs') := by
  by_cases hslash : d = '\\'
  · subst hslash
    exact twin_command hc hc' hat hhidden
  by_cases hpercent : d = '%'
  · subst hpercent
    exact twin_comment hat
  have hnext := hat.passed hslash rfl rfl
  by_cases hopen : d = '{'
  · subst hopen
    obtain ⟨hstart, hstop⟩ := hat.shifted rfl
    exact ⟨.cons (.braceOpened hstart hstop) .nil, hnext⟩
  by_cases hclose : d = '}'
  · subst hclose
    obtain ⟨hstart, hstop⟩ := hat.shifted rfl
    exact ⟨.cons (.braceClosed hstart hstop) .nil, hnext⟩
  · have hother : d ∉ ['\\', '%', '{', '}'] := by simp [hslash, hpercent, hopen, hclose]
    rw [at_other hother, at_other hother]
    exact ⟨.nil, hnext⟩

end Reading

/-! ## The scan -/

/-- **Scans of texts that differ in a comment tell the same.** -/
theorem alike_scan (hc : '\n' ∉ c) (hc' : '\n' ∉ c') {k k' : Cursor} (h : Twin c c' v edge k k')
    (hhidden : Hidden c c' edge k k') :
    List.Forall₂ (Event.Alike (Shifted c c' edge)) (scan k) (scan k') := by
  induction k using scan_induction generalizing k' with
  | nil offset =>
      generalize hk : (⟨offset, []⟩ : Cursor) = k at h
      cases h with
      | @before o w _ _ => exact absurd (congrArg Cursor.rest hk).symm (by simp [remark])
      | behind n rest =>
          cases hk
          rw [scan_nil, scan_nil]
          exact .nil
  | cons offset d cs ih =>
      -- the same character begins the same reading, and the scans go on behind it
      have step {offset' : Nat} {cs' : List Char}
          (hhidden : Hidden c c' edge ⟨offset, d :: cs⟩ ⟨offset', d :: cs'⟩)
          (hat : Reading.Twin c c' v edge (Reading.at offset d cs) (Reading.at offset' d cs')) :
          List.Forall₂ (Event.Alike (Shifted c c' edge)) (scan ⟨offset, d :: cs⟩)
            (scan ⟨offset', d :: cs'⟩) := by
        rw [scan_cons, scan_cons]
        exact List.rel_append hat.events (ih hat.next hhidden.next)
      generalize hk : (⟨offset, d :: cs⟩ : Cursor) = k at h
      cases h with
      | behind n rest =>
          cases hk
          exact step hhidden (Reading.twin_at hc hc' (.behind n cs) hhidden)
      | @before o w hw ho =>
          cases w with
          | nil =>
              cases hk
              obtain rfl : offset = edge := ho
              exact step hhidden (Reading.twin_remark hc hc')
          | cons e w =>
              cases hk
              rw [utf8Length_cons, ← Nat.add_assoc] at ho
              exact step hhidden (Reading.twin_at hc hc' (.before hw ho) hhidden)

/-! ## The structure -/

/-- What a structure tells, without where it stands and without what commands are used. -/
structure Outline where
  includes : List (IncludeKind × String)
  labelDefinitions : List String
  labelReferences : List String
  citations : List String
  levels : List Nat
  environments : List String
  commandDefinitions : List String
  codes : List (Option String)
deriving DecidableEq, Repr

def Structure.outline (s : Structure) : Outline where
  includes := s.includes.map fun i => (i.kind, i.path)
  labelDefinitions := s.labelDefinitions.map Symbol.name
  labelReferences := s.labelReferences.map Symbol.name
  citations := s.citations.map Symbol.name
  levels := s.sections.map Section.level
  environments := s.environments.map Environment.name
  commandDefinitions := s.commandDefinitions.map Symbol.name
  codes := s.diagnostics.map Diagnostic.code

theorem Shifted.lt_iff {a a' b b' : Nat} (ha : Shifted c c' edge a a')
    (hb : Shifted c c' edge b b') : a < b ↔ a' < b' := by
  rcases ha with ⟨rfl, ha⟩ | ⟨d, rfl, rfl⟩ <;> rcases hb with ⟨rfl, hb⟩ | ⟨n, rfl, rfl⟩ <;> omega

theorem Shifted.eq_iff {a a' b b' : Nat} (ha : Shifted c c' edge a a')
    (hb : Shifted c c' edge b b') : a = b ↔ a' = b' := by
  rcases ha with ⟨rfl, ha⟩ | ⟨d, rfl, rfl⟩ <;> rcases hb with ⟨rfl, hb⟩ | ⟨n, rfl, rfl⟩ <;> omega

/-- Problems are in the same order in both texts. -/
theorem atOrBefore_shifted {a a' b b' : Diagnostic}
    (ha : DiagnosticRespelt (Shifted c c' edge) a a')
    (hb : DiagnosticRespelt (Shifted c c' edge) b b') : a.atOrBefore b = a'.atOrBefore b' := by
  have hlt := ha.span.1.lt_iff hb.span.1
  have heq := ha.span.1.eq_iff hb.span.1
  have hle := hb.span.2.lt_iff ha.span.2
  rw [Bool.eq_iff_iff]
  simp only [Diagnostic.atOrBefore, Bool.or_eq_true, Bool.and_eq_true, decide_eq_true_eq,
    beq_iff_eq]
  omega

/-- What related elements tell alike, the lists tell alike. -/
theorem map_filterMap_eq {α β : Type} {es es' : List Event}
    (h : List.Forall₂ (Event.Alike same) es es') {f : Event → Option α} {tell : α → β}
    (hf : ∀ e e', e.Alike same e' → (f e).map tell = (f e').map tell) :
    (es.filterMap f).map tell = (es'.filterMap f).map tell := by
  rw [List.map_filterMap, List.map_filterMap]
  induction h with
  | nil => rfl
  | cons he _ ih => rw [List.filterMap_cons, List.filterMap_cons, hf _ _ he, ih]

theorem outline_ofEvents {es es' : List Event}
    (h : List.Forall₂ (Event.Alike (Shifted c c' edge)) es es') :
    (Structure.ofEvents es).outline = (Structure.ofEvents es').outline := by
  have hstart : Pending.start.Respelt (Shifted c c' edge) Pending.start :=
    ⟨.nil, .nil, rfl, .nil⟩
  have hpending := hstart.foldl_alike h
  have hcodes : List.Forall₂ (DiagnosticRespelt (Shifted c c' edge))
      (Structure.ofEvents es).diagnostics (Structure.ofEvents es').diagnostics :=
    @forall₂_mergeSort _ _ (DiagnosticRespelt (Shifted c c' edge)) _ _
      (fun _ _ _ _ ha hb => atOrBefore_shifted ha hb) _ _ hpending.finish
  simp only [Structure.outline, Outline.mk.injEq]
  refine ⟨?_, ?_, ?_, ?_, ?_, hpending.matched, ?_, ?_⟩
  · refine map_filterMap_eq h fun e e' he => ?_
    cases he with
    | inclusion hkind hpath => simp [Event.inclusion?, hkind, hpath]
    | _ => rfl
  · refine map_filterMap_eq h fun e e' he => ?_
    cases he with
    | label hname => simp [Event.label?, hname]
    | _ => rfl
  · refine map_filterMap_eq h fun e e' he => ?_
    cases he with
    | reference hname => simp [Event.reference?, hname]
    | _ => rfl
  · refine map_filterMap_eq h fun e e' he => ?_
    cases he with
    | citation hname => simp [Event.citation?, hname]
    | _ => rfl
  · refine map_filterMap_eq h fun e e' he => ?_
    cases he with
    | heading hlevel => simp [Event.heading?, hlevel]
    | _ => rfl
  · refine map_filterMap_eq h fun e e' he => ?_
    cases he with
    | definition hname => simp [Event.definition?, hname]
    | _ => rfl
  · rw [← List.forall₂_eq_eq_eq]
    exact List.rel_map (fun _ _ hd => hd.code) hcodes

/-- **A comment does not show in the outline of a text**, unless it stands where text is read as
it stands: in a key group of a command or in a verbatim body, or, with a bracket, a brace or a
backslash, in an optional argument. -/
theorem outline_remark (u c c' v : String) (hc : '\n' ∉ c.toList) (hc' : '\n' ∉ c'.toList)
    (hline : '%' ∉ u.toList.reverse.takeWhile (· ≠ '\n'))
    (hslashes : (u.toList.reverse.takeWhile (· = '\\')).length % 2 = 0)
    (hhidden : Hidden c.toList c'.toList (utf8Length u.toList)
      (.ofString (u ++ "%" ++ c ++ "\n" ++ v)) (.ofString (u ++ "%" ++ c' ++ "\n" ++ v))) :
    (analyze (u ++ "%" ++ c ++ "\n" ++ v)).outline =
      (analyze (u ++ "%" ++ c' ++ "\n" ++ v)).outline := by
  have htext (c : String) : Cursor.ofString (u ++ "%" ++ c ++ "\n" ++ v) =
      ⟨0, u.toList ++ remark c.toList v.toList⟩ := by
    simp [Cursor.ofString, remark]
  have htwin : Twin c.toList c'.toList v.toList (utf8Length u.toList)
      (.ofString (u ++ "%" ++ c ++ "\n" ++ v)) (.ofString (u ++ "%" ++ c' ++ "\n" ++ v)) := by
    rw [htext, htext]
    exact .before (trails_of_lastLine hline hslashes) (Nat.zero_add _)
  exact outline_ofEvents (alike_scan hc hc' htwin hhidden)

/-- The scan of a text that is one command comes to that command. -/
theorem comes_command {text : String} {cs letters rest : List Char} {stop : Nat} {name : String}
    {here : Cursor} (htext : text.toList = '\\' :: cs)
    (hnext : (Reading.at 0 '\\' cs).next = ⟨stop, []⟩) (hname : commandName cs = (letters, rest))
    (h : Comes (.ofString text) name here) :
    name = String.ofList letters ∧ here = ⟨0 + 1 + utf8Length letters, rest⟩ := by
  obtain ⟨start, cs', rest', hvisits, hname', rfl⟩ := h
  obtain ⟨rfl, rfl⟩ := visits_command htext hnext hvisits
  obtain ⟨rfl, rfl⟩ := Prod.mk.inj (hname.symm.trans hname')
  exact ⟨String.ofList_toList.symm, rfl⟩

theorem not_optional {k : Cursor} (h : option? k = none) (s : Span) : ¬ Optional k s := by
  rintro (hfirst | ⟨hlater, -⟩)
  · rw [h] at hfirst
    cases hfirst
  · rw [h] at hlater
    cases hlater

instance (s : Span) (offset : Nat) : Decidable (Span.Has s offset) :=
  inferInstanceAs (Decidable (_ ∧ _))

instance (g : Group) (offset : Nat) : Decidable (g.Has offset) :=
  inferInstanceAs (Decidable (Span.Has _ _))

/-- A bracket in a comment in front of a key group. -/
theorem outline_remark_cite :
    let text := fun c => "\\cite " ++ "%" ++ c ++ "\n" ++ "\x7ba\x7d"
    '\n' ∉ " one".toList ∧ '\n' ∉ "]".toList ∧
      '%' ∉ "\\cite ".toList.reverse.takeWhile (· ≠ '\n') ∧
      ("\\cite ".toList.reverse.takeWhile (· = '\\')).length % 2 = 0 ∧
      Hidden " one".toList "]".toList (utf8Length "\\cite ".toList) (.ofString (text " one"))
        (.ofString (text "]")) ∧
      (analyze (text " one")).outline = (analyze (text "]")).outline := by
  intro text
  have hcommand (c : String) (hc : c = " one" ∨ c = "]") : ∃ cs rest stop,
      (text c).toList = '\\' :: cs ∧ (Reading.at 0 '\\' cs).next = ⟨stop, []⟩ ∧
      commandName cs = ("cite".toList, rest) ∧
      (∀ g ∈ Reading.keyGroups "cite" ⟨0 + 1 + utf8Length "cite".toList, rest⟩, ¬ g.Has 6) ∧
      option? ⟨0 + 1 + utf8Length "cite".toList, rest⟩ = none := by
    rcases hc with rfl | rfl
    · exact ⟨"cite % one\n\x7ba\x7d".toList, " % one\n\x7ba\x7d".toList, 15, by decide,
        by decide +kernel, by decide, by decide +kernel, by decide +kernel⟩
    · exact ⟨"cite %]\n\x7ba\x7d".toList, " %]\n\x7ba\x7d".toList, 12, by decide,
        by decide +kernel, by decide, by decide +kernel, by decide +kernel⟩
  have hkeys (c : String) (hc : c = " one" ∨ c = "]") : ¬ InKeys (.ofString (text c)) 6 := by
    obtain ⟨cs, rest, stop, htext, hnext, hname, hgroups, -⟩ := hcommand c hc
    rintro ⟨name, here, hcomes, g, hg, hhas⟩
    obtain ⟨rfl, rfl⟩ := comes_command htext hnext hname hcomes
    exact hgroups g hg hhas
  have hoptions (c : String) (hc : c = " one" ∨ c = "]") : ¬ InOption (.ofString (text c)) 6 := by
    obtain ⟨cs, rest, stop, htext, hnext, hname, -, hoption⟩ := hcommand c hc
    rintro ⟨name, here, hcomes, -, s, hs, -⟩
    obtain ⟨rfl, rfl⟩ := comes_command htext hnext hname hcomes
    exact not_optional hoption s hs
  have hbody : ∀ body ≤ 6, ¬ MeetsVerbatim (.ofString (text " one")) body := by
    obtain ⟨cs, rest, stop, htext, hnext, hname, -⟩ := hcommand " one" (.inl rfl)
    exact fun body _ => not_meetsVerbatim_command htext hnext
      (by rw [hname]; show "cite".toList ≠ "begin".toList; decide) body
  have hhidden : Hidden " one".toList "]".toList (utf8Length "\\cite ".toList)
      (.ofString (text " one")) (.ofString (text "]")) :=
    ⟨hbody, hkeys _ (.inl rfl), hkeys _ (.inr rfl),
      .inr ⟨hoptions _ (.inl rfl), hoptions _ (.inr rfl)⟩⟩
  exact ⟨by decide, by decide, by decide, by decide, hhidden,
    outline_remark "\\cite " " one" "]" "\x7ba\x7d" (by decide) (by decide) (by decide) (by decide)
      hhidden⟩

/-- Comments between keys become keys, and a bracket in a comment ends an optional argument. -/
theorem outline_remark_shows :
    (analyze "\\cite\x7ba,%x\nb\x7d").outline ≠ (analyze "\\cite\x7ba,%y\nb\x7d").outline ∧
      (analyze "\\cite[%]\n]\x7ba\x7d").outline ≠
        (analyze "\\cite[%\n]\x7ba\x7d").outline := by
  constructor <;> decide +kernel

end Manuscript.Latex

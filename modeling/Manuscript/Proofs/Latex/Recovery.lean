/-
# Manuscript.Proofs.Latex.Recovery -- a half typed key group does not hide what follows

While a key is being typed its group is not closed, and the next closing brace belongs to
something else.  A reader gives such a group up (`Interrupted`): at a blank line, whatever
follows it, and at a command, if the text from there on closes no group that it has not
opened.  The keys are those typed so far, the missing brace is one problem, and the scan goes
on in front of the text that follows (`scan_typed`).

So what follows is read as if it stood alone, and what is found there comes behind the keys
(`analyze_typed`).
-/
import Manuscript.Proofs.Latex.Balance
import Manuscript.Proofs.Latex.MarkupReading
import Manuscript.Proofs.Latex.Shift

namespace Manuscript.Latex

set_option autoImplicit false

open Text Markup

/-! ## Groups that nothing closes -/

/-- The braces of a text that open and close groups: neither escaped nor in a comment. -/
def groupBraces (mode : Mode) : List Char → List Char
  | [] => []
  | c :: cs =>
      if mode = .plain ∧ (c = '{' ∨ c = '}') then c :: groupBraces (mode.next c) cs
      else groupBraces (mode.next c) cs

/-- A group is not closed where no brace closes more groups than are open. -/
theorem untilClosing?_eq_none_iff (depth : Nat) (mode : Mode) (cs : List Char) :
    untilClosing? depth mode cs = none ↔ (depth? depth (groupBraces mode cs)).isSome := by
  induction cs generalizing depth mode with
  | nil => simp [untilClosing?, groupBraces]
  | cons c cs ih =>
      unfold untilClosing? groupBraces
      by_cases hopen : mode = .plain ∧ c = '{'
      · obtain ⟨rfl, rfl⟩ := hopen
        simp [ih]
      by_cases hclose : mode = .plain ∧ c = '}'
      · obtain ⟨rfl, rfl⟩ := hclose
        cases depth with
        | zero => simp [depth?]
        | succ depth => simp [ih]
      · have hneither : ¬ (mode = .plain ∧ (c = '{' ∨ c = '}')) := by tauto
        simp [hopen, hclose, hneither, ih]

/-- Keys open and close nothing, and a line break ends a comment. -/
theorem groupBraces_keys {keys : List Char} (h : ∀ c ∈ keys, isKey c = true) {mode : Mode}
    (hmode : mode ≠ .escaped) (rest : List Char) :
    groupBraces mode (keys ++ '\n' :: rest) = groupBraces .plain rest := by
  induction keys generalizing mode with
  | nil => cases mode <;> rfl
  | cons c keys ih =>
      have hc := h c List.mem_cons_self
      simp only [isKey, List.mem_cons, List.not_mem_nil, or_false, not_or,
        decide_eq_true_eq] at hc
      have hnext : mode.next c ≠ .escaped := by
        unfold Mode.next
        split <;> simp_all
      rw [List.cons_append, groupBraces, if_neg (by tauto)]
      exact ih (fun d hd => h d (List.mem_cons_of_mem c hd)) hnext

/-- What makes a reader give up a key group that is typed up to here. -/
inductive Interrupted : (gap rest : List Char) → Prop where
  | blankLine (rest : List Char) : Interrupted ['\n', '\n'] rest
  | command {rest : List Char} : Unclosing (groupBraces .plain ('\\' :: rest)) →
      Interrupted ['\n'] ('\\' :: rest)

/-- The group is given up in front of what follows, with line breaks behind its keys at most. -/
theorem Interrupted.ofBody {gap rest keys : List Char} (h : Interrupted gap rest)
    (hkeys : ∀ c ∈ keys, isKey c = true) (brace : Nat) :
    ∃ blanks left, gap = blanks ++ left ∧ (∀ c ∈ gap, c = '\n') ∧
      Group.ofBody brace (keys ++ (gap ++ rest)) =
        .abandoned brace (keys ++ blanks) (left ++ rest) := by
  have hplain : ∀ c cs, c :: cs <:+ keys → ∀ more, endsPlain (c :: (cs ++ more)) = false := by
    intro c cs hc more
    have hkey := hkeys c (hc.subset List.mem_cons_self)
    simp only [isKey, List.mem_cons, List.not_mem_nil, or_false, not_or,
      decide_eq_true_eq] at hkey
    simp [endsPlain, hkey]
  cases h with
  | blankLine =>
      refine ⟨[], ['\n', '\n'], rfl, by simp, ?_⟩
      rw [List.append_nil]
      exact Group.ofBody_line (Cursor.split_of_forall
        (fun c cs hc => hplain c cs hc _) (Or.inr rfl))
  | @command rest hunclosing =>
      refine ⟨['\n'], [], rfl, by simp, ?_⟩
      have hsplit : Cursor.split endsPlain (keys ++ (['\n'] ++ '\\' :: rest)) =
          (keys ++ ['\n'], '\\' :: rest) :=
        Cursor.split_append_of_forall fun c cs hc => hplain c cs hc _
      have hclosing : untilClosing? 0 .plain (keys ++ (['\n'] ++ '\\' :: rest)) = none := by
        rw [untilClosing?_eq_none_iff, List.singleton_append,
          groupBraces_keys hkeys (show Mode.plain ≠ .escaped by decide)]
        exact unclosing_iff.1 hunclosing
      rw [Group.ofBody_nested hsplit (by decide) (by decide), Group.balanced?_none hclosing]
      rfl

/-! ## The keys typed so far -/

/-- Blanks behind a name are cut off. -/
theorem trimmed?_append_blanks {blanks : List Char} (h : AllBlank isBlank blanks) (offset : Nat)
    (content : List Char) :
    Symbol.trimmed? offset (content ++ blanks) = Symbol.trimmed? offset content := by
  by_cases hcontent : trim content = []
  · have hblank (cs : List Char) (hcs : AllBlank isBlank cs) : trim cs = [] := by
      rw [trim, trimStart, List.dropWhile_eq_nil_iff.2 hcs]
      rfl
    obtain ⟨right, hparts, hleft, hright, -⟩ := exists_trim content
    rw [hcontent, List.nil_append] at hparts
    have hall : AllBlank isBlank (content ++ blanks) := by
      rw [hparts]
      exact List.forall_mem_append.2 ⟨List.forall_mem_append.2 ⟨hleft, hright⟩, h⟩
    rw [trimmed?_of_nil hcontent, trimmed?_of_nil (hblank _ hall)]
  · obtain ⟨left, name, right, rfl, hleft, hright, hname⟩ := exists_solid hcontent
    have hblanks : AllBlank isBlank (right ++ blanks) := List.forall_mem_append.2 ⟨hright, h⟩
    rw [List.append_assoc, List.append_assoc, trimmed?_of_solid hleft hname hright,
      trimmed?_of_solid hleft hname hblanks]

/-- Blanks behind the last key are cut off. -/
theorem namesFrom_append_blanks {blanks : List Char} (h : AllBlank isBlank blanks) (offset : Nat)
    (content : List Char) :
    namesFrom offset (betweenCommas (content ++ blanks)) =
      namesFrom offset (betweenCommas content) := by
  have hcomma : ',' ∉ blanks := fun hmem => absurd (h ',' hmem) (by decide)
  induction content using betweenCommas_induction generalizing offset with
  | last s hs =>
      rw [betweenCommas_last hs, betweenCommas_last (by simp [hs, hcomma]), namesFrom, namesFrom,
        trimmed?_append_blanks h]
      rfl
  | more s cs hs ih =>
      rw [List.append_assoc, List.cons_append, betweenCommas_append hs, betweenCommas_append hs,
        namesFrom, namesFrom, ih]

/-- The commands whose argument is one group of keys. -/
def Command.takesKeys (command : String) : Bool :=
  command = "label" || (isLabelReference command && !isLabelRange command) ||
    isCitation command || (includeKind? command).isSome

/-- What a group of keys comes to: events that open and close nothing, and do not tell the blanks
behind the last key. -/
structure KeyEvents (names : Nat → List Char → List Event) : Prop where
  still : ∀ offset content, ∀ e ∈ names offset content, ∀ p : Pending, p.step e = p
  quiet : ∀ offset content, (names offset content).filterMap Event.command? = []
  blanks : ∀ {blanks}, AllBlank isBlank blanks → ∀ offset content,
    names offset (content ++ blanks) = names offset content

theorem KeyEvents.of_symbols {symbols : Nat → List Char → List Symbol} {event : Symbol → Event}
    (hstill : ∀ s, ∀ p : Pending, p.step (event s) = p) (hquiet : ∀ s, (event s).command? = none)
    (hblanks : ∀ {blanks}, AllBlank isBlank blanks → ∀ offset content,
      symbols offset (content ++ blanks) = symbols offset content) :
    KeyEvents fun offset content => (symbols offset content).map event where
  still _ _ := List.forall_mem_map.2 fun s _ => hstill s
  quiet _ _ := by
    rw [List.filterMap_map, List.filterMap_eq_nil_iff]
    exact fun s _ => hquiet s
  blanks h offset content := by rw [hblanks h]

theorem keyEvents_label :
    KeyEvents fun offset content => (Symbol.trimmed? offset content).toList.map .label :=
  @KeyEvents.of_symbols (fun offset content => (Symbol.trimmed? offset content).toList) .label
    (fun _ _ => rfl) (fun _ => rfl) fun h offset content => by rw [trimmed?_append_blanks h]

theorem keyEvents_names {event : Symbol → Event} (hstill : ∀ s, ∀ p : Pending, p.step (event s) = p)
    (hquiet : ∀ s, (event s).command? = none) :
    KeyEvents fun offset content => (namesFrom offset (betweenCommas content)).map event :=
  @KeyEvents.of_symbols (fun offset content => namesFrom offset (betweenCommas content)) event
    hstill hquiet namesFrom_append_blanks

theorem keyEvents_citations :
    KeyEvents fun offset content =>
      ((namesFrom offset (betweenCommas content)).filter (·.name ≠ "*")).map .citation :=
  @KeyEvents.of_symbols
    (fun offset content => (namesFrom offset (betweenCommas content)).filter (·.name ≠ "*"))
    .citation (fun _ _ => rfl) (fun _ => rfl) fun h offset content => by
      rw [namesFrom_append_blanks h]

/-- The argument of such a command is read as a group of keys. -/
theorem exists_keyEvents {command : String} (h : Command.takesKeys command = true) :
    isCommandName command.toList = true ∧ ∃ names, KeyEvents names ∧ ∀ start offset body,
      Reading.arguments start command ⟨offset, '{' :: body⟩ =
        .group names (fun _ _ k => .nothing k) start ⟨offset, '{' :: body⟩ := by
  have hoptions (offset : Nat) (body : List Char) :
      skipOptions ⟨offset, '{' :: body⟩ = ⟨offset, '{' :: body⟩ :=
    skipOptions_of_none (option?_nothing fun inside h => by cases (List.cons.inj h).1)
  simp only [Command.takesKeys, Bool.or_eq_true, decide_eq_true_eq, Bool.and_eq_true,
    Bool.not_eq_true'] at h
  rcases h with ((rfl | ⟨hreference, hrange⟩) | hcitation) | hinclude
  · refine ⟨by decide, _, keyEvents_label, fun start offset body => ?_⟩
    rw [← Reading.label_eq start]
    rfl
  · obtain ⟨hlisted, -⟩ := isListed_known.1 command (of_decide_eq_true hreference)
    refine ⟨isCommandName_of_isListed hlisted, _,
      @keyEvents_names .reference (fun _ _ => rfl) fun _ => rfl, fun start offset body => ?_⟩
    rw [arguments_reference (of_decide_eq_true hreference), hrange]
    exact Reading.references_eq false start _
  · obtain ⟨hlisted, hkind, hreference⟩ := isListed_known.2.1 command (of_decide_eq_true hcitation)
    refine ⟨isCommandName_of_isListed hlisted, _, keyEvents_citations, fun start offset body => ?_⟩
    simp only [arguments_of_isListed hlisted, hkind, hreference, hcitation, if_true,
      Bool.false_eq_true, if_false]
    exact (Reading.citations_eq start _).trans (by rw [hoptions])
  · obtain ⟨kind, hkind⟩ := Option.isSome_iff_exists.1 hinclude
    have hcommand : command ∈ kind.commands := by
      simpa using List.find?_some (show IncludeKind.all.find? _ = some kind from hkind)
    obtain ⟨hlisted, -⟩ :=
      isListed_known.2.2.1 kind (List.mem_of_find?_eq_some hkind) command hcommand
    refine ⟨isCommandName_of_isListed hlisted, _,
      @keyEvents_names (fun path => .inclusion ⟨kind, path.name, path.span⟩) (fun _ _ => rfl)
        fun _ => rfl, fun start offset body => ?_⟩
    simp only [arguments_of_isListed hlisted, hkind]
    exact (Reading.includes_eq kind start _).trans (by rw [hoptions])

/-! ## Scanning on -/

/-- A command with its group, as far as it is typed. -/
def typed (command : String) (keys : List Char) : List Char := called command ++ '{' :: keys

theorem scan_breaks {left : List Char} (h : ∀ c ∈ left, c = '\n') (offset : Nat)
    (rest : List Char) :
    scan ⟨offset, left ++ rest⟩ = scan ⟨offset + utf8Length left, rest⟩ := by
  induction left generalizing offset with
  | nil => rfl
  | cons c left ih =>
      rw [h c List.mem_cons_self, List.cons_append, scan_prose (by decide),
        ih fun d hd => h d (List.mem_cons_of_mem c hd), utf8Length_cons, Nat.add_assoc]

/-- A command and its group of keys. -/
theorem scan_keyGroup {command : String} (hname : isCommandName command.toList = true)
    {names : Nat → List Char → List Event}
    (hnames : ∀ start offset body, Reading.arguments start command ⟨offset, '{' :: body⟩ =
      .group names (fun _ _ k => .nothing k) start ⟨offset, '{' :: body⟩)
    {body : List Char} {g : Group} (hbody : Group.ofBody (utf8Length (called command)) body = g) :
    scan ⟨0, called command ++ '{' :: body⟩ =
      .command (Command.bare command) ::
        (g.faults ++ (names g.inside g.content ++ scan g.next)) := by
  have hread : Group.read? ⟨utf8Length (called command), '{' :: body⟩ = some g := by
    rw [Group.read?_brace rfl]
    exact congrArg some hbody
  rw [scan_called hname ⟨'{', body, rfl, by decide, by decide⟩, Nat.zero_add, hnames,
    Reading.group_of_read? hread]
  simp [Reading.nothing]

/-- **The scan goes on in front of what follows**, behind the keys and the missing brace. -/
theorem scan_typed {command : String} (h : Command.takesKeys command = true) :
    ∃ names, KeyEvents names ∧ ∀ {keys}, (∀ c ∈ keys, isKey c = true) →
      let brace := utf8Length (called command)
      (∀ {gap rest}, Interrupted gap rest → scan ⟨0, typed command keys ++ (gap ++ rest)⟩ =
        .command (Command.bare command) :: .fault (missingBrace brace) ::
          (names (brace + 1) keys ++ scan ⟨utf8Length (typed command keys ++ gap), rest⟩)) ∧
      scan ⟨0, called command ++ braced keys⟩ =
        .command (Command.bare command) :: names (brace + 1) keys := by
  obtain ⟨hname, names, hnames, harguments⟩ := exists_keyEvents h
  refine ⟨names, hnames, fun {keys} hkeys => ⟨fun {gap rest} hgap => ?_, ?_⟩⟩
  · obtain ⟨blanks, left, rfl, hbreaks, hbody⟩ := hgap.ofBody hkeys (utf8Length (called command))
    rw [List.forall_mem_append] at hbreaks
    have hblank : AllBlank isBlank blanks := fun c hc => by rw [hbreaks.1 c hc]; decide
    have htext : typed command keys ++ (blanks ++ left ++ rest) =
        called command ++ '{' :: (keys ++ (blanks ++ left ++ rest)) := by simp [typed]
    have hnext : utf8Length (called command) + 1 + utf8Length (keys ++ blanks) + utf8Length left =
        utf8Length (typed command keys ++ (blanks ++ left)) := by
      simp [typed, Char.utf8Size]
      omega
    rw [htext, scan_keyGroup hname harguments hbody]
    show _ :: _ :: (names _ (keys ++ blanks) ++ scan ⟨_, left ++ rest⟩) = _
    rw [hnames.blanks hblank, scan_breaks hbreaks.2, hnext]
    rfl
  · rw [braced, scan_keyGroup hname harguments (ofBody_keys hkeys _ [])]
    show _ :: ([] ++ (names _ keys ++ scan ⟨_, []⟩)) = _
    rw [scan_nil, List.append_nil]
    rfl

/-! ## What is found -/

namespace Pending

/-- What is open, with problems that were found before. -/
def after (found : List Diagnostic) (p : Pending) : Pending :=
  { p with diagnostics := found ++ p.diagnostics }

theorem step_after (found : List Diagnostic) (p : Pending) (e : Event) :
    (p.after found).step e = (p.step e).after found := by
  obtain ⟨braces, environments, matched, diagnostics⟩ := p
  cases e with
  | braceClosed offset => cases braces <;> simp [step, after]
  | environmentClosed name span =>
      simp only [step, close, after]
      split <;> simp
  | fault _ => simp [step, after]
  | _ => rfl

theorem foldl_after (found : List Diagnostic) (events : List Event) (p : Pending) :
    events.foldl step (p.after found) = (events.foldl step p).after found := by
  induction events generalizing p with
  | nil => rfl
  | cons e events ih => rw [List.foldl_cons, List.foldl_cons, step_after, ih]

theorem finish_after (found : List Diagnostic) (p : Pending) :
    (p.after found).finish = found ++ p.finish := by
  simp [finish, after]

end Pending

/-- Events that leave nothing open and match nothing, and then others. -/
theorem ofEvents_append {first : List Event} {found : List Diagnostic}
    (h : first.foldl Pending.step .start = Pending.start.after found) (more : List Event) :
    Structure.ofEvents (first ++ more) =
      { gathered first [] ++ Structure.ofEvents more with
        commands := ((first ++ more).filterMap Event.command?).eraseDups
        diagnostics := Diagnostic.sorted (found ++ (more.foldl Pending.step .start).finish) } := by
  unfold Structure.ofEvents
  dsimp only
  rw [List.foldl_append, h, Pending.foldl_after, Pending.finish_after]
  simp only [List.filterMap_append]
  rfl

/-! ## Commands -/

theorem filter_eraseDups (p : String → Bool) (names : List String) :
    names.eraseDups.filter p = (names.filter p).eraseDups := by
  induction names using eraseDups_induction with
  | nil => rfl
  | cons name names ih =>
      rw [List.filter_comm] at ih
      rw [List.eraseDups_cons]
      by_cases hname : p name = true
      · rw [List.filter_cons_of_pos hname, List.filter_cons_of_pos hname, List.eraseDups_cons, ih]
      · have hother : (names.filter p).filter (fun other => !other == name) = names.filter p := by
          refine List.filter_eq_self.2 fun other hmem => ?_
          have hne : other ≠ name := fun heq => hname (heq ▸ (List.mem_filter.1 hmem).2)
          simpa using hne
        rw [List.filter_cons_of_neg hname, List.filter_cons_of_neg hname, ih, hother]

theorem eraseDups_eraseDups (names : List String) :
    names.eraseDups.eraseDups = names.eraseDups := by
  induction names using eraseDups_induction with
  | nil => rfl
  | cons name names ih =>
      rw [List.eraseDups_cons, List.eraseDups_cons, filter_eraseDups, List.filter_filter]
      simp only [Bool.and_self, ih]

/-- A command in front of those of another text. -/
theorem eraseDups_cons_eraseDups (name : String) (names : List String) :
    (name :: names.eraseDups).eraseDups = (name :: names).eraseDups := by
  rw [List.eraseDups_cons, List.eraseDups_cons, filter_eraseDups, eraseDups_eraseDups]

/-! ## The whole text -/

/-- A command whose group is given up, and what follows it. -/
theorem ofEvents_givenUp {names more : List Event} (hstill : ∀ e ∈ names, ∀ p : Pending, p.step e = p)
    (hquiet : names.filterMap Event.command? = []) (command : String) {d : Diagnostic}
    (hfirst : ∀ e ∈ (Structure.ofEvents more).diagnostics, d.atOrBefore e = true) :
    Structure.ofEvents (.command command :: .fault d :: (names ++ more)) =
      { gathered (.command command :: names) [] ++ Structure.ofEvents more with
        commands := (command :: (Structure.ofEvents more).commands).eraseDups
        diagnostics := d :: (Structure.ofEvents more).diagnostics } := by
  have hopen : (.command command :: .fault d :: names : List Event).foldl Pending.step .start =
      Pending.start.after [d] :=
    List.foldlRecOn names Pending.step (motive := fun p => p = Pending.start.after [d]) rfl
      fun p hp e he => by rw [hstill e he, hp]
  have hcommands : ((.command command :: .fault d :: names) ++ more).filterMap Event.command? =
      command :: more.filterMap Event.command? := by
    rw [List.filterMap_append, List.filterMap_cons, List.filterMap_cons, hquiet]
    rfl
  have hsorted : Diagnostic.sorted ([d] ++ (more.foldl Pending.step .start).finish) =
      d :: (Structure.ofEvents more).diagnostics :=
    Diagnostic.sorted_cons fun e he => hfirst e (List.mem_mergeSort.2 he)
  have hdistinct : (command :: more.filterMap Event.command?).eraseDups =
      (command :: (Structure.ofEvents more).commands).eraseDups :=
    (eraseDups_cons_eraseDups command _).symm
  have hwhole := ofEvents_append hopen more
  rw [hcommands, hsorted, hdistinct] at hwhole
  exact hwhole

/-- **A half typed key group does not hide what follows.** -/
theorem analyze_typed {command : String} (h : Command.takesKeys command = true)
    {keys gap rest : List Char} (hkeys : ∀ c ∈ keys, isKey c = true) (hgap : Interrupted gap rest) :
    let key := analyze (String.ofList (called command ++ braced keys))
    let found := (analyze (String.ofList rest)).shift (utf8Length (typed command keys ++ gap))
    analyze (String.ofList (typed command keys ++ (gap ++ rest))) =
      { key ++ found with
        commands := (key.commands ++ found.commands).eraseDups
        diagnostics := missingBrace (utf8Length (called command)) :: found.diagnostics } := by
  obtain ⟨names, hnames, hscan⟩ := scan_typed h
  obtain ⟨htyped, hclosed⟩ := hscan hkeys
  have hcommand : ∀ e ∈ (.command (Command.bare command) ::
      names (utf8Length (called command) + 1) keys : List Event), ∀ p : Pending, p.step e = p :=
    List.forall_mem_cons.2 ⟨fun _ => rfl, hnames.still _ _⟩
  have hkey : analyze (String.ofList (called command ++ braced keys)) =
      gathered (.command (Command.bare command) ::
        names (utf8Length (called command) + 1) keys) [] := by
    rw [analyze, Cursor.ofString, String.toList_ofList, hclosed, (tells_still hcommand).ofEvents]
    simp [gathered, Event.command?, hnames.quiet, List.eraseDups_cons]
  have hfound : (analyze (String.ofList rest)).shift (utf8Length (typed command keys ++ gap)) =
      Structure.ofEvents (scan ⟨utf8Length (typed command keys ++ gap), rest⟩) := by
    rw [analyze, ← Structure.shift_ofEvents, ← shift_scan]
    simp [Cursor.ofString, Cursor.shift]
  have hfirst : ∀ e ∈ ((analyze (String.ofList rest)).shift
      (utf8Length (typed command keys ++ gap))).diagnostics,
      (missingBrace (utf8Length (called command))).atOrBefore e = true := by
    intro e he
    obtain ⟨d, -, rfl⟩ := List.mem_map.1 he
    have hlt : utf8Length (called command) <
        utf8Length (typed command keys ++ gap) + d.span.start := by
      simp [typed, Char.utf8Size]
      omega
    exact Bool.or_eq_true_iff.2 (Or.inl (decide_eq_true hlt))
  rw [hfound] at hfirst
  dsimp only
  rw [hkey, hfound, analyze, Cursor.ofString, String.toList_ofList, htyped hgap,
    ofEvents_givenUp (hnames.still _ _) (hnames.quiet _ _) _ hfirst]
  simp [gathered, Event.command?, hnames.quiet]

/-- A reference is being typed in front of a label, and in front of a brace too many. -/
theorem analyze_typed_ref :
    (Command.takesKeys "ref" = true ∧ (∀ c ∈ ['a'], isKey c = true) ∧
      Interrupted ['\n'] "\\label\x7bb\x7d".toList ∧
      Interrupted ['\n', '\n'] "\x7d\\label\x7bb\x7d".toList) ∧
    (analyze "\\ref\x7ba\n\\label\x7bb\x7d").labelReferences = [⟨"a", ⟨5, 6⟩⟩] ∧
    (analyze "\\ref\x7ba\n\\label\x7bb\x7d").labelDefinitions = [⟨"b", ⟨14, 15⟩⟩] ∧
    (analyze "\\ref\x7ba\n\\label\x7bb\x7d").diagnostics = [missingBrace 4] ∧
    (analyze "\\ref\x7ba\n\n\x7d\\label\x7bb\x7d").diagnostics =
      [missingBrace 4, unmatchedBrace 8] := by
  have hcommand : Command.takesKeys "ref" = true := by decide
  have hkeys : ∀ c ∈ ['a'], isKey c = true := List.all_eq_true.1 (by decide)
  have hlabel : Interrupted ['\n'] "\\label\x7bb\x7d".toList := .command (by decide)
  have hbrace : Interrupted ['\n', '\n'] "\x7d\\label\x7bb\x7d".toList := .blankLine _
  have h := analyze_typed hcommand hkeys hlabel
  have h' := analyze_typed hcommand hkeys hbrace
  have htext : String.ofList (typed "ref" ['a'] ++ (['\n'] ++ "\\label\x7bb\x7d".toList)) =
      "\\ref\x7ba\n\\label\x7bb\x7d" := by decide
  have htext' : String.ofList (typed "ref" ['a'] ++
      (['\n', '\n'] ++ "\x7d\\label\x7bb\x7d".toList)) =
      "\\ref\x7ba\n\n\x7d\\label\x7bb\x7d" := by decide
  rw [htext] at h
  rw [htext'] at h'
  rw [h, h']
  exact ⟨⟨hcommand, hkeys, hlabel, hbrace⟩, by decide +kernel, by decide +kernel,
    by decide +kernel, by decide +kernel⟩

end Manuscript.Latex

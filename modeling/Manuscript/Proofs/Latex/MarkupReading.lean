/-
# Manuscript.Proofs.Latex.MarkupReading -- reading undoes printing

The scan of a printed source meets, part by part, what the source holds (`Shows`): whatever
follows a part, its text is read up, the scan goes on right after it, and the events of the
part are those of its structure.  `Tells` says which events those are.  Between two parts
nothing is open and nothing wrong, so events of parts stand side by side, and an environment
closes what it opened.

Every command has its own lemma (`shows_label`, `shows_citation`, …), which follows the one
reader the name of the command leads to.  The induction over the source is then
`shows_source`, and `analyze_text` is what it comes to for a whole text.
-/
import Manuscript.Proofs.Latex.Markup
import Manuscript.Proofs.Latex.RespeltScan
import Mathlib.Data.List.TakeDrop

namespace Manuscript.Latex

set_option autoImplicit false

open Text

namespace Markup

/-! ## What events tell -/

/-- What is to be found where these events are met and these environments end. -/
def gathered (events : List Event) (environments : List Environment) : Structure :=
  { includes := events.filterMap Event.inclusion?
    labelDefinitions := events.filterMap Event.label?
    labelReferences := events.filterMap Event.reference?
    citations := events.filterMap Event.citation?
    sections := events.filterMap Event.heading?
    environments := environments
    commandDefinitions := events.filterMap Event.definition?
    commands := events.filterMap Event.command?
    diagnostics := [] }

/-- The events are those of a text that holds a structure, has no problems and leaves nothing
open. -/
structure Tells (events : List Event) (s : Structure) : Prop where
  gathers : gathered events s.environments = s
  pending : ∀ p, events.foldl Pending.step p =
    { p with matched := p.matched ++ s.environments }

variable {events more : List Event} {s t : Structure}

theorem tells_nil : Tells [] .empty :=
  ⟨rfl, fun p => by simp [Structure.empty]⟩

theorem Tells.append (h : Tells events s) (h' : Tells more t) : Tells (events ++ more) (s ++ t) where
  gathers := by
    have hgathered : gathered (events ++ more) (s.environments ++ t.environments) =
        gathered events s.environments ++ gathered more t.environments := by
      simp only [gathered, List.filterMap_append]
      rfl
    rw [← h.gathers, ← h'.gathers]
    exact hgathered
  pending p := by
    rw [List.foldl_append, h.pending, h'.pending]
    show ({ p with matched := p.matched ++ s.environments ++ t.environments } : Pending) = _
    rw [List.append_assoc]
    rfl

/-- A group of its own. -/
theorem Tells.braced (h : Tells events s) (first last : Nat) :
    Tells (.braceOpened first :: (events ++ [.braceClosed last])) s where
  gathers := by
    rw [← h.gathers]
    simp [gathered, List.filterMap_cons, Event.inclusion?, Event.label?, Event.reference?,
      Event.citation?, Event.heading?, Event.definition?, Event.command?]
  pending p := by
    rw [List.foldl_cons, List.foldl_append, h.pending]
    rfl

theorem close_opened (p : Pending) (environment : Environment) :
    ((p.step (.environmentOpened environment.name environment.opening)).close environment.name
      environment.closing) = { p with matched := p.matched ++ [environment] } := by
  simp [Pending.step, Pending.close, List.span_eq_takeWhile_dropWhile, Pending.unclosed]

/-- An environment closes what it opened. -/
theorem Tells.enclosed (h : Tells events s) (environment : Environment) :
    Tells ([.command "begin", .environmentOpened environment.name environment.opening] ++
        (events ++ [.command "end", .environmentClosed environment.name environment.closing]))
      (enclosing environment s) where
  gathers := by
    rw [← h.gathers]
    simp [enclosing, gathered, List.filterMap_cons, Event.inclusion?, Event.label?,
      Event.reference?, Event.citation?, Event.heading?, Event.definition?, Event.command?]
  pending p := by
    rw [List.foldl_append, List.foldl_append, h.pending]
    have hclose := close_opened { p with matched := p.matched ++ s.environments } environment
    simpa [enclosing, Pending.step] using hclose

/-- Events that open and close nothing. -/
theorem tells_still {events : List Event} (h : ∀ e ∈ events, ∀ p : Pending, p.step e = p) :
    Tells events (gathered events []) where
  gathers := rfl
  pending p := by
    have hfold : events.foldl Pending.step p = p :=
      List.foldlRecOn events Pending.step (motive := fun q => q = p) rfl
        fun q hq e he => by rw [h e he, hq]
    rw [hfold]
    simp [gathered]

theorem tells_single {e : Event} (h : ∀ p : Pending, p.step e = p) : Tells [e] (gathered [e] []) :=
  tells_still fun e' he' => by
    rw [List.mem_singleton.1 he']
    exact h

/-- Events of one kind. -/
theorem tells_map {α : Type} {event : α → Event} {found : List α → Structure}
    (hnil : found [] = .empty) (hcons : ∀ a as, found (a :: as) = gathered [event a] [] ++ found as)
    (h : ∀ a, ∀ p : Pending, p.step (event a) = p) (as : List α) :
    Tells (as.map event) (found as) := by
  induction as with
  | nil =>
      rw [hnil]
      exact tells_nil
  | cons a as ih =>
      rw [hcons]
      exact (tells_single (h a)).append ih

/-- **What the events tell is the structure they describe.** -/
theorem Tells.ofEvents (h : Tells events s) :
    Structure.ofEvents events = { s with commands := s.commands.eraseDups } := by
  have hpending := h.pending .start
  rw [← h.gathers]
  simp only [Structure.ofEvents, hpending]
  simp [gathered, Pending.start, Pending.finish, Pending.unclosed, Diagnostic.sorted]

/-! ## What texts show -/

/-- Wherever the text stands, its events tell what it holds and the scan goes on after it. -/
def Shows (text : List Char) (found : Nat → Structure) : Prop :=
  ∀ o rest, ∃ events, scan ⟨o, text ++ rest⟩ = events ++ scan ⟨o + utf8Length text, rest⟩ ∧
    Tells events (found o)

variable {text text' : List Char} {found found' : Nat → Structure}

theorem shows_nil : Shows [] fun _ => .empty := fun _ _ => ⟨[], rfl, tells_nil⟩

theorem Shows.append (h : Shows text found) (h' : Shows text' found') :
    Shows (text ++ text') fun o => found o ++ found' (o + utf8Length text) := by
  intro o rest
  obtain ⟨events, hscan, htells⟩ := h o (text' ++ rest)
  obtain ⟨events', hscan', htells'⟩ := h' (o + utf8Length text) rest
  refine ⟨events ++ events', ?_, htells.append htells'⟩
  rw [List.append_assoc, hscan, hscan', utf8Length_append, Nat.add_assoc, List.append_assoc]

theorem scan_prose {c : Char} (hc : isProse c = true) (o : Nat) (cs : List Char) :
    scan ⟨o, c :: cs⟩ = scan ⟨o + c.utf8Size, cs⟩ := by
  simp only [isProse, List.mem_cons, List.not_mem_nil, or_false, not_or, decide_eq_true_eq] at hc
  exact scan_other (by simp [hc]) o cs

theorem scan_open (o : Nat) (cs : List Char) :
    scan ⟨o, '{' :: cs⟩ = .braceOpened o :: scan ⟨o + 1, cs⟩ := scan_cons o '{' cs

theorem scan_close (o : Nat) (cs : List Char) :
    scan ⟨o, '}' :: cs⟩ = .braceClosed o :: scan ⟨o + 1, cs⟩ := scan_cons o '}' cs

theorem shows_prose (content : Prose) : Shows content.text fun _ => .empty := by
  obtain ⟨text, hplain⟩ := content
  induction text with
  | nil => exact shows_nil
  | cons c text ih =>
      intro o rest
      obtain ⟨events, hscan, htells⟩ :=
        ih (fun d hd => hplain d (List.mem_cons_of_mem c hd)) (o + c.utf8Size) rest
      refine ⟨events, ?_, htells⟩
      rw [List.cons_append, scan_prose (hplain c List.mem_cons_self), hscan, utf8Length_cons,
        Nat.add_assoc]

theorem Shows.braced (h : Shows text found) : Shows (braced text) fun o => found (o + 1) := by
  intro o rest
  obtain ⟨events, hscan, htells⟩ := h (o + 1) ('}' :: rest)
  refine ⟨_, ?_, htells.braced o (o + 1 + utf8Length text)⟩
  have hsize : utf8Length (Markup.braced text) = 1 + (utf8Length text + 1) := by
    simp [Markup.braced, Char.utf8Size]
  have htext : Markup.braced text ++ rest = '{' :: (text ++ '}' :: rest) := by simp [Markup.braced]
  rw [htext, scan_open, hscan, scan_close, hsize]
  simp [Nat.add_assoc]

theorem shows_comment {line : List Char} (h : '\n' ∉ line) :
    Shows ('%' :: (line ++ ['\n'])) fun _ => .empty := by
  intro o rest
  have hline : Cursor.split (startsWith (· == '\n')) (line ++ '\n' :: rest) =
      (line, '\n' :: rest) := by
    refine Cursor.split_startsWith (fun c hc => ?_) (Or.inr rfl)
    exact beq_eq_false_iff_ne.2 fun heq => h (heq ▸ hc)
  refine ⟨[], ?_, tells_nil⟩
  have hnext : (Reading.at o '%' (line ++ '\n' :: rest)) =
      .nothing ⟨o + 1 + utf8Length line, '\n' :: rest⟩ := by
    show Reading.nothing _ = _
    simp only [Cursor.upTo, hline]
    rfl
  rw [show '%' :: (line ++ ['\n']) ++ rest = '%' :: (line ++ '\n' :: rest) by simp, scan_cons,
    hnext]
  show scan _ = _
  rw [Reading.nothing, scan_prose (by decide)]
  simp [Char.utf8Size, Nat.add_assoc]

/-! ## Commands -/

/-- A word that is all of a command name: letters and at most one star. -/
def isCommandName (name : List Char) : Bool :=
  startsWith isLetter name && commandName name = (name, [])

/-- The text ends a command name that comes before it. -/
def EndsName (text : List Char) : Prop :=
  ∃ d rest, text = d :: rest ∧ isLetter d = false ∧ d ≠ '*'

theorem EndsName.append (h : EndsName text) (more : List Char) : EndsName (text ++ more) := by
  obtain ⟨d, rest, rfl, hd⟩ := h
  exact ⟨d, rest ++ more, rfl, hd⟩

theorem endsName_braced (content : List Char) : EndsName (braced content) :=
  ⟨'{', _, rfl, by decide, by decide⟩

theorem endsName_optional (options : List Prose) (content : List Char) :
    EndsName (optional options ++ braced content) := by
  cases options with
  | nil => exact endsName_braced content
  | cons option options => exact ⟨'[', _, rfl, by decide, by decide⟩

theorem split_letters {letters : List Char} (h : ∀ c ∈ letters, isLetter c = true)
    {rest : List Char} (hrest : rest = [] ∨ startsWith (!isLetter ·) rest = true) :
    Cursor.split (startsWith (!isLetter ·)) (letters ++ rest) = (letters, rest) :=
  Cursor.split_startsWith (fun c hc => by rw [h c hc]; rfl) hrest

theorem commandName_of_isCommandName {name : List Char} (h : isCommandName name = true)
    {rest : List Char} (hrest : EndsName rest) : commandName (name ++ rest) = (name, rest) := by
  obtain ⟨d, rest, rfl, hd, hstar⟩ := hrest
  simp only [isCommandName, Bool.and_eq_true, decide_eq_true_eq] at h
  have hname := h.2
  have hletters := Cursor.forall_mem_split (!isLetter ·) name
  have happend := Cursor.split_append (startsWith (!isLetter ·)) name
  generalize hsplit : Cursor.split (startsWith (!isLetter ·)) name = parts at hletters happend
  obtain ⟨letters, tail⟩ := parts
  replace hletters : ∀ c ∈ letters, isLetter c = true := fun c hc => by simpa using hletters c hc
  by_cases htail : ∃ after, tail = '*' :: after
  · obtain ⟨after, rfl⟩ := htail
    rw [commandName_star hsplit] at hname
    obtain ⟨rfl, rfl⟩ := Prod.mk.inj hname
    rw [List.append_assoc]
    exact commandName_star (split_letters hletters (Or.inr rfl))
  · rw [commandName_letters hsplit fun after hafter => htail ⟨after, hafter⟩] at hname
    obtain ⟨rfl, rfl⟩ := Prod.mk.inj hname
    exact commandName_letters (split_letters hletters (Or.inr (by simp [startsWith, hd])))
      fun after hafter => hstar (List.cons.inj hafter).1

theorem isCommandName_of_letters {name : List Char} (hne : name ≠ [])
    (h : ∀ c ∈ name, isLetter c = true) : isCommandName name = true := by
  have hsplit := split_letters h (Or.inl rfl)
  rw [List.append_nil] at hsplit
  simp only [isCommandName, Bool.and_eq_true, decide_eq_true_eq]
  refine ⟨?_, commandName_letters hsplit fun _ => (List.cons_ne_nil _ _).symm⟩
  cases name with
  | nil => exact absurd rfl hne
  | cons c name => exact h c List.mem_cons_self

/-- A command is met, and the scan goes on where its arguments have been read. -/
theorem scan_called {command : String} (h : isCommandName command.toList = true)
    {args : List Char} (hargs : EndsName args) (o : Nat) :
    scan ⟨o, called command ++ args⟩ =
      .command (Command.bare command) ::
        ((Reading.arguments o command ⟨o + utf8Length (called command), args⟩).events ++
          scan (Reading.arguments o command ⟨o + utf8Length (called command), args⟩).next) := by
  have hname := commandName_of_isCommandName h hargs
  obtain ⟨c, cs, hc⟩ : ∃ c cs, command.toList = c :: cs := by
    cases hlist : command.toList with
    | nil =>
        rw [hlist] at h
        cases h
    | cons c cs => exact ⟨c, cs, rfl⟩
  have hletter : isLetter c = true := by
    simp only [isCommandName, Bool.and_eq_true, hc] at h
    exact h.1
  have hread := @readCommand_letters o ⟨o + 1, command.toList ++ args⟩ c (cs ++ args) _ _
    (by rw [hc]; rfl) hletter hname
  rw [String.ofList_toList] at hread
  have hsize : o + utf8Length (called command) = o + 1 + utf8Length command.toList := by
    simp [called, Char.utf8Size, Nat.add_assoc]
  rw [show called command ++ args = '\\' :: (command.toList ++ args) from rfl, scan_cons, hsize]
  show (readCommand o ⟨o + 1, _⟩).events ++ scan (readCommand o ⟨o + 1, _⟩).next = _
  rw [hread]
  rfl

/-- A command whose arguments are read up. -/
theorem shows_read {command : String} (hname : isCommandName command.toList = true)
    {args : List Char} (hargs : EndsName args) {events : Nat → List Event}
    (hread : ∀ o rest,
      Reading.arguments o command ⟨o + utf8Length (called command), args ++ rest⟩ =
        ⟨events o, ⟨o + utf8Length (called command) + utf8Length args, rest⟩⟩)
    (htells : ∀ o, Tells (events o) (found o)) :
    Shows (called command ++ args) fun o =>
      gathered [.command (Command.bare command)] [] ++ found o := by
  intro o rest
  refine ⟨_, ?_, (tells_single fun _ => rfl).append (htells o)⟩
  rw [List.append_assoc, scan_called hname (hargs.append rest), hread, utf8Length_append,
    Nat.add_assoc]
  rfl

/-- A command whose arguments are looked at and read again. -/
theorem shows_reread {command : String} (hname : isCommandName command.toList = true)
    {args : List Char} (hargs : EndsName args) (hshows : Shows args found') {e : Nat → Event}
    (hread : ∀ o rest,
      Reading.arguments o command ⟨o + utf8Length (called command), args ++ rest⟩ =
        ⟨[e o], ⟨o + utf8Length (called command), args ++ rest⟩⟩)
    (hstill : ∀ o (p : Pending), p.step (e o) = p) :
    Shows (called command ++ args) fun o => gathered [.command (Command.bare command)] [] ++
      (gathered [e o] [] ++ found' (o + utf8Length (called command))) := by
  intro o rest
  obtain ⟨more, hscan, htells⟩ := hshows (o + utf8Length (called command)) rest
  refine ⟨_, ?_, (tells_single fun _ => rfl).append ((tells_single (hstill o)).append htells)⟩
  rw [List.append_assoc, scan_called hname (hargs.append rest), hread, hscan, utf8Length_append,
    Nat.add_assoc]
  rfl

/-! ## Arguments -/

theorem utf8Length_braced (content : List Char) :
    utf8Length (braced content) = utf8Length content + 2 := by
  simp [braced, Char.utf8Size]
  omega

/-- The characters that cannot end a key group. -/
def isKey (c : Char) : Bool := c ∉ ['\x7d', '\x7b', '\\', '\n']

/-- A group that holds no markup ends with its first closing brace. -/
theorem ofBody_keys {content : List Char} (h : ∀ c ∈ content, isKey c = true) (brace : Nat)
    (rest : List Char) :
    Group.ofBody brace (content ++ '}' :: rest) = .closedBy brace content rest := by
  refine Group.ofBody_closed (Cursor.split_of_forall (fun c cs hc => ?_) (Or.inr rfl))
  have hkey := h c (hc.subset List.mem_cons_self)
  simp only [isKey, List.mem_cons, List.not_mem_nil, or_false, not_or, decide_eq_true_eq] at hkey
  simp [endsPlain, hkey]

/-- A group that holds no markup is read up. -/
theorem exists_read?_braced {content : List Char} (h : ∀ c ∈ content, isKey c = true) (o : Nat)
    (rest : List Char) :
    ∃ g, Group.read? ⟨o, braced content ++ rest⟩ = some g ∧ g.faults = [] ∧
      g.content = content ∧ g.inside = o + 1 ∧
      g.next = ⟨o + utf8Length (braced content), rest⟩ := by
  have hbody : braced content ++ rest = '{' :: (content ++ '}' :: rest) := by simp [braced]
  refine ⟨Group.closedBy o content rest, ?_, rfl, rfl, rfl, ?_⟩
  · rw [hbody, Group.read?_brace rfl]
    exact congrArg some (ofBody_keys h o rest)
  · have hstop : o + 1 + utf8Length content + 1 = o + utf8Length (braced content) := by
      rw [utf8Length_braced]
      omega
    exact congrArg (Cursor.mk · rest) hstop

theorem isKey_of_isPlain {c : Char} (h : isPlain c = true) : isKey c = true := by
  have hne (d : Char) (hd : isPlain d = false) : c ≠ d := ne_of_isPlain h hd
  simp [isKey, hne '}' (by decide), hne '{' (by decide), hne '\\' (by decide),
    hne '\n' (by decide)]

@[simp] theorem listed_nil : listed [] = [] := rfl

@[simp] theorem listed_singleton (name : Name) : listed [name] = name.text := by simp [listed]

theorem listed_cons_cons (name next : Name) (names : List Name) :
    listed (name :: next :: names) = name.text ++ ',' :: listed (next :: names) := by
  simp [listed, List.intercalate]

theorem isKey_listed (names : List Name) : ∀ c ∈ listed names, isKey c = true := by
  have hname (name : Name) : ∀ c ∈ name.text, isKey c = true :=
    fun c hc => isKey_of_isPlain (name.plain.plain c hc)
  induction names with
  | nil => intro c hc; cases hc
  | cons name names ih =>
      cases names with
      | nil => simpa using hname name
      | cons next names =>
          intro c hc
          rw [listed_cons_cons, List.mem_append, List.mem_cons] at hc
          rcases hc with hc | rfl | hc
          · exact hname name c hc
          · decide
          · exact ih c hc

theorem trimmed?_plain {text : List Char} (h : Plain text) (o : Nat) :
    Symbol.trimmed? o text = some (.ofText o text) := by
  have htrim := @trimmed?_of_solid [] text [] (fun _ h => by cases h) h.solid
    (fun _ h => by cases h) o
  simpa using htrim

theorem comma_not_mem (name : Name) : ',' ∉ name.text := fun h =>
  ne_of_isPlain (name.plain.plain _ h) (by decide) rfl

/-- The names between the commas of a list are those listed. -/
theorem namesFrom_listed (names : List Name) (o : Nat) :
    namesFrom o (betweenCommas (listed names)) = symbols o names := by
  induction names generalizing o with
  | nil => rfl
  | cons name names ih =>
      cases names with
      | nil =>
          rw [listed_singleton, betweenCommas_last (comma_not_mem name), namesFrom,
            trimmed?_plain name.plain]
          rfl
      | cons next names =>
          rw [listed_cons_cons, betweenCommas_append (comma_not_mem name), namesFrom,
            trimmed?_plain name.plain, ih]
          rfl

theorem exists_read?_listed (names : List Name) (o : Nat) (rest : List Char) :
    ∃ g, Group.read? ⟨o, braced (listed names) ++ rest⟩ = some g ∧ g.faults = [] ∧
      g.names = symbols (o + 1) names ∧
      g.next = ⟨o + utf8Length (braced (listed names)), rest⟩ := by
  obtain ⟨g, hread, hfaults, hcontent, hinside, hnext⟩ :=
    exists_read?_braced (isKey_listed names) o rest
  refine ⟨g, hread, hfaults, ?_, hnext⟩
  rw [Group.names, hcontent, hinside, namesFrom_listed]

theorem exists_read?_name {text : List Char} (h : Plain text) (o : Nat) (rest : List Char) :
    ∃ g, Group.read? ⟨o, braced text ++ rest⟩ = some g ∧ g.faults = [] ∧
      g.name? = some (.ofText (o + 1) text) ∧ g.next = ⟨o + utf8Length (braced text), rest⟩ := by
  obtain ⟨g, hread, hfaults, hcontent, hinside, hnext⟩ :=
    exists_read?_braced (fun c hc => isKey_of_isPlain (h.plain c hc)) o rest
  refine ⟨g, hread, hfaults, ?_, hnext⟩
  rw [Group.name?, hcontent, hinside, trimmed?_plain h]

theorem untilBracket?_prose (option : Prose) (rest : List Char) :
    untilBracket? 0 false (option.text ++ ']' :: rest) = some (option.text ++ [']'], rest) := by
  obtain ⟨text, hplain⟩ := option
  induction text with
  | nil => rfl
  | cons c text ih =>
      have hc := hplain c List.mem_cons_self
      have htail := ih fun d hd => hplain d (List.mem_cons_of_mem c hd)
      simp only [isProse, List.mem_cons, List.not_mem_nil, or_false, not_or,
        decide_eq_true_eq] at hc
      simp [untilBracket?, hc, htail]

theorem option?_bracketed (option : Prose) (o : Nat) (rest : List Char) :
    option? ⟨o, bracketed option.text ++ rest⟩ =
      some ⟨o + utf8Length (bracketed option.text), rest⟩ := by
  have htext : bracketed option.text ++ rest = '[' :: (option.text ++ ']' :: rest) := by
    simp [bracketed]
  rw [htext, option?_bracket rfl, untilBracket?_prose]
  rfl

theorem skipOptions_braced (content : List Char) (o : Nat) (rest : List Char) :
    skipOptions ⟨o, braced content ++ rest⟩ = ⟨o, braced content ++ rest⟩ :=
  skipOptions_of_none (option?_nothing fun inside h => by cases (List.cons.inj h).1)

theorem skipOptions_optional (options : List Prose) (content : List Char) (o : Nat)
    (rest : List Char) :
    skipOptions ⟨o, optional options ++ braced content ++ rest⟩ =
      ⟨o + utf8Length (optional options), braced content ++ rest⟩ := by
  induction options generalizing o with
  | nil => exact skipOptions_braced content o rest
  | cons option options ih =>
      have htext : optional (option :: options) = bracketed option.text ++ optional options := rfl
      rw [htext, List.append_assoc, List.append_assoc,
        skipOptions_of_some (option?_bracketed option o _), ← List.append_assoc, ih,
        utf8Length_append, Nat.add_assoc]

/-! ## Which reader a command has -/

/-- A command that is not read in a way of its own. -/
def isListed (command : String) : Bool :=
  command ≠ "begin" && command ≠ "end" && command ≠ "label" && isCommandName command.toList

theorem isListed_known :
    (∀ c ∈ Command.labelReferences, isListed c = true ∧ Command.includeKind? c = none) ∧
      (∀ c ∈ Command.citations, isListed c = true ∧ Command.includeKind? c = none ∧
        Command.isLabelReference c = false) ∧
      (∀ kind ∈ IncludeKind.all, ∀ c ∈ kind.commands, isListed c = true ∧
        Command.includeKind? c = some kind) ∧
      (∀ c ∈ Command.sections, ∀ starred, isListed (starredAs starred c.1) = true ∧
        Command.includeKind? (starredAs starred c.1) = none ∧
        Command.isLabelReference (starredAs starred c.1) = false ∧
        Command.isCitation (starredAs starred c.1) = false ∧
        Command.sectionLevel? (starredAs starred c.1) = some c.2 ∧
        Command.bare (starredAs starred c.1) = c.1) ∧
      ∀ c ∈ Command.definitions, isListed c = true ∧ Command.includeKind? c = none ∧
        Command.isLabelReference c = false ∧ Command.isCitation c = false ∧
        Command.sectionLevel? c = none := by
  decide +kernel

theorem isCommandName_of_isListed {command : String} (h : isListed command = true) :
    isCommandName command.toList = true := by
  simp only [isListed, Bool.and_eq_true] at h
  exact h.2

theorem arguments_of_isListed {command : String} (h : isListed command = true) (o : Nat)
    (k : Cursor) : Reading.arguments o command k =
      match Command.includeKind? command with
      | some kind => .includes kind k
      | none =>
          if Command.isLabelReference command then
            .references (Command.isLabelRange command) k
          else if Command.isCitation command then .citations k
          else match Command.sectionLevel? command with
            | some level => .heading o level k
            | none => if Command.isDefinition command then .definition k else .nothing k := by
  simp only [isListed, Bool.and_eq_true, decide_eq_true_eq] at h
  obtain ⟨⟨⟨hbegin, hend⟩, hlabel⟩, -⟩ := h
  exact (if_neg hbegin).trans ((if_neg hend).trans (if_neg hlabel))

/-- A name that is only defined, with a brace after it, has no arguments. -/
theorem arguments_close (o : Nat) (command : String) (o' : Nat) (rest : List Char) :
    Reading.arguments o command ⟨o', '}' :: rest⟩ = .nothing ⟨o', '}' :: rest⟩ := by
  have hgroup : Group.read? ⟨o', '}' :: rest⟩ = none :=
    Group.read?_nothing fun body h => by cases (List.cons.inj h).1
  have hoptions : skipOptions ⟨o', '}' :: rest⟩ = ⟨o', '}' :: rest⟩ :=
    skipOptions_of_none (option?_nothing fun inside h => by cases (List.cons.inj h).1)
  have hdefinition : Reading.definition ⟨o', '}' :: rest⟩ = .nothing ⟨o', '}' :: rest⟩ := by
    have hbrace : skipLayout ⟨o', '}' :: rest⟩ = ⟨o', '}' :: rest⟩ := rfl
    have hnone : Reading.definedName? ⟨o', '}' :: rest⟩ = none :=
      definedName?_nothing fun cs h => by cases (List.cons.inj h).1
    rw [Reading.definition_plain, hbrace, hnone]
    exact fun body h => by cases (List.cons.inj h).1
  have hheading (level : Nat) :
      Reading.heading o level ⟨o', '}' :: rest⟩ = .nothing ⟨o', '}' :: rest⟩ := by
    rw [Reading.heading_nothing, hoptions]
    rw [hoptions]
    exact fun body h => by cases (List.cons.inj h).1
  unfold Reading.arguments
  repeat' split
  · simp only [Reading.opening, hgroup]
  · simp only [Reading.closing, hgroup]
  · simp only [Reading.label, hgroup]
  · simp only [Reading.includes, Reading.keys, hoptions, hgroup]
  · simp only [Reading.references, hgroup]
  · simp only [Reading.citations, hoptions, hgroup]
  · exact hheading _
  · exact hdefinition
  · rfl

/-! ## Commands with names -/

theorem tells_references (names : List Symbol) :
    Tells (names.map .reference) { Structure.empty with labelReferences := names } :=
  @tells_map _ _ (fun names => { Structure.empty with labelReferences := names }) rfl
    (fun _ _ => rfl) (fun _ _ => rfl) names

theorem tells_citations (names : List Symbol) :
    Tells (names.map .citation) { Structure.empty with citations := names } :=
  @tells_map _ _ (fun names => { Structure.empty with citations := names }) rfl
    (fun _ _ => rfl) (fun _ _ => rfl) names

theorem tells_inclusions (files : List Include) :
    Tells (files.map .inclusion) { Structure.empty with includes := files } :=
  @tells_map _ _ (fun files => { Structure.empty with includes := files }) rfl
    (fun _ _ => rfl) (fun _ _ => rfl) files

theorem shows_label (name : Name) : Shows (Item.label name).text (Item.label name).found := by
  have hcommand : isCommandName "label".toList = true := by decide
  have htells (o : Nat) : Tells [.label (.ofText (o + utf8Length (called "label") + 1) name.text)]
      _ := tells_single fun _ => rfl
  refine shows_read hcommand (endsName_braced _) (fun o rest => ?_) htells
  obtain ⟨g, hread, hfaults, hname, hnext⟩ :=
    exists_read?_name name.plain (o + utf8Length (called "label")) rest
  simp only [Reading.arguments, Reading.label, String.reduceEq, if_false, if_true, hread, hfaults,
    hname, hnext]
  rfl

/-- A command that reads lists of labels. -/
theorem arguments_reference {command : String} (known : command ∈ Command.labelReferences)
    (o : Nat) (k : Cursor) :
    Reading.arguments o command k = .references (Command.isLabelRange command) k := by
  obtain ⟨hlisted, hkind⟩ := isListed_known.1 command known
  have hreference : Command.isLabelReference command = true := decide_eq_true known
  rw [arguments_of_isListed hlisted, hkind]
  simp only [hreference, if_true]

theorem shows_reference {command : String} (known : command ∈ Command.labelReferences)
    (single : command ∉ Command.labelRanges) (names : List Name) :
    Shows (Item.reference command known single names).text
      (Item.reference command known single names).found := by
  have hlisted := (isListed_known.1 command known).1
  have hrange : Command.isLabelRange command = false := decide_eq_false single
  refine shows_read (isCommandName_of_isListed hlisted) (endsName_braced _) (fun o rest => ?_)
    fun o => tells_references _
  obtain ⟨g, hread, hfaults, hnames, hnext⟩ :=
    exists_read?_listed names (o + utf8Length (called command)) rest
  rw [arguments_reference known, hrange, Reading.references, hread]
  simp [hfaults, hnames, hnext, Reading.nothing]

theorem shows_range {command : String} (known : command ∈ Command.labelRanges)
    (first last : List Name) :
    Shows (Item.range command known first last).text
      (Item.range command known first last).found := by
  have hreference : command ∈ Command.labelReferences :=
    (by decide : ∀ c ∈ Command.labelRanges, c ∈ Command.labelReferences) command known
  have hlisted := (isListed_known.1 command hreference).1
  have hrange : Command.isLabelRange command = true := decide_eq_true known
  refine shows_read (isCommandName_of_isListed hlisted) ((endsName_braced _).append _)
    (fun o rest => ?_) fun o => tells_references _
  obtain ⟨g, hread, hfaults, hnames, hnext⟩ := exists_read?_listed first
    (o + utf8Length (called command)) (braced (listed last) ++ rest)
  obtain ⟨g', hread', hfaults', hnames', hnext'⟩ := exists_read?_listed last
    (o + utf8Length (called command) + utf8Length (braced (listed first))) rest
  rw [arguments_reference hreference, hrange, List.append_assoc, Reading.references, hread]
  simp only [if_true, Reading.keys, hnext, hread']
  simp only [hfaults, hnames, hfaults', hnames', hnext', List.nil_append, ← List.map_append,
    utf8Length_append, Nat.add_assoc]
  rfl

theorem filter_symbols {keys : List Name} (named : ∀ key ∈ keys, key.text ≠ ['*']) (o : Nat) :
    (symbols o keys).filter (·.name ≠ "*") = symbols o keys := by
  induction keys generalizing o with
  | nil => rfl
  | cons key keys ih =>
      have hkey : String.ofList key.text ≠ "*" := fun h =>
        named key List.mem_cons_self (String.ofList_injective h)
      have htail := ih (fun k hk => named k (List.mem_cons_of_mem key hk))
      rw [symbols, List.filter_cons_of_pos (p := fun s : Symbol => s.name ≠ "*")
        (decide_eq_true hkey), htail]

theorem shows_citation {command : String} (known : command ∈ Command.citations)
    (options : List Prose) (keys : List Name) (named : ∀ key ∈ keys, key.text ≠ ['*']) :
    Shows (Item.citation command known options keys named).text
      (Item.citation command known options keys named).found := by
  obtain ⟨hlisted, hkind, hreference⟩ := isListed_known.2.1 command known
  have hcitation : Command.isCitation command = true := decide_eq_true known
  refine shows_read (isCommandName_of_isListed hlisted) (endsName_optional _ _) (fun o rest => ?_)
    fun o => tells_citations _
  obtain ⟨g, hread, hfaults, hnames, hnext⟩ := exists_read?_listed keys
    (o + utf8Length (called command) + utf8Length (optional options)) rest
  rw [arguments_of_isListed hlisted, hkind]
  simp only [hreference, hcitation, if_true, Reading.citations]
  rw [skipOptions_optional, hread]
  simp only [hfaults, hnames, hnext, filter_symbols named, List.nil_append, utf8Length_append,
    Nat.add_assoc]
  rfl

theorem shows_inclusion (kind : IncludeKind) {command : String} (known : command ∈ kind.commands)
    (options : List Prose) (paths : List Name) :
    Shows (Item.inclusion kind command known options paths).text
      (Item.inclusion kind command known options paths).found := by
  have hall : kind ∈ IncludeKind.all := by cases kind <;> decide
  obtain ⟨hlisted, hkind⟩ := isListed_known.2.2.1 kind hall command known
  refine shows_read (isCommandName_of_isListed hlisted) (endsName_optional _ _) (fun o rest => ?_)
    fun o => tells_inclusions _
  obtain ⟨g, hread, hfaults, hnames, hnext⟩ := exists_read?_listed paths
    (o + utf8Length (called command) + utf8Length (optional options)) rest
  rw [arguments_of_isListed hlisted, hkind]
  simp only [Reading.includes]
  rw [skipOptions_optional, Reading.keys, hread]
  simp only [hfaults, hnames, hnext, List.nil_append, List.map_map, utf8Length_append,
    Nat.add_assoc]
  rfl

/-! ## Headings and definitions -/

theorem untilClosing?_prose (title : Prose) (rest : List Char) :
    untilClosing? 0 .plain (title.text ++ '}' :: rest) = some (title.text, '}' :: rest) := by
  obtain ⟨text, hplain⟩ := title
  induction text with
  | nil => rfl
  | cons c text ih =>
      have hc := hplain c List.mem_cons_self
      have htail := ih fun d hd => hplain d (List.mem_cons_of_mem c hd)
      simp only [isProse, List.mem_cons, List.not_mem_nil, or_false, not_or,
        decide_eq_true_eq] at hc
      obtain ⟨hslash, hopen, hclose, hpercent, -⟩ := hc
      have hmode : Mode.next .plain c = .plain := Mode.next.eq_3 c hslash hpercent
      simp [untilClosing?, hopen, hclose, hmode, htail]

theorem heading_braced (start level : Nat) (title : Prose) (o : Nat) (rest : List Char) :
    Reading.heading start level ⟨o, braced title.text ++ rest⟩ =
      ⟨[.heading ⟨level, String.ofList (squeeze title.text),
        ⟨start, o + utf8Length (braced title.text)⟩⟩], ⟨o, braced title.text ++ rest⟩⟩ := by
  have htext : braced title.text ++ rest = '{' :: (title.text ++ '}' :: rest) := by simp [braced]
  have hstop : o + 1 + utf8Length title.text + 1 = o + utf8Length (braced title.text) := by
    rw [utf8Length_braced]
    omega
  have hlayout : skipLayout ⟨o, '{' :: (title.text ++ '}' :: rest)⟩ =
      ⟨o, '{' :: (title.text ++ '}' :: rest)⟩ := rfl
  unfold Reading.heading
  rw [skipOptions_braced, htext, hlayout]
  simp [untilClosing?_prose, hstop]

theorem shows_heading {command : String} {level : Nat} (known : (command, level) ∈ Command.sections)
    (starred : Bool) (title : Prose) :
    Shows (Item.heading command level known starred title).text
      (Item.heading command level known starred title).found := by
  obtain ⟨hlisted, hkind, hreference, hcitation, hlevel, hbare⟩ :=
    isListed_known.2.2.2.1 (command, level) known starred
  have hshows := shows_reread (isCommandName_of_isListed hlisted) (endsName_braced title.text)
    (shows_prose title).braced (fun o rest => by
      rw [arguments_of_isListed hlisted, hkind]
      simp only [hreference, hcitation, hlevel]
      exact heading_braced o level title _ rest) fun _ _ => rfl
  rw [hbare] at hshows
  have hfound : (Item.heading command level known starred title).found = fun o =>
      gathered [.command command] [] ++ (gathered [.heading ⟨level,
        String.ofList (squeeze title.text), ⟨o, o + utf8Length (called (starredAs starred command)) +
          utf8Length (braced title.text)⟩⟩] [] ++ .empty) := by
    funext o
    simp only [Item.found, utf8Length_append, Nat.add_assoc]
    rfl
  rw [hfound]
  exact hshows

theorem bare_of_letters {name : List Char} (h : ∀ c ∈ name, isLetter c = true) :
    Command.bare (String.ofList name) = String.ofList name := by
  have hdrop : name.reverse.dropWhile (· == '*') = name.reverse := by
    cases hrev : name.reverse with
    | nil => rfl
    | cons c cs =>
        have hc : isLetter c = true := h c (List.mem_reverse.1 (hrev ▸ List.mem_cons_self))
        have hstar : (c == '*') = false := by
          cases hcmp : c == '*' with
          | false => rfl
          | true =>
              rw [beq_iff_eq] at hcmp
              subst hcmp
              exact absurd hc (by decide)
        simp [hstar]
  rw [Command.bare, String.toList_ofList, hdrop, List.reverse_reverse]

/-- A name that is defined is a command of its own inside its braces. -/
theorem shows_defined {name : List Char} (hne : name ≠ []) (h : ∀ c ∈ name, isLetter c = true) :
    Shows (braced ('\\' :: name)) fun _ => gathered [.command (String.ofList name)] [] := by
  intro o rest
  have hname : isCommandName (String.ofList name).toList = true := by
    rw [String.toList_ofList]
    exact isCommandName_of_letters hne h
  have htext : braced ('\\' :: name) ++ rest =
      '{' :: (called (String.ofList name) ++ '}' :: rest) := by
    simp [braced, called, String.toList_ofList]
  have hsize : o + 1 + utf8Length (called (String.ofList name)) + 1 =
      o + utf8Length (braced ('\\' :: name)) := by
    rw [utf8Length_braced, called, String.toList_ofList]
    omega
  refine ⟨_, ?_, (tells_single fun _ => rfl).braced o
    (o + 1 + utf8Length (called (String.ofList name)))⟩
  rw [htext, scan_open, scan_called hname ⟨'}', rest, rfl, by decide, by decide⟩, arguments_close,
    bare_of_letters h]
  show _ :: _ :: scan ⟨_, '}' :: rest⟩ = _
  rw [scan_close, hsize]
  rfl

theorem definition_braced {name : List Char} (hne : name ≠ []) (h : ∀ c ∈ name, isLetter c = true)
    (o : Nat) (rest : List Char) :
    Reading.definition ⟨o, braced ('\\' :: name) ++ rest⟩ =
      ⟨[.definition ⟨String.ofList name, ⟨o + 1, o + 1 + utf8Length ('\\' :: name)⟩⟩],
        ⟨o, braced ('\\' :: name) ++ rest⟩⟩ := by
  have htext : braced ('\\' :: name) ++ rest = '{' :: '\\' :: (name ++ '}' :: rest) := by
    simp [braced]
  have hsplit := @split_letters name h ('}' :: rest) (Or.inr rfl)
  have hdefined : Reading.definedName? ⟨o + 1, '\\' :: (name ++ '}' :: rest)⟩ =
      some (⟨String.ofList name, ⟨o + 1, o + 1 + utf8Length ('\\' :: name)⟩⟩,
        ⟨o + 1 + utf8Length ('\\' :: name), '}' :: rest⟩) := by
    cases name with
    | nil => exact absurd rfl hne
    | cons c cs =>
        unfold Reading.definedName?
        simp only [hsplit, Cursor.after]
  rw [htext, Reading.definition_brace rfl]
  show Reading.mk ((Reading.definedName? ⟨o + 1, _⟩).map _).toList _ = _
  rw [hdefined]
  rfl

theorem shows_definition {command : String} (known : command ∈ Command.definitions)
    {name : List Char} (nonempty : name ≠ []) (letters : ∀ c ∈ name, isLetter c = true)
    (body : Prose) :
    Shows (Item.definition command known name nonempty letters body).text
      (Item.definition command known name nonempty letters body).found := by
  obtain ⟨hlisted, hkind, hreference, hcitation, hlevel⟩ := isListed_known.2.2.2.2 command known
  have hdefinition : Command.isDefinition command = true := decide_eq_true known
  have hargs := (shows_defined nonempty letters).append (shows_prose body).braced
  have hshows := shows_reread (isCommandName_of_isListed hlisted) ((endsName_braced _).append _)
    hargs (fun o rest => by
      rw [arguments_of_isListed hlisted, hkind]
      simp only [hreference, hcitation, hlevel, hdefinition, if_true]
      rw [List.append_assoc]
      exact definition_braced nonempty letters _ _) fun _ _ => rfl
  exact hshows

/-! ## Environments -/

theorem opening_braced {name : List Char} (h : Plain name) (start o : Nat) (rest : List Char) :
    Reading.opening start ⟨o, braced name ++ rest⟩ =
      if Command.isVerbatim (String.ofList name) then
        Reading.verbatim (String.ofList name) ⟨start, o + utf8Length (braced name)⟩
          ⟨o + utf8Length (braced name), rest⟩
      else ⟨[.environmentOpened (String.ofList name) ⟨start, o + utf8Length (braced name)⟩],
        ⟨o + utf8Length (braced name), rest⟩⟩ := by
  obtain ⟨g, hread, hfaults, hname, hnext⟩ := exists_read?_name h o rest
  unfold Reading.opening
  rw [hread]
  simp only [hname, hfaults, hnext, Symbol.ofText, List.nil_append]

theorem closing_braced {name : List Char} (h : Plain name) (start o : Nat) (rest : List Char) :
    Reading.closing start ⟨o, braced name ++ rest⟩ =
      ⟨[.environmentClosed (String.ofList name) ⟨start, o + utf8Length (braced name)⟩],
        ⟨o + utf8Length (braced name), rest⟩⟩ := by
  obtain ⟨g, hread, hfaults, hname, hnext⟩ := exists_read?_name h o rest
  unfold Reading.closing
  rw [hread]
  simp [hname, hfaults, hnext, Symbol.ofText]

theorem scan_opener (name : List Char) (o : Nat) (rest : List Char) :
    scan ⟨o, opener name ++ rest⟩ = .command "begin" ::
      ((Reading.opening o ⟨o + utf8Length (called "begin"), braced name ++ rest⟩).events ++
        scan (Reading.opening o ⟨o + utf8Length (called "begin"), braced name ++ rest⟩).next) := by
  have hbegin : isCommandName "begin".toList = true := by decide
  have hbare : Command.bare "begin" = "begin" := by decide
  have harguments (k : Cursor) : Reading.arguments o "begin" k = .opening o k := by
    simp [Reading.arguments]
  rw [opener, List.append_assoc, scan_called hbegin ((endsName_braced name).append rest),
    hbare, harguments]

theorem scan_closer {name : List Char} (h : Plain name) (o : Nat) (rest : List Char) :
    scan ⟨o, closer name ++ rest⟩ =
      [.command "end",
          .environmentClosed (String.ofList name) ⟨o, o + utf8Length (closer name)⟩] ++
        scan ⟨o + utf8Length (closer name), rest⟩ := by
  have hend : isCommandName "end".toList = true := by decide
  have hbare : Command.bare "end" = "end" := by decide
  have harguments (k : Cursor) : Reading.arguments o "end" k = .closing o k := by
    simp [Reading.arguments]
  rw [closer, List.append_assoc, scan_called hend ((endsName_braced name).append rest),
    hbare, harguments, closing_braced h, utf8Length_append, Nat.add_assoc]
  rfl

theorem shows_environment {name : List Char} (h : Plain name)
    (ordinary : String.ofList name ∉ Command.verbatimEnvironments) (hshows : Shows text found) :
    Shows (opener name ++ (text ++ closer name)) fun o =>
      enclosing (enclosed name o (utf8Length text)) (found (o + utf8Length (opener name))) := by
  intro o rest
  have hverbatim : Command.isVerbatim (String.ofList name) = false := decide_eq_false ordinary
  have hinside : o + utf8Length (called "begin") + utf8Length (braced name) =
      o + utf8Length (opener name) := by rw [opener, utf8Length_append, Nat.add_assoc]
  obtain ⟨events, hscan, htells⟩ := hshows (o + utf8Length (opener name)) (closer name ++ rest)
  refine ⟨_, ?_, htells.enclosed (enclosed name o (utf8Length text))⟩
  have htext : opener name ++ (text ++ closer name) ++ rest =
      opener name ++ (text ++ (closer name ++ rest)) := by simp
  rw [htext, scan_opener, opening_braced h, hverbatim, hinside]
  simp only [Bool.false_eq_true, if_false]
  rw [hscan, scan_closer h]
  simp [enclosed, Nat.add_assoc]

/-! ## Verbatim environments -/

theorem closer_eq_terminator (name : String) : closer name.toList = Reading.terminator name := by
  simp [closer, called, braced, Reading.terminator]

/-- The text that ends a verbatim environment has no other backslash than its first. -/
theorem split_terminator {name : String} (hname : '\\' ∉ name.toList) {body : List Char}
    (inside : ¬ Reading.terminator name <:+: body) (rest : List Char) :
    Cursor.split (Reading.terminator name).isPrefixOf (body ++ (Reading.terminator name ++ rest)) =
      (body, Reading.terminator name ++ rest) := by
  have hhead : ∃ tail, Reading.terminator name = '\\' :: tail ∧ '\\' ∉ tail := by
    refine ⟨"end\x7b".toList ++ name.toList ++ ['}'], rfl, ?_⟩
    simp [hname]
  obtain ⟨tail, htail, hslash⟩ := hhead
  refine Cursor.split_of_forall (fun c cs hc => ?_) (Or.inr ?_)
  · by_contra hfound
    rw [Bool.not_eq_false, List.isPrefixOf_iff_prefix] at hfound
    obtain ⟨after, hafter⟩ := hfound
    rw [← List.cons_append] at hafter
    rcases List.append_eq_append_iff.1 hafter with ⟨within, hwithin, -⟩ | ⟨more, hover, hmore⟩
    · exact inside (List.IsInfix.trans ⟨[], within, by simp [hwithin]⟩ hc.isInfix)
    · -- the text would run over the end of the body, and begin anew where it does
      cases more with
      | nil =>
          rw [List.append_nil] at hover
          exact inside (hover ▸ hc.isInfix)
      | cons d more =>
          rw [htail] at hover hmore
          obtain rfl : '\\' = d := (List.cons.inj hmore).1
          rw [(List.cons.inj hover).2] at hslash
          exact hslash (List.mem_append_right cs List.mem_cons_self)
  · exact List.isPrefixOf_iff_prefix.2 (List.prefix_append _ _)

theorem shows_verbatim {name : String} (known : name ∈ Command.verbatimEnvironments)
    {body : List Char} (inside : ¬ Reading.terminator name <:+: body) :
    Shows (Item.verbatim name known body inside).text
      (Item.verbatim name known body inside).found := by
  have hall : ∀ name ∈ Command.verbatimEnvironments,
      name.toList ≠ [] ∧ name.toList.all isPlain = true := by decide +kernel
  have hplain : Plain name.toList := plain_of_all (hall name known).1 (hall name known).2
  have hslash : '\\' ∉ name.toList := fun h => ne_of_isPlain (hplain.plain _ h) (by decide) rfl
  have hverbatim : Command.isVerbatim (String.ofList name.toList) = true := by
    rw [String.ofList_toList]
    exact decide_eq_true known
  intro o rest
  have hinside : o + utf8Length (called "begin") + utf8Length (braced name.toList) =
      o + utf8Length (opener name.toList) := by rw [opener, utf8Length_append, Nat.add_assoc]
  refine ⟨[.command "begin", .verbatim (enclosed name.toList o (utf8Length body))], ?_, rfl,
    fun p => rfl⟩
  have htext : (Item.verbatim name known body inside).text ++ rest =
      opener name.toList ++ (body ++ (closer name.toList ++ rest)) := by simp [Item.text]
  have hlength : o + utf8Length (Item.verbatim name known body inside).text =
      o + utf8Length (opener name.toList) + utf8Length body +
        utf8Length (closer name.toList) := by simp [Item.text, Nat.add_assoc]
  rw [htext, hlength, scan_opener, opening_braced hplain, hverbatim, if_pos rfl, hinside,
    String.ofList_toList, closer_eq_terminator,
    Reading.verbatim_of_found (split_terminator hslash inside rest)]
  simp [enclosed, closer_eq_terminator]

/-! ## Whole sources -/

theorem shows_item (item : Item) : Shows item.text item.found := by
  cases item with
  | prose content => exact shows_prose content
  | comment line inLine => exact shows_comment inLine
  | label name => exact shows_label name
  | reference command known single names => exact shows_reference known single names
  | range command known first last => exact shows_range known first last
  | citation command known options keys named => exact shows_citation known options keys named
  | inclusion kind command known options paths => exact shows_inclusion kind known options paths
  | heading command level known starred title => exact shows_heading known starred title
  | definition command known name nonempty letters body =>
      exact shows_definition known nonempty letters body
  | verbatim name known body inside => exact shows_verbatim known inside

theorem shows_source (source : Source) : Shows source.text source.found := by
  induction source with
  | done => exact shows_nil
  | item first rest ih => exact (shows_item first).append ih
  | environment name ordinary body rest ihBody ihRest =>
      have hshows := (shows_environment name.plain ordinary ihBody).append ihRest
      have hstop (o : Nat) : o + utf8Length (opener name.text ++ (body.text ++ closer name.text)) =
          (enclosed name.text o (utf8Length body.text)).closing.stop := by
        simp [enclosed, Nat.add_assoc]
      simp only [hstop] at hshows
      exact hshows

/-- **Analysis undoes printing.** -/
theorem analyze_text (source : Source) :
    analyze (String.ofList source.text) =
      { source.found 0 with commands := (source.found 0).commands.eraseDups } := by
  obtain ⟨events, hscan, htells⟩ := shows_source source 0 []
  rw [analyze, Cursor.ofString, String.toList_ofList, ← List.append_nil source.text, hscan,
    scan_nil, List.append_nil]
  exact htells.ofEvents

end Markup

end Manuscript.Latex

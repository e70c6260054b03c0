/-
# Manuscript.Proofs.Bytewise.Command -- a LaTeX text by offsets

Commands, the scan over a LaTeX text and the matching of environments, with every access
checked.  The checked analysis of any text is `.ok` of the analysis (`analyzeLatex_eq`).

A scanner by offsets cuts out names, titles and the rest of the text where the readers
over characters already hold them.  That the cuts are in range and between characters is
in `At`: each reader starts and stops at such a place, with `Reading.From` for the
places that the next turn goes on from.
-/
import Manuscript.Proofs.Bytewise.Group
import Manuscript.Latex.Analysis
import Manuscript.Proofs.Latex.Placement
import Mathlib.Data.List.TakeDrop

namespace Manuscript.Bytewise

set_option autoImplicit false

open Text Latex

/-! ## Readings -/

section

variable (text : List Char)

/-- The offset of the first place where a text is found. -/
def find? (searched cs : List Char) : Option Nat :=
  match Cursor.split searched.isPrefixOf cs with
  | (_, []) => none
  | (before, _) => some (utf8Length before)

def KeyGroup.faults (g : KeyGroup) : List Event :=
  if g.closed then [] else [.fault (missingBrace g.brace)]

/-- One key group whose names become events, and where the scan goes on. -/
def keyEvents (event : Symbol → Event) (i : Nat) : Checked (List Event × Nat) := do
  match ← keyGroup? text i with
  | some g => do
      let names ← keys text g.content
      pure (g.faults ++ names.map event, g.next)
  | none => pure ([], i)

def label (i : Nat) : Checked (List Event × Nat) := do
  match ← keyGroup? text i with
  | some g => do
      let name ← trimmed text g.content
      pure (g.faults ++ (name.map Event.label).toList, g.next)
  | none => pure ([], i)

def references (isRange : Bool) (i : Nat) : Checked (List Event × Nat) := do
  match ← keyGroup? text i with
  | some g => do
      let names ← keys text g.content
      let first := g.faults ++ names.map Event.reference
      if isRange then
        let second ← keyEvents text .reference g.next
        pure (first ++ second.1, second.2)
      else pure (first, g.next)
  | none => pure ([], i)

def citations (i : Nat) : Checked (List Event × Nat) := do
  let i ← optionsEnd text i
  match ← keyGroup? text i with
  | some g => do
      let names ← keys text g.content
      pure (g.faults ++ (names.filter (·.name ≠ "*")).map Event.citation, g.next)
  | none => pure ([], i)

def includes (kind : IncludeKind) (i : Nat) : Checked (List Event × Nat) := do
  keyEvents text (fun path => .inclusion ⟨kind, path.name, path.span⟩) (← optionsEnd text i)

/-- The body of a verbatim environment, up to the literal text that ends it. -/
def verbatim (name : String) (opening : Span) (i : Nat) : Checked (List Event × Nat) := do
  let ending := Reading.terminator name
  match find? ending (← sliceFrom text i) with
  | some relative =>
      let start := i + relative
      let stop := start + utf8Length ending
      pure ([.verbatim ⟨name, opening, ⟨start, stop⟩⟩], stop)
  | none => pure ([.fault (unclosedEnvironment name opening)], utf8Length text)

/-- A begin command whose backslash is at `start`. -/
def opening (start i : Nat) : Checked (List Event × Nat) := do
  match ← keyGroup? text i with
  | some g => do
      match ← trimmed text g.content with
      | some ⟨name, _⟩ =>
          let span := ⟨start, g.next⟩
          if Command.isVerbatim name then do
            let body ← verbatim text name span g.next
            pure (g.faults ++ body.1, body.2)
          else pure (g.faults ++ [.environmentOpened name span], g.next)
      | none => pure (g.faults, g.next)
  | none => pure ([], i)

/-- An end command whose backslash is at `start`. -/
def closing (start i : Nat) : Checked (List Event × Nat) := do
  match ← keyGroup? text i with
  | some g => do
      let name ← trimmed text g.content
      let ended := name.map fun name => Event.environmentClosed name.name ⟨start, g.next⟩
      pure (g.faults ++ ended.toList, g.next)
  | none => pure ([], i)

/-- Where the title in the group at an offset ends, and where the heading does. -/
def titleEnd (opening : Nat) : Checked (Nat × Nat) := do
  match ← matchingBrace? text opening with
  | some closing => pure (closing, closing + 1)
  | none => do
      let lineEnd := match find? ['\n'] (← sliceFrom text opening) with
        | some relative => opening + relative
        | none => utf8Length text
      pure (lineEnd, lineEnd)

/-- A heading whose backslash is at `start`. -/
def heading (start level i : Nat) : Checked (List Event × Nat) := do
  let i ← optionsEnd text i
  let opening ← significant text i
  if ascii? text opening = some '{' then do
    let ends ← titleEnd text opening
    let title ← slice text (opening + 1) ends.1
    pure ([.heading ⟨level, String.ofList (squeeze title), ⟨start, ends.2⟩⟩], opening)
  else pure ([], i)

/-- The command name that starts at an offset with a backslash, and where it ends. -/
def definedName? (start : Nat) : Checked (Option (Symbol × Nat)) :=
  if ascii? text start = some '\\' then do
    let stop ← seek text (fun b => !b.any isLetter) (start + 1)
    if stop = start + 1 then pure none
    else do
      let name ← slice text (start + 1) stop
      pure (some (⟨String.ofList name, ⟨start, stop⟩⟩, stop))
  else pure none

/-- The command a definition defines. -/
def definition (i : Nat) : Checked (List Event × Nat) := do
  let opening ← significant text i
  if ascii? text opening = some '{' then do
    let start ← seek text (fun b => !b.any isAsciiBlank) (opening + 1)
    match ← definedName? text start with
    | some (name, _) => pure ([.definition name], i)
    | none => pure ([], i)
  else
    match ← definedName? text opening with
    | some (name, stop) => pure ([.definition name], stop)
    | none => pure ([], i)

/-- What follows the name of a command whose backslash is at `start`. -/
def arguments (start : Nat) (name : String) (i : Nat) : Checked (List Event × Nat) :=
  if name = "begin" then opening text start i
  else if name = "end" then closing text start i
  else if name = "label" then label text i
  else match Command.includeKind? name with
    | some kind => includes text kind i
    | none =>
        if Command.isLabelReference name then references text (Command.isLabelRange name) i
        else if Command.isCitation name then citations text i
        else match Command.sectionLevel? name with
          | some level => heading text start level i
          | none => if Command.isDefinition name then definition text i else pure ([], i)

/-- What a backslash at `start` begins. -/
def command (start : Nat) : Checked (List Event × Nat) :=
  match (bytes text)[start + 1]? with
  | none => pure ([], start + 1)
  | some b =>
      if b.any isLetter then do
        let letters ← seek text (fun b => !b.any isLetter) (start + 1)
        let stop := if ascii? text letters = some '*' then letters + 1 else letters
        let name := String.ofList (← slice text (start + 1) stop)
        let found ← arguments text start name stop
        pure (.command (Command.bare name) :: found.1, found.2)
      else do
        let rest ← sliceFrom text (start + 1)
        pure ([], start + 1 + (rest.head?.map Char.utf8Size).getD 1)

def latexTurn (events : List Event) (i : Nat) (b : Byte) :
    Checked (Turn (List Event) (List Event)) :=
  if b = some '%' then .on events <$> commentEnd text i
  else if b = some '\\' then do
    let found ← command text i
    pure (.on (events ++ found.1) found.2)
  else if b = some '{' then pure (.on (events ++ [.braceOpened i]) (i + 1))
  else if b = some '}' then pure (.on (events ++ [.braceClosed i]) (i + 1))
  else pure (.on events (i + 1))

/-- Everything a LaTeX text holds, from left to right. -/
def latexEvents : Checked (List Event) :=
  scanBytes text (fun events _ => events) (latexTurn text) [] 0

end

/-- The items before an index and those from it on. -/
def splitOff {α : Type} (xs : List α) (i : Nat) : Checked (List α × List α) :=
  if i ≤ xs.length then .ok (xs.splitAt i) else .error (.index i)

/-- The last index of an item of a class. -/
def lastIndex? {α : Type} (p : α → Bool) (xs : List α) : Option Nat :=
  (xs.reverse.findIdx? p).map fun i => xs.length - 1 - i

/-- An end command, with the open environments in an array, the innermost last. -/
def close (p : Pending) (name : String) (closing : Span) : Checked Pending :=
  let opened := p.environments.reverse
  match lastIndex? (·.1 = name) opened with
  | some index => do
      let parts ← splitOff opened (index + 1)
      let diagnostics := p.diagnostics ++
        parts.2.map fun (inner, span) => unclosedEnvironment inner span
      match parts.1.getLast? with
      | some (found, opening) =>
          pure { p with
            environments := parts.1.dropLast.reverse
            matched := p.matched ++ [⟨found, opening, closing⟩]
            diagnostics }
      | none => pure { p with environments := [], diagnostics }
  | none => pure { p with diagnostics := p.diagnostics ++ [unmatchedEnd name closing] }

def pendingTurn (p : Pending) : Event → Checked Pending
  | .environmentClosed name span => close p name span
  | event => pure (p.step event)

/-- The analysis of a LaTeX text. -/
def analyzeLatex (text : String) : Checked Latex.Structure := do
  let events ← latexEvents text.toList
  let pending ← events.foldlM pendingTurn .start
  pure { Latex.Structure.ofEvents events with
    environments := pending.matched
    diagnostics := Diagnostic.sorted pending.finish }

/-! ## Arguments -/

/-- What a reading saw, by offsets. -/
def seen (r : Reading) : List Event × Nat := (r.events, r.next.offset)

section

variable {text : List Char} {k : Cursor} {g : Group}

@[simp] theorem faults_ofGroup (g : Group) : (KeyGroup.ofGroup g).faults = g.faults := rfl

@[simp] theorem next_ofGroup (g : Group) : (KeyGroup.ofGroup g).next = g.next.offset := rfl

theorem keys_ofGroup (h : At text k) (hg : Group.read? k = some g) :
    keys text (KeyGroup.ofGroup g).content = .ok g.names := by
  obtain ⟨rest, hcontent⟩ := at_content h hg
  exact keys_at hcontent

theorem trimmed_ofGroup (h : At text k) (hg : Group.read? k = some g) :
    trimmed text (KeyGroup.ofGroup g).content = .ok g.name? := by
  obtain ⟨rest, hcontent⟩ := at_content h hg
  exact trimmed_at hcontent

theorem at_next (h : At text k) (hg : Group.read? k = some g) : At text g.next :=
  h.trans (Group.reaches_read? hg)

theorem at_skipOptions (h : At text k) : At text (skipOptions k) :=
  h.trans (reaches_skipOptions k)

theorem keyEvents_at (event : Symbol → Event) (h : At text k) :
    keyEvents text event k.offset = .ok (seen (.keys event k)) := by
  rw [keyEvents, keyGroup?_at h, Reading.keys]
  cases hg : Group.read? k with
  | none => rfl
  | some g => simp [keys_ofGroup h hg, seen]

theorem label_at (h : At text k) : label text k.offset = .ok (seen (.label k)) := by
  rw [label, keyGroup?_at h, Reading.label]
  cases hg : Group.read? k with
  | none => rfl
  | some g => simp [trimmed_ofGroup h hg, seen]

theorem references_at (isRange : Bool) (h : At text k) :
    references text isRange k.offset = .ok (seen (.references isRange k)) := by
  rw [references, keyGroup?_at h, Reading.references]
  cases hg : Group.read? k with
  | none => rfl
  | some g =>
      cases isRange <;>
        simp [keys_ofGroup h hg, keyEvents_at .reference (at_next h hg), seen, Reading.nothing]

theorem citations_at (h : At text k) : citations text k.offset = .ok (seen (.citations k)) := by
  have hhere := at_skipOptions h
  rw [citations, optionsEnd_at h, ok_bind, keyGroup?_at hhere, Reading.citations]
  cases hg : Group.read? (skipOptions k) with
  | none => rfl
  | some g => simp [keys_ofGroup hhere hg, seen]

theorem includes_at (kind : IncludeKind) (h : At text k) :
    includes text kind k.offset = .ok (seen (.includes kind k)) := by
  rw [includes, optionsEnd_at h, ok_bind, keyEvents_at _ (at_skipOptions h)]
  rfl

/-! ## Environments -/

theorem verbatim_at (name : String) (span : Span) (h : At text k) :
    verbatim text name span k.offset = .ok (seen (.verbatim name span k)) := by
  obtain ⟨i, cs⟩ := k
  have happend := Cursor.split_append (Reading.terminator name).isPrefixOf cs
  rw [verbatim, sliceFrom_at h, ok_bind, find?]
  simp only [Reading.verbatim, Cursor.upTo]
  generalize Cursor.split (Reading.terminator name).isPrefixOf cs = parts at happend
  obtain ⟨body, rest⟩ := parts
  cases rest with
  | nil =>
      have hend := h.length_eq
      rw [← happend, List.append_nil] at hend
      simp [seen, Cursor.after, hend]
  | cons c rest => simp [seen, Cursor.after]

theorem opening_at (start : Nat) (h : At text k) :
    opening text start k.offset = .ok (seen (.opening start k)) := by
  rw [opening, keyGroup?_at h, Reading.opening]
  cases hg : Group.read? k with
  | none => rfl
  | some g =>
      simp only [Option.map_some, ok_bind, trimmed_ofGroup h hg]
      cases g.name? with
      | none => rfl
      | some symbol =>
          by_cases hverbatim : Command.isVerbatim symbol.name
          · simp [hverbatim, verbatim_at _ _ (at_next h hg), seen]
          · simp [hverbatim, seen]

theorem closing_at (start : Nat) (h : At text k) :
    closing text start k.offset = .ok (seen (.closing start k)) := by
  rw [closing, keyGroup?_at h, Reading.closing]
  cases hg : Group.read? k with
  | none => rfl
  | some g => simp [trimmed_ofGroup h hg, seen]

/-! ## Headings and definitions -/

/-- The title after the brace at an offset, and where the heading ends. -/
def titleAt (opening : Nat) (body : List Char) : List Char × Nat :=
  match untilClosing? 0 .plain body with
  | some (title, _) => (title, opening + 1 + utf8Length title + 1)
  | none =>
      let title := (Cursor.split (startsWith (· == '\n')) body).1
      (title, opening + 1 + utf8Length title)

theorem heading_eq {start level i : Nat} {body : List Char}
    (h : skipLayout (skipOptions k) = ⟨i, '{' :: body⟩) :
    Reading.heading start level k =
      ⟨[.heading ⟨level, String.ofList (squeeze (titleAt i body).1),
        ⟨start, (titleAt i body).2⟩⟩], ⟨i, '{' :: body⟩⟩ := by
  simp only [Reading.heading, h]
  rfl

theorem isPrefixOf_singleton (c : Char) : [c].isPrefixOf = startsWith (· == c) := by
  funext cs
  cases cs with
  | nil => rfl
  | cons d cs => simp [List.isPrefixOf, startsWith, Bool.beq_comm]

theorem titleEnd_at {i : Nat} {body : List Char} (h : At text ⟨i, '{' :: body⟩) :
    titleEnd text i = .ok (i + 1 + utf8Length (titleAt i body).1, (titleAt i body).2) ∧
      ∃ rest, body = (titleAt i body).1 ++ rest := by
  rw [titleEnd, matchingBrace?_at h, titleAt]
  cases hfound : untilClosing? 0 .plain body with
  | some parts => exact ⟨rfl, parts.2, (Group.untilClosing?_append hfound).symm⟩
  | none =>
      have happend := Cursor.split_append (startsWith (· == '\n')) body
      refine ⟨?_, _, happend.symm⟩
      have hopening : Cursor.split [('\n' : Char)].isPrefixOf ('{' :: body) =
          ('{' :: (Cursor.split (startsWith (· == '\n')) body).1,
            (Cursor.split (startsWith (· == '\n')) body).2) := by
        rw [isPrefixOf_singleton, Cursor.split, startsWith, if_neg (by decide)]
      rcases hsplit : Cursor.split (startsWith (· == '\n')) body with ⟨line, rest⟩
      rw [hsplit] at happend hopening
      simp only [behind, Option.map_none, ok_bind, sliceFrom_at h, find?, hopening]
      cases rest with
      | nil =>
          rw [List.append_nil] at happend
          rw [h.length_eq, ← happend]
          simp [Nat.add_assoc, Char.utf8Size]
      | cons c rest => simp [Nat.add_assoc, Char.utf8Size]

theorem heading_at (start level : Nat) (h : At text k) :
    heading text start level k.offset = .ok (seen (.heading start level k)) := by
  have hhere := at_skipLayout (at_skipOptions h)
  rw [heading, optionsEnd_at h, ok_bind, significant_at (at_skipOptions h), ok_bind]
  rcases heq : skipLayout (skipOptions k) with ⟨i, rest⟩
  rw [heq] at hhere
  cases rest with
  | nil => simp [ascii?_end hhere, Reading.heading, heq, seen, Reading.nothing]
  | cons c body =>
      rw [ascii?_at hhere]
      by_cases hc : c = '{'
      · subst hc
        obtain ⟨hends, rest, hbody⟩ := titleEnd_at hhere
        have htitle : At text ⟨i + 1, (titleAt i body).1 ++ rest⟩ := hbody ▸ hhere.next
        rw [if_pos (by decide), hends, ok_bind, slice_at htitle, heading_eq heq]
        rfl
      · simp [hc, Reading.heading, heq, seen, Reading.nothing]

theorem ascii_of_isLetter (c : Char) (h : isLetter c = true) : c.val ≤ 127 := by
  rw [isLetter, Bool.or_eq_true, beq_iff_eq] at h
  rcases h with h | rfl
  · exact ascii_of_isAlpha c h
  · decide

theorem definedName?_at (h : At text k) :
    definedName? text k.offset =
      .ok ((Reading.definedName? k).map fun found => (found.1, found.2.offset)) := by
  obtain ⟨i, rest⟩ := k
  cases rest with
  | nil => simp [definedName?, ascii?_end h, Reading.definedName?]
  | cons c cs =>
      rw [definedName?, ascii?_at h]
      by_cases hc : c = '\\'
      · subst hc
        have hnext : At text ⟨i + 1, cs⟩ := h.next
        obtain ⟨⟨name, rest⟩, hsplit⟩ :
            ∃ parts, Cursor.split (startsWith (!isLetter ·)) cs = parts := ⟨_, rfl⟩
        obtain ⟨hseek, hname⟩ := seek_class_of_split ascii_of_isLetter hnext hsplit
        rw [if_pos (by decide), hseek, ok_bind]
        cases name with
        | nil => simp [Reading.definedName?, hsplit]
        | cons c name =>
            have hpos := utf8Length_pos (List.cons_ne_nil c name)
            simp only [Reading.definedName?, hsplit, Cursor.after]
            rw [if_neg (by omega), slice_at hname]
            simp [Nat.add_assoc, Char.utf8Size]
      · simp [hc, Reading.definedName?]

theorem definition_at (h : At text k) :
    definition text k.offset = .ok (seen (.definition k)) := by
  have hhere := at_skipLayout h
  have hplain := definedName?_at hhere
  rw [definition, significant_at h, ok_bind]
  rcases heq : (skipLayout k).rest with _ | ⟨c, body⟩
  · have hend : ascii? text (skipLayout k).offset = none := ascii?_end (heq ▸ hhere)
    rw [hend, if_neg (by simp), hplain, Reading.definition_plain (by simp [heq])]
    cases Reading.definedName? (skipLayout k) <;> rfl
  have hfirst : At text ⟨(skipLayout k).offset, c :: body⟩ := heq ▸ hhere
  rw [ascii?_at hfirst]
  by_cases hc : c = '{'
  · subst hc
    have hbump : (skipLayout k).bump = ⟨(skipLayout k).offset + 1, body⟩ := by
      rw [Cursor.bump, heq]
      rfl
    have hbody : At text (skipLayout k).bump := hbump ▸ hfirst.next
    have hname := definedName?_at
      (hbody.trans (Cursor.reaches_upTo (startsWith (!isAsciiBlank ·)) _))
    have hseek := seek_class ascii_of_isAsciiBlank hbody
    rw [hbump] at hseek
    rw [if_pos (by decide), hseek, ok_bind, ← hbump, hname, Reading.definition_brace heq]
    cases Reading.definedName? ((skipLayout k).bump.upTo (startsWith (!isAsciiBlank ·))).2 <;> rfl
  · rw [if_neg (by simpa using hc), hplain, Reading.definition_plain (by simp [heq, hc])]
    cases Reading.definedName? (skipLayout k) <;> rfl

theorem arguments_at (start : Nat) (name : String) (h : At text k) :
    arguments text start name k.offset = .ok (seen (.arguments start name k)) := by
  unfold arguments Reading.arguments
  split
  · exact opening_at start h
  split
  · exact closing_at start h
  split
  · exact label_at h
  cases Command.includeKind? name with
  | some kind => exact includes_at kind h
  | none =>
      dsimp only
      split
      · exact references_at _ h
      split
      · exact citations_at h
      cases Command.sectionLevel? name with
      | some level => exact heading_at start level h
      | none =>
          dsimp only
          split
          · exact definition_at h
          · rfl

/-- The letters of a command name and its star. -/
theorem commandName_at {i : Nat} {cs : List Char} (h : At text ⟨i, cs⟩) :
    ∃ letters, seek text (fun b => !b.any isLetter) i = .ok letters ∧
      (if ascii? text letters = some '*' then letters + 1 else letters) =
        i + utf8Length (commandName cs).1 := by
  obtain ⟨⟨letters, rest⟩, hsplit⟩ :
      ∃ parts, Cursor.split (startsWith (!isLetter ·)) cs = parts := ⟨_, rfl⟩
  obtain ⟨hseek, hletters⟩ := seek_class_of_split ascii_of_isLetter h hsplit
  refine ⟨_, hseek, ?_⟩
  rcases rest with _ | ⟨c, rest⟩
  · rw [ascii?_end hletters.skip, commandName_letters hsplit (by simp), if_neg (by simp)]
  · rw [ascii?_at hletters.skip]
    by_cases hc : c = '*'
    · subst hc
      rw [commandName_star hsplit, if_pos (by decide)]
      simp [Char.utf8Size, Nat.add_assoc]
    · rw [commandName_letters hsplit (by simp [hc]), if_neg (by simpa using hc)]

theorem command_at {start : Nat} {cs : List Char} (h : At text ⟨start, '\\' :: cs⟩) :
    command text start = .ok (seen (readCommand start ⟨start + 1, cs⟩)) := by
  have hnext : At text ⟨start + 1, cs⟩ := h.next
  cases cs with
  | nil =>
      have hend : (bytes text)[start + 1]? = none := by
        rw [List.getElem?_eq_none_iff, length_bytes, hnext.length_eq]
        exact Nat.le_refl _
      rw [command, hend]
      rfl
  | cons c cs =>
      have hbyte := first_byte_at hnext
      by_cases hc : isLetter c = true
      · obtain ⟨letters, hseek, hstop⟩ := commandName_at hnext
        have hname : At text ⟨start + 1, (commandName (c :: cs)).1 ++ (commandName (c :: cs)).2⟩ :=
          (commandName_append (c :: cs)).symm ▸ hnext
        have hclass : (Byte.ofChar c).any isLetter = true := by rwa [any_ofChar ascii_of_isLetter]
        have harguments := arguments_at start (String.ofList (commandName (c :: cs)).1) hname.skip
        simp only [command, hbyte, if_pos hclass, hseek, ok_bind, hstop, slice_at hname, harguments,
          readCommand, if_pos hc]
        rfl
      · have hclass : (Byte.ofChar c).any isLetter = false := by
          rw [any_ofChar ascii_of_isLetter, Bool.eq_false_iff]
          exact hc
        simp [command, hbyte, hclass, sliceFrom_at hnext, readCommand, hc, seen, Reading.nothing,
          Cursor.bump]

/-! ## The scan -/

/-- One turn of the scan is one reading. -/
theorem latexEvents_turn {i : Nat} {c : Char} {cs : List Char} (h : At text ⟨i, c :: cs⟩)
    (events : List Event) :
    scanBytes text (fun events _ => events) (latexTurn text) events i =
      scanBytes text (fun events _ => events) (latexTurn text)
        (events ++ (Reading.at i c cs).events) (Reading.at i c cs).next.offset := by
  have hpass (events : List Event) (i : Nat) :
      latexTurn text events i none = .ok (.on events (i + 1)) := rfl
  by_cases hslash : c = '\\'
  · subst hslash
    have hturn : latexTurn text events i (Byte.ofChar '\\') =
        command text i >>= fun found => pure (.on (events ++ found.1) found.2) := rfl
    obtain ⟨read, -, hnext⟩ := from_readCommand i ⟨i + 1, cs⟩
    have hlt : i < (readCommand i ⟨i + 1, cs⟩).next.offset :=
      Nat.lt_of_lt_of_le (Nat.lt_succ_self i) (hnext ▸ Nat.le_add_right (i + 1) _)
    rw [command_at h, ok_bind] at hturn
    exact scanBytes_on h hturn hlt
  by_cases hpercent : c = '%'
  · subst hpercent
    rw [scanBytes_seek h rfl (by decide)]
    show commentEnd text (i + '%'.utf8Size) >>= _ = _
    rw [commentEnd_at h.next, ok_bind]
    simp [Reading.at, Reading.token, Reading.nothing]
  by_cases hopen : c = '{'
  · subst hopen
    exact scanBytes_next h rfl fun _ => hpass _
  by_cases hclose : c = '}'
  · subst hclose
    exact scanBytes_next h rfl fun _ => hpass _
  · have hturn : latexTurn text events i (Byte.ofChar c) = .ok (.on events (i + 1)) := by
      simp [latexTurn, hslash, hpercent, hopen, hclose]
    rw [scanBytes_next h hturn fun _ => hpass _]
    simp [Reading.at, Reading.token, Reading.nothing, hslash, hpercent, hopen, hclose]

theorem latexEvents_scan {k : Cursor} (h : At text k) (events : List Event) :
    scanBytes text (fun events _ => events) (latexTurn text) events k.offset =
      .ok (events ++ scan k) := by
  induction k using scan_induction generalizing events with
  | nil i => rw [scanBytes_nil h, scan_nil, List.append_nil]
  | cons i c cs ih =>
      have hnext := h.next.trans (Reading.from_token i c ⟨i + c.utf8Size, cs⟩)
      rw [latexEvents_turn h, ih hnext, scan_cons, List.append_assoc]

/-- **The events found by offsets are the events of the text.** -/
theorem latexEvents_eq (text : List Char) : latexEvents text = .ok (scan ⟨0, text⟩) :=
  latexEvents_scan (at_start text) []

end

/-! ## Environments -/

/-- The open environments, cut at the innermost one of a name. -/
theorem span_cases (name : String) (environments : List (String × Span)) :
    (∀ e ∈ environments, e.1 ≠ name) ∨ ∃ inner opening outer,
      environments = inner ++ (name, opening) :: outer ∧ ∀ e ∈ inner, e.1 ≠ name := by
  induction environments with
  | nil => exact Or.inl fun e he => (nomatch he)
  | cons e es ih =>
      by_cases hname : e.1 = name
      · exact Or.inr ⟨[], e.2, es, by rw [← hname]; rfl, fun e he => (nomatch he)⟩
      rcases ih with hnone | ⟨inner, opening, outer, rfl, hinner⟩
      · exact Or.inl (List.forall_mem_cons.2 ⟨hname, hnone⟩)
      · exact Or.inr ⟨e :: inner, opening, outer, rfl, List.forall_mem_cons.2 ⟨hname, hinner⟩⟩

section

variable {α : Type} {p : α → Bool} {before after : List α} {a : α}

theorem lastIndex?_eq_none {xs : List α} (h : ∀ a ∈ xs, p a = false) : lastIndex? p xs = none := by
  rw [lastIndex?, List.findIdx?_eq_none_iff.2 fun a ha => h a (List.mem_reverse.1 ha)]
  rfl

theorem lastIndex?_append (ha : p a = true) (hafter : ∀ b ∈ after, p b = false) :
    lastIndex? p (before ++ a :: after) = some before.length := by
  have hnone : after.reverse.findIdx? p = none :=
    List.findIdx?_eq_none_iff.2 fun b hb => hafter b (List.mem_reverse.1 hb)
  rw [lastIndex?, List.reverse_append, List.reverse_cons, List.append_assoc, List.findIdx?_append,
    hnone]
  simp [List.findIdx?_cons, ha]

theorem splitOff_append : splitOff (before ++ after) before.length = .ok (before, after) := by
  rw [splitOff, if_pos (by simp), List.splitAt_eq, List.take_left, List.drop_left]

theorem span_append (ha : p a = false) (hbefore : ∀ b ∈ before, p b = true) :
    (before ++ a :: after).span p = (before, a :: after) := by
  rw [List.span_eq_takeWhile_dropWhile, List.takeWhile_append_of_pos hbefore,
    List.dropWhile_append_of_pos hbefore, List.takeWhile_cons_of_neg (by simp [ha]),
    List.dropWhile_cons_of_neg (by simp [ha]), List.append_nil]

end

theorem close_eq (p : Pending) (name : String) (closing : Span) :
    close p name closing = .ok (p.close name closing) := by
  rcases span_cases name p.environments with hnone | ⟨inner, opening, outer, henv, hinner⟩
  · have hspan : p.environments.span (·.1 ≠ name) = (p.environments, []) := by
      rw [List.span_eq_takeWhile_dropWhile, List.takeWhile_eq_self_iff.2,
        List.dropWhile_eq_nil_iff.2]
      all_goals simpa using hnone
    have hindex : lastIndex? (·.1 = name) p.environments.reverse = none :=
      lastIndex?_eq_none fun e he => decide_eq_false (hnone e (List.mem_reverse.1 he))
    rw [close, Pending.close, hspan]
    simp [hindex]
  · have hspan : p.environments.span (·.1 ≠ name) = (inner, (name, opening) :: outer) := by
      rw [henv]
      exact span_append (by simp) fun e he => decide_eq_true (hinner e he)
    have hopened : p.environments.reverse =
        (outer.reverse ++ [(name, opening)]) ++ inner.reverse := by simp [henv]
    have hindex : lastIndex? (·.1 = name) p.environments.reverse = some outer.length := by
      rw [hopened, List.append_assoc, List.singleton_append, ← List.length_reverse]
      exact lastIndex?_append (by simp) fun e he =>
        decide_eq_false (hinner e (List.mem_reverse.1 he))
    have hsplit : splitOff p.environments.reverse (outer.length + 1) =
        .ok (outer.reverse ++ [(name, opening)], inner.reverse) := by
      have := @splitOff_append _ (outer.reverse ++ [(name, opening)]) inner.reverse
      rwa [← hopened, List.length_append, List.length_reverse] at this
    rw [close, Pending.close, hspan]
    simp [hindex, hsplit, Pending.unclosed]

theorem pendingTurn_eq (p : Pending) (e : Event) : pendingTurn p e = .ok (p.step e) := by
  cases e with
  | environmentClosed name span => exact close_eq p name span
  | _ => rfl

theorem foldlM_pendingTurn (events : List Event) (p : Pending) :
    events.foldlM pendingTurn p = .ok (events.foldl Pending.step p) := by
  induction events generalizing p with
  | nil => rfl
  | cons e events ih => rw [List.foldlM_cons, pendingTurn_eq, ok_bind, ih, List.foldl_cons]

/-- **The checked analysis of a LaTeX text is its analysis.** -/
theorem analyzeLatex_eq (text : String) : analyzeLatex text = .ok (Latex.analyze text) := by
  rw [analyzeLatex, latexEvents_eq, ok_bind, foldlM_pendingTurn]
  rfl

end Manuscript.Bytewise

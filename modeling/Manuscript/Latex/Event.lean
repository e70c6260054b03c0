/-
# Manuscript.Latex.Event -- a LaTeX text as a list of events

`scan` reads a text once, from left to right, and lists what it meets: braces,
commands with the symbols in their arguments, the ends of environments, half
typed groups.  What is met at a place depends on the remaining text alone, not on
what was open before it, so braces and environments are matched afterwards, over
the list.

Readers for the single commands take the cursor after the command name and give
their events with the cursor where the scan goes on.  Each goes to a place it
reaches (`reaches_read`), and a command takes at least its backslash, so the scan
ends.  The braces of a key group never appear as events; those of a title, of a
definition and of an unread argument do.
-/
import Manuscript.Latex.Group
import Manuscript.Latex.Structure

namespace Manuscript.Latex

set_option autoImplicit false

open Text

inductive Event where
  | command (name : String)
  | braceOpened (offset : Nat)
  | braceClosed (offset : Nat)
  | label (symbol : Symbol)
  | reference (symbol : Symbol)
  | citation (symbol : Symbol)
  | inclusion (file : Include)
  | heading (part : Section)
  | definition (symbol : Symbol)
  | environmentOpened (name : String) (span : Span)
  | environmentClosed (name : String) (span : Span)
  | verbatim (environment : Environment)
  | fault (diagnostic : Diagnostic)
deriving DecidableEq, Repr

/-! ## Faults -/

def unmatchedBrace (offset : Nat) : Diagnostic :=
  ⟨.error, "Unmatched closing brace", some "TEX001", ⟨offset, offset + 1⟩⟩

def missingBrace (offset : Nat) : Diagnostic :=
  ⟨.error, "Missing closing brace", some "TEX002", ⟨offset, offset + 1⟩⟩

def unmatchedEnd (name : String) (span : Span) : Diagnostic :=
  ⟨.error, "\\end\x7b" ++ name ++ "\x7d has no matching \\begin", some "TEX003", span⟩

def unclosedEnvironment (name : String) (span : Span) : Diagnostic :=
  ⟨.error, "Environment '" ++ name ++ "' is not closed", some "TEX004", span⟩

/-- A half typed group lacks its closing brace. -/
def Group.faults (g : Group) : List Event :=
  if g.closed then [] else [.fault (missingBrace g.brace)]

/-! ## Arguments -/

/-- What a reader saw, and where the scan goes on. -/
structure Reading where
  events : List Event
  next : Cursor
deriving DecidableEq, Repr

namespace Reading

/-- Nothing was read. -/
def nothing (k : Cursor) : Reading := ⟨[], k⟩

/-- One key group whose names become events. -/
def keys (event : Symbol → Event) (k : Cursor) : Reading :=
  match Group.read? k with
  | some g => ⟨g.faults ++ g.names.map event, g.next⟩
  | none => nothing k

/-- The label of a label command is its whole argument. -/
def label (k : Cursor) : Reading :=
  match Group.read? k with
  | some g => ⟨g.faults ++ (g.name?.map Event.label).toList, g.next⟩
  | none => nothing k

/-- A label reference, with a second key group when it is a range. -/
def references (isRange : Bool) (k : Cursor) : Reading :=
  match Group.read? k with
  | some g =>
      let first := g.faults ++ g.names.map Event.reference
      let second := if isRange then keys .reference g.next else nothing g.next
      ⟨first ++ second.events, second.next⟩
  | none => nothing k

/-- The keys of a citation; a star stands for every entry and names none. -/
def citations (k : Cursor) : Reading :=
  match Group.read? (skipOptions k) with
  | some g =>
      ⟨g.faults ++ (g.names.filter (·.name ≠ "*")).map Event.citation, g.next⟩
  | none => nothing (skipOptions k)

def includes (kind : IncludeKind) (k : Cursor) : Reading :=
  keys (fun path => .inclusion ⟨kind, path.name, path.span⟩) (skipOptions k)

/-! ## Environments -/

/-- The text that ends a verbatim environment. -/
def terminator (name : String) : List Char := "\\end\x7b".toList ++ name.toList ++ ['\x7d']

/-- The body of a verbatim environment, up to the literal text that ends it. -/
def verbatim (name : String) (opening : Span) (k : Cursor) : Reading :=
  let ending := terminator name
  let (body, k') := k.upTo ending.isPrefixOf
  match k'.rest with
  | [] => ⟨[.fault (unclosedEnvironment name opening)], k.after body []⟩
  | _ =>
      let k'' := k'.after ending (k'.rest.drop ending.length)
      ⟨[.verbatim ⟨name, opening, ⟨k'.offset, k''.offset⟩⟩], k''⟩

/-- A begin command whose backslash is at `start`. -/
def opening (start : Nat) (k : Cursor) : Reading :=
  match Group.read? k with
  | some g =>
      match g.name? with
      | some ⟨name, _⟩ =>
          let span := ⟨start, g.next.offset⟩
          if Command.isVerbatim name then
            let body := verbatim name span g.next
            ⟨g.faults ++ body.events, body.next⟩
          else ⟨g.faults ++ [.environmentOpened name span], g.next⟩
      | none => ⟨g.faults, g.next⟩
  | none => nothing k

/-- An end command whose backslash is at `start`. -/
def closing (start : Nat) (k : Cursor) : Reading :=
  match Group.read? k with
  | some g =>
      let ended := g.name?.map fun name => .environmentClosed name.name ⟨start, g.next.offset⟩
      ⟨g.faults ++ ended.toList, g.next⟩
  | none => nothing k

/-! ## Headings and definitions -/

/-- A heading whose backslash is at `start`.  The title ends at its closing brace, or at the
end of the line when there is none, and is read again for what it contains. -/
def heading (start level : Nat) (k : Cursor) : Reading :=
  let here := skipLayout (skipOptions k)
  match here.rest with
  | '{' :: body =>
      let inside := here.offset + 1
      let (title, stop) :=
        match untilClosing? 0 .plain body with
        | some (title, _) => (title, inside + utf8Length title + 1)
        | none =>
            let title := (Cursor.split (startsWith (· == '\n')) body).1
            (title, inside + utf8Length title)
      ⟨[.heading ⟨level, String.ofList (squeeze title), ⟨start, stop⟩⟩], here⟩
  | _ => nothing (skipOptions k)

/-- The command name that starts at `k` with a backslash, and the cursor after it. -/
def definedName? (k : Cursor) : Option (Symbol × Cursor) :=
  match k.rest with
  | '\\' :: cs =>
      match Cursor.split (startsWith (!isLetter ·)) cs with
      | ([], _) => none
      | (name, rest) =>
          let k' := k.after ('\\' :: name) rest
          some (⟨String.ofList name, ⟨k.offset, k'.offset⟩⟩, k')
  | _ => none

/-- The command a definition defines.  A name in braces is read again, so that its group is
counted. -/
def definition (k : Cursor) : Reading :=
  let here := skipLayout k
  match here.rest with
  | '{' :: _ =>
      match definedName? (here.bump.upTo (startsWith (!isAsciiBlank ·))).2 with
      | some (name, _) => ⟨[.definition name], k⟩
      | none => nothing k
  | _ =>
      match definedName? here with
      | some (name, k') => ⟨[.definition name], k'⟩
      | none => nothing k

/-! ## Commands -/

/-- What follows the name of a command whose backslash is at `start`. -/
def arguments (start : Nat) (name : String) (k : Cursor) : Reading :=
  if name = "begin" then opening start k
  else if name = "end" then closing start k
  else if name = "label" then label k
  else match Command.includeKind? name with
    | some kind => includes kind k
    | none =>
        if Command.isLabelReference name then references (Command.isLabelRange name) k
        else if Command.isCitation name then citations k
        else match Command.sectionLevel? name with
          | some level => heading start level k
          | none => if Command.isDefinition name then definition k else nothing k

end Reading

/-- A command name: letters and at most one star, and what follows. -/
def commandName (cs : List Char) : List Char × List Char :=
  match Cursor.split (startsWith (!isLetter ·)) cs with
  | (letters, '*' :: rest) => (letters ++ ['*'], rest)
  | split => split

/-- What a backslash at `start` begins; the cursor is after it. -/
def readCommand (start : Nat) (k : Cursor) : Reading :=
  match k.rest with
  | [] => .nothing k
  | c :: _ =>
      if isLetter c then
        let (name, rest) := commandName k.rest
        let name' := String.ofList name
        let reading := Reading.arguments start name' (k.after name rest)
        ⟨.command (Command.bare name') :: reading.events, reading.next⟩
      else .nothing k.bump

/-! ## Readers move forward -/

namespace Reading

/-- The reading goes on at a place that `k` reaches. -/
abbrev From (k : Cursor) (r : Reading) : Prop := k.Reaches r.next

theorem from_nothing (k : Cursor) : (nothing k).From k := Cursor.Reaches.refl k

theorem from_keys (event : Symbol → Event) (k : Cursor) : (keys event k).From k := by
  unfold keys
  split
  · rename_i g h
    exact Group.reaches_read? h
  · exact from_nothing k

theorem from_label (k : Cursor) : (label k).From k := by
  unfold label
  split
  · rename_i g h
    exact Group.reaches_read? h
  · exact from_nothing k

theorem from_references (isRange : Bool) (k : Cursor) : (references isRange k).From k := by
  unfold references
  split
  · rename_i g h
    refine (Group.reaches_read? h).trans ?_
    by_cases hr : isRange
    · simpa [hr] using from_keys .reference g.next
    · simpa [hr] using from_nothing g.next
  · exact from_nothing k

theorem from_citations (k : Cursor) : (citations k).From k := by
  unfold citations
  split
  · rename_i g h
    exact (reaches_skipOptions k).trans (Group.reaches_read? h)
  · exact reaches_skipOptions k

theorem from_includes (kind : IncludeKind) (k : Cursor) : (includes kind k).From k :=
  (reaches_skipOptions k).trans (from_keys _ _)

/-- A place found by searching for a text is where that text stands. -/
theorem isPrefixOf_of_split {text cs body rest : List Char} {c : Char}
    (h : Cursor.split text.isPrefixOf cs = (body, c :: rest)) :
    text.isPrefixOf (c :: rest) = true := by
  induction cs generalizing body with
  | nil => simp [Cursor.split] at h
  | cons d ds ih =>
    unfold Cursor.split at h
    split at h
    · rename_i hd
      simp only [Prod.mk.injEq] at h
      rw [← h.2]
      exact hd
    · simp only [Prod.mk.injEq] at h
      exact ih (Prod.ext rfl h.2)

theorem from_verbatim (name : String) (opening : Span) (k : Cursor) :
    (verbatim name opening k).From k := by
  have happ := Cursor.split_append (terminator name).isPrefixOf k.rest
  simp only [verbatim, Cursor.upTo, Cursor.after]
  split
  · rename_i hr
    exact Cursor.reaches_after (by simpa [hr] using happ)
  · rename_i hr
    refine Cursor.Reaches.trans (b := (k.upTo (terminator name).isPrefixOf).2)
      (Cursor.reaches_upTo _ k) (Cursor.reaches_after ?_)
    cases hs : Cursor.split (terminator name).isPrefixOf k.rest with
    | mk body rest =>
      cases rest with
      | nil => simp [hs] at hr
      | cons c rest =>
        have hp := isPrefixOf_of_split hs
        obtain ⟨t, ht⟩ := List.isPrefixOf_iff_prefix.1 hp
        simp [Cursor.upTo, Cursor.after, hs, ← ht]

theorem from_opening (start : Nat) (k : Cursor) : (opening start k).From k := by
  unfold opening
  split
  · rename_i g h
    split
    · simp only
      split
      · exact (Group.reaches_read? h).trans (from_verbatim _ _ _)
      · exact Group.reaches_read? h
    · exact Group.reaches_read? h
  · exact from_nothing k

theorem from_closing (start : Nat) (k : Cursor) : (closing start k).From k := by
  unfold closing
  split
  · rename_i g h
    exact Group.reaches_read? h
  · exact from_nothing k

theorem from_heading (start level : Nat) (k : Cursor) : (heading start level k).From k := by
  simp only [heading]
  split
  · exact (reaches_skipOptions k).trans (reaches_skipLayout _)
  · exact reaches_skipOptions k

theorem reaches_definedName? {k k' : Cursor} {name : Symbol}
    (h : definedName? k = some (name, k')) : k.Reaches k' := by
  unfold definedName? at h
  split at h
  · rename_i cs hcs
    split at h
    · simp at h
    · rename_i letters rest _ hs
      simp only [Option.some.injEq, Prod.mk.injEq] at h
      rw [← h.2]
      refine Cursor.reaches_after ?_
      have := Cursor.split_append (startsWith (!isLetter ·)) cs
      simp only [hs] at this
      simp [hcs, this]
  · simp at h

/-- The command that a definition in braces defines. -/
theorem definition_brace {k : Cursor} {body : List Char} (h : (skipLayout k).rest = '{' :: body) :
    definition k = ⟨((definedName? ((skipLayout k).bump.upTo
      (startsWith (!isAsciiBlank ·))).2).map fun found => Event.definition found.1).toList, k⟩ := by
  unfold definition
  dsimp only
  rw [h]
  cases definedName? ((skipLayout k).bump.upTo (startsWith (!isAsciiBlank ·))).2 with
  | none => rfl
  | some found => rfl

theorem definition_plain {k : Cursor} (h : ∀ body, (skipLayout k).rest ≠ '{' :: body) :
    definition k = match definedName? (skipLayout k) with
      | some (name, k') => ⟨[.definition name], k'⟩
      | none => nothing k := by
  unfold definition
  dsimp only
  split
  · rename_i body hbody
    exact absurd hbody (h body)
  · rfl

theorem from_definition (k : Cursor) : (definition k).From k := by
  simp only [definition]
  split
  · split
    · exact Cursor.Reaches.refl k
    · exact Cursor.Reaches.refl k
  · split
    · rename_i h
      exact (reaches_skipLayout k).trans (reaches_definedName? h)
    · exact Cursor.Reaches.refl k

theorem from_arguments (start : Nat) (name : String) (k : Cursor) :
    (arguments start name k).From k := by
  unfold arguments
  repeat' split
  · exact from_opening start k
  · exact from_closing start k
  · exact from_label k
  · exact from_includes _ k
  · exact from_references _ k
  · exact from_citations k
  · exact from_heading start _ k
  · exact from_definition k
  · exact from_nothing k

end Reading

theorem commandName_append (cs : List Char) : (commandName cs).1 ++ (commandName cs).2 = cs := by
  have h := Cursor.split_append (startsWith (!isLetter ·)) cs
  unfold commandName
  split
  · rename_i letters rest hs
    simpa [hs] using h
  · exact h

theorem commandName_star {cs letters rest : List Char}
    (h : Cursor.split (startsWith (!isLetter ·)) cs = (letters, '*' :: rest)) :
    commandName cs = (letters ++ ['*'], rest) := by
  unfold commandName
  rw [h]
  rfl

theorem commandName_letters {cs letters rest : List Char}
    (h : Cursor.split (startsWith (!isLetter ·)) cs = (letters, rest))
    (hstar : ∀ rest', rest ≠ '*' :: rest') : commandName cs = (letters, rest) := by
  unfold commandName
  rw [h]
  split
  · rename_i rest' heq
    exact absurd (Prod.mk.inj heq).2 (hstar rest')
  · rfl

theorem from_readCommand (start : Nat) (k : Cursor) : (readCommand start k).From k := by
  unfold readCommand
  split
  · exact Reading.from_nothing k
  · rename_i c cs hcs
    split
    · exact (Cursor.reaches_after (commandName_append k.rest)).trans (Reading.from_arguments _ _ _)
    · exact ⟨[c], by simp [Reading.nothing, Cursor.bump, hcs], by
        simp [Reading.nothing, Cursor.bump, hcs]⟩

/-! ## The scan -/

/-- Everything the text at a cursor holds, from left to right. -/
def scan (k : Cursor) : List Event :=
  match _h : k.rest with
  | [] => []
  | c :: cs =>
      let next : Cursor := ⟨k.offset + c.utf8Size, cs⟩
      if c = '\\' then
        (readCommand k.offset next).events ++ scan (readCommand k.offset next).next
      else if c = '%' then scan (next.upTo (startsWith (· == '\n'))).2
      else if c = '{' then .braceOpened k.offset :: scan next
      else if c = '}' then .braceClosed k.offset :: scan next
      else scan next
termination_by k.rest.length
decreasing_by
  all_goals simp only [_h, List.length_cons]
  · have := (from_readCommand k.offset ⟨k.offset + c.utf8Size, cs⟩).length_le
    simp only at this
    omega
  · have := (Cursor.reaches_upTo (startsWith (· == '\n')) ⟨k.offset + c.utf8Size, cs⟩).length_le
    simp only at this
    omega
  all_goals omega

end Manuscript.Latex

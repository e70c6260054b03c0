/-
# Manuscript.Proofs.Latex.Option -- optional arguments of citations are passed over

A citation may have notes in brackets in front of its keys.  A reader of the keys passes
over a note as a whole: whatever is written in it, labels and references included, is not
read (`analyze_cited`).

A note ends with the bracket that closes it.  Brackets and braces are counted alike on the
way there (`alike`), so a note is passed over when the two together balance
(`untilBracket?_of_depth`).  A backslash takes the character behind it, and so a note that
ends with one has taken the bracket (`Note.closed`).
-/
import Manuscript.Proofs.Latex.Balance
import Manuscript.Proofs.Latex.MarkupReading
import Manuscript.Proofs.Text.Ahead

namespace Manuscript.Latex

set_option autoImplicit false

open Text

/-! ## The end of a note -/

/-- A bracket counts as the brace of its kind. -/
def alike (c : Char) : Char := if c = '[' then '{' else if c = ']' then '}' else c

/-- Where brackets and braces leave nothing open, the next bracket is the end. -/
theorem untilBracket?_of_depth {depth : Nat} {escaped : Bool} {text : List Char}
    (hdepth : depth? depth (braces escaped (text.map alike)) = some 0)
    (hclosed : escapes escaped text = false) (rest : List Char) :
    untilBracket? depth escaped (text ++ ']' :: rest) = some (text ++ [']'], rest) := by
  induction text generalizing depth escaped with
  | nil =>
      obtain rfl : escaped = false := hclosed
      obtain rfl : depth = 0 := by simpa [braces] using hdepth
      rfl
  | cons c text ih =>
      rw [escapes_cons] at hclosed
      cases escaped with
      | true =>
          -- an escaped character is neither a bracket nor a backslash
          have htail := ih (by simpa [braces] using hdepth) (by simpa using hclosed)
          simp [untilBracket?, htail]
      | false =>
          by_cases hescape : c = '\\'
          · subst hescape
            have htail := ih (by simpa [braces, alike] using hdepth) (by simpa using hclosed)
            simp [untilBracket?, htail]
          have hclosed' : escapes false text = false := by simpa [hescape] using hclosed
          by_cases hopen : c = '[' ∨ c = '{'
          · have hsame : alike c = '{' := by rcases hopen with rfl | rfl <;> rfl
            have htail := @ih (depth + 1) false (by simpa [braces, hsame] using hdepth) hclosed'
            simp [untilBracket?, hescape, hopen, htail]
          by_cases hclose : c = ']' ∨ c = '}'
          · have hsame : alike c = '}' := by rcases hclose with rfl | rfl <;> rfl
            cases depth with
            | zero => simp [braces, hsame, depth?] at hdepth
            | succ depth =>
                have htail := ih (by simpa [braces, hsame] using hdepth) hclosed'
                simp [untilBracket?, hescape, hopen, hclose, htail]
          · have hsame : alike c = c := by
              rw [alike, if_neg fun h => hopen (.inl h), if_neg fun h => hclose (.inl h)]
            have hother : ¬ (c = '{' ∨ c = '}') := fun h => h.elim (hopen ∘ .inr) (hclose ∘ .inr)
            have htail := ih (by simpa [braces, hsame, hescape, hother] using hdepth) hclosed'
            simp [untilBracket?, hescape, hopen, hclose, htail]

/-! ## Citations with a note -/

namespace Markup

/-- What may stand in the brackets of a citation. -/
structure Note where
  text : List Char
  uncommented : '%' ∉ text
  inLine : '\n' ∉ text
  /-- Brackets and braces that are not escaped, counted alike, close what is open. -/
  balanced : Balanced (braces false (text.map alike))
  /-- The bracket behind the note is not escaped. -/
  closed : escapes false text = false

/-- A citation command with a note and its keys. -/
def citedText (command : String) (note : Note) (keys : List Name) : List Char :=
  called command ++ (bracketed note.text ++ braced (listed keys))

/-- What a citation that begins at `offset` holds: its keys, and nothing of its note. -/
def cited (command : String) (note : Note) (keys : List Name) (offset : Nat) : Structure :=
  { Structure.empty with
    commands := [Command.bare command]
    citations :=
      symbols (offset + utf8Length (called command ++ bracketed note.text) + 1) keys }

theorem option?_note (note : Note) (o : Nat) (rest : List Char) :
    option? ⟨o, bracketed note.text ++ rest⟩ =
      some ⟨o + utf8Length (bracketed note.text), rest⟩ := by
  have htext : bracketed note.text ++ rest = '[' :: (note.text ++ ']' :: rest) := by
    simp [bracketed]
  rw [htext, option?_bracket rfl,
    untilBracket?_of_depth (balanced_iff.1 note.balanced) note.closed]
  rfl

/-- Keys are read behind the note, whatever is written in it. -/
theorem skipOptions_note (note : Note) (content : List Char) (o : Nat) (rest : List Char) :
    skipOptions ⟨o, bracketed note.text ++ (braced content ++ rest)⟩ =
      ⟨o + utf8Length (bracketed note.text), braced content ++ rest⟩ := by
  rw [skipOptions_of_some (option?_note note o _), skipOptions_braced]

theorem endsName_bracketed (content more : List Char) : EndsName (bracketed content ++ more) :=
  ⟨'[', _, rfl, by decide, by decide⟩

theorem shows_cited {command : String} (known : command ∈ Command.citations) (note : Note)
    (keys : List Name) (named : ∀ key ∈ keys, key.text ≠ ['*']) :
    Shows (citedText command note keys) (cited command note keys) := by
  obtain ⟨hlisted, hkind, hreference⟩ := isListed_known.2.1 command known
  have hcitation : Command.isCitation command = true := decide_eq_true known
  refine shows_read (isCommandName_of_isListed hlisted) (endsName_bracketed _ _)
    (fun o rest => ?_) fun o => tells_citations _
  obtain ⟨g, hread, hfaults, hnames, hnext⟩ := exists_read?_listed keys
    (o + utf8Length (called command) + utf8Length (bracketed note.text)) rest
  rw [arguments_of_isListed hlisted, hkind]
  simp only [hreference, hcitation, if_true, Reading.citations]
  rw [List.append_assoc, skipOptions_note, hread]
  simp only [hfaults, hnames, hnext, filter_symbols named, List.nil_append, utf8Length_append,
    Nat.add_assoc]
  rfl

/-- **A citation holds its keys and nothing of its note.** -/
theorem analyze_cited {command : String} (known : command ∈ Command.citations) (note : Note)
    (keys : List Name) (named : ∀ key ∈ keys, key.text ≠ ['*']) :
    analyze (String.ofList (citedText command note keys)) = cited command note keys 0 := by
  obtain ⟨events, hscan, htells⟩ := shows_cited known note keys named 0 []
  have hevents : Structure.ofEvents events = cited command note keys 0 := htells.ofEvents
  rw [analyze, Cursor.ofString, String.toList_ofList, ← List.append_nil (citedText _ _ _), hscan,
    scan_nil, List.append_nil]
  exact hevents

namespace Example

def referring : Note :=
  ⟨"see [\\ref{x}]".toList, by decide, by decide, by decide +kernel, by decide⟩

def key : Name := ⟨['a'], plain_of_all (by decide) (by decide)⟩

end Example

theorem analyze_cited_referring :
    ("cite" ∈ Command.citations ∧ ∀ key ∈ [Example.key], key.text ≠ ['*']) ∧
    analyze (String.ofList (citedText "cite" Example.referring [Example.key])) =
      { Structure.empty with commands := ["cite"], citations := [⟨"a", ⟨21, 22⟩⟩] } := by
  have hknown : "cite" ∈ Command.citations := by decide
  have hnamed : ∀ key ∈ [Example.key], key.text ≠ ['*'] := by decide
  refine ⟨⟨hknown, hnamed⟩, ?_⟩
  rw [analyze_cited hknown Example.referring [Example.key] hnamed]
  decide +kernel

/-- The reference in the note is one of a text of its own. -/
theorem not_transparent_reference :
    ('%' ∉ "\\ref{x}".toList ∧ '\n' ∉ "\\ref{x}".toList ∧ '[' ∉ "\\ref{x}".toList ∧
      ']' ∉ "\\ref{x}".toList ∧ Balanced (braces false "\\ref{x}".toList)) ∧
    ⟨"x", ⟨5, 6⟩⟩ ∈ (analyze "\\ref{x}").labelReferences ∧
    ⟨"x", ⟨6 + 5, 6 + 6⟩⟩ ∉ (analyze "\\cite[\\ref{x}]{a}").labelReferences := by
  decide +kernel

end Markup

end Manuscript.Latex

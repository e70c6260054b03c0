/-
# Manuscript.Completion.Context -- what the cursor is in the middle of

The text of a line before the cursor tells what could come next: a key in an open
group, or the rest of a command name.  It is tried against three patterns in turn.
After a percent sign that is not escaped there is nothing to complete; an open
group belongs to the command before it, and to no topic if that command takes no
names; otherwise a backslash with letters is the start of a command.
-/
import Manuscript.Latex.Command
import Manuscript.Pattern.Basic

namespace Manuscript.Completion

set_option autoImplicit false

open Latex (IncludeKind)
open Latex.Command

/-- What is being typed. -/
inductive Topic where
  | label
  | citation
  | environment
  | inclusion (kind : IncludeKind)
  | command
deriving DecidableEq, Repr, Inhabited

/-- The topic, and the part of the word before the cursor. -/
structure Context where
  topic : Topic
  typed : List Char
deriving DecidableEq, Repr, Inhabited

namespace Context

open Pattern

/-! ## Patterns -/

def commandChar : CharSet := .union .asciiAlpha (.single '@')

def blanks : Pattern := many (one .blank)

/-- A percent sign after an even number of backslashes. -/
def commentPattern : Pattern :=
  sequence
    [either (assert .textStart) (noneOf ['\\']),
     many (seq (char '\\') (char '\\')),
     char '%']

/-- Options of a command. -/
def optionPattern : Pattern :=
  sequence [blanks, char '[', many (noneOf [']']), char ']']

/-- A whole group without groups or commands inside. -/
def closedGroupPattern : Pattern :=
  sequence [blanks, char '\x7b', many (noneOf ['\x7b', '\x7d', '\\']), char '\x7d']

/-- A command (1), its options, a first group (2) if there are two, and an open group up to the
key at the end of the text (3). -/
def groupPattern : Pattern :=
  sequence
    [char '\\',
     group 1 (seq (manyOne (one commandChar)) (optional (char '*'))),
     many optionPattern,
     optional (group 2 closedGroupPattern),
     blanks, char '\x7b',
     optional (seq (many (noneOf ['\x7b', '\x7d', '\\'])) (char ',')),
     blanks,
     group 3 (many (one (.complement
       (.union (.ofList ['\x7b', '\x7d', ',', '\\']) .blank)))),
     assert .textEnd]

/-- A backslash and the letters (1) up to the end of the text. -/
def commandPattern : Pattern :=
  sequence [char '\\', group 1 (many (one commandChar)), assert .textEnd]

/-! ## Contexts -/

def isComment (line : List Char) : Bool := commentPattern.isMatch line

/-- The command of the open group at the end of a line, and the key typed in it.  Only the end of
a range of labels stands in a second group. -/
def openGroup? (line : List Char) : Option (String × List Char) := do
  let m ← groupPattern.find? line
  let command := String.ofList (← m.group? 1)
  if (m.group? 2).isSome && !isLabelRange command then none
  else pure (command, ← m.group? 3)

/-- What the keys in the group of a command are. -/
def topicOf? (command : String) : Option Topic :=
  if isLabelReference command then some .label
  else if isCitation command then some .citation
  else if bare command = "begin" ∨ bare command = "end" then some .environment
  else match includeKind? command with
    | some .latex => some (.inclusion .latex)
    | some .bibliography => some (.inclusion .bibliography)
    | _ => none

/-- The letters after the backslash at the end of a line, unless that backslash is escaped. -/
def openCommand? (line : List Char) : Option (List Char) := do
  let m ← commandPattern.find? line
  if m.start.before = some '\\' then none else m.group? 1

/-- The context at the end of a line. -/
def ofLine? (line : List Char) : Option Context :=
  if isComment line then none
  else match openGroup? line with
    | some (command, typed) => (topicOf? command).map fun topic => ⟨topic, typed⟩
    | none => (openCommand? line).map fun typed => ⟨.command, typed⟩

end Context

end Manuscript.Completion

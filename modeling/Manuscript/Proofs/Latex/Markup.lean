/-
# Manuscript.Proofs.Latex.Markup -- LaTeX sources, and what is printed for them

A `Source` is a document as a writer has it in mind: prose, comments, labels and references,
citations, includes, headings, definitions, verbatim environments, and environments that
hold a source again.  Every part carries what makes it printable as it stands, so
`Source.text` prints any source.

`Source.found` is what a reader of the printed text has to find, in the order of the text and
with environments in the order of their ends.  It knows nothing of reading: a place is where
printing has come to.
-/
import Manuscript.Latex.Analysis
import Manuscript.Proofs.Text.Form

namespace Manuscript.Latex

set_option autoImplicit false

open Text

/-- What two texts hold, one after the other. -/
instance : Append Structure where
  append s t :=
    { includes := s.includes ++ t.includes
      labelDefinitions := s.labelDefinitions ++ t.labelDefinitions
      labelReferences := s.labelReferences ++ t.labelReferences
      citations := s.citations ++ t.citations
      sections := s.sections ++ t.sections
      environments := s.environments ++ t.environments
      commandDefinitions := s.commandDefinitions ++ t.commandDefinitions
      commands := s.commands ++ t.commands
      diagnostics := s.diagnostics ++ t.diagnostics }

namespace Markup

/-! ## Sources -/

/-- The characters of prose: all but those of markup. -/
def isProse (c : Char) : Bool := c ∉ ['\\', '\x7b', '\x7d', '%', '[', ']']

structure Prose where
  text : List Char
  plain : ∀ c ∈ text, isProse c = true

structure Name where
  text : List Char
  plain : Plain text

/-- The parts of a document that hold no others. -/
inductive Item where
  | prose (content : Prose)
  | comment (line : List Char) (inLine : '\n' ∉ line)
  | label (name : Name)
  | reference (command : String) (known : command ∈ Command.labelReferences)
      (single : command ∉ Command.labelRanges) (names : List Name)
  | range (command : String) (known : command ∈ Command.labelRanges) (first last : List Name)
  | citation (command : String) (known : command ∈ Command.citations) (options : List Prose)
      (keys : List Name) (named : ∀ key ∈ keys, key.text ≠ ['*'])
  | inclusion (kind : IncludeKind) (command : String) (known : command ∈ kind.commands)
      (options : List Prose) (paths : List Name)
  | heading (command : String) (level : Nat) (known : (command, level) ∈ Command.sections)
      (starred : Bool) (title : Prose)
  | definition (command : String) (known : command ∈ Command.definitions) (name : List Char)
      (nonempty : name ≠ []) (letters : ∀ c ∈ name, isLetter c = true) (body : Prose)
  | verbatim (name : String) (known : name ∈ Command.verbatimEnvironments) (body : List Char)
      (inside : ¬ Reading.terminator name <:+: body)

/-- The parts of a document, one after the other. -/
inductive Source where
  | done
  | item (first : Item) (rest : Source)
  | environment (name : Name) (ordinary : String.ofList name.text ∉ Command.verbatimEnvironments)
      (body rest : Source)

/-! ## Printing -/

def called (command : String) : List Char := '\\' :: command.toList

def braced (content : List Char) : List Char := '\x7b' :: (content ++ ['\x7d'])

def bracketed (content : List Char) : List Char := '[' :: (content ++ [']'])

def listed (names : List Name) : List Char := [','].intercalate (names.map Name.text)

def optional (options : List Prose) : List Char := options.flatMap fun o => bracketed o.text

def opener (environment : List Char) : List Char := called "begin" ++ braced environment

def closer (environment : List Char) : List Char := called "end" ++ braced environment

/-- A sectioning command with its star. -/
def starredAs (starred : Bool) (command : String) : String :=
  if starred then command ++ "*" else command

def Item.text : Item → List Char
  | .prose content => content.text
  | .comment line _ => '%' :: (line ++ ['\n'])
  | .label name => called "label" ++ braced name.text
  | .reference command _ _ names => called command ++ braced (listed names)
  | .range command _ first last =>
      called command ++ (braced (listed first) ++ braced (listed last))
  | .citation command _ options keys _ =>
      called command ++ (optional options ++ braced (listed keys))
  | .inclusion _ command _ options paths =>
      called command ++ (optional options ++ braced (listed paths))
  | .heading command _ _ starred title =>
      called (starredAs starred command) ++ braced title.text
  | .definition command _ name _ _ body =>
      called command ++ (braced ('\\' :: name) ++ braced body.text)
  | .verbatim name _ body _ => opener name.toList ++ (body ++ closer name.toList)

def Source.text : Source → List Char
  | .done => []
  | .item first rest => first.text ++ rest.text
  | .environment name _ body rest =>
      opener name.text ++ (body.text ++ closer name.text) ++ rest.text

/-! ## What is to be found -/

/-- The names of a list that begins at `offset`. -/
def symbols (offset : Nat) : List Name → List Symbol
  | [] => []
  | name :: names =>
      .ofText offset name.text :: symbols (offset + utf8Length name.text + 1) names

/-- An environment that begins at `offset` and whose body has this many bytes. -/
def enclosed (environment : List Char) (offset length : Nat) : Environment :=
  let inside := offset + utf8Length (opener environment)
  ⟨String.ofList environment, ⟨offset, inside⟩,
    ⟨inside + length, inside + length + utf8Length (closer environment)⟩⟩

/-- What an environment holds, and itself. -/
def enclosing (environment : Environment) (inner : Structure) : Structure :=
  { inner with
    commands := "begin" :: (inner.commands ++ ["end"])
    environments := inner.environments ++ [environment] }

def Item.found (offset : Nat) : Item → Structure
  | .prose _ => .empty
  | .comment _ _ => .empty
  | .label name =>
      { Structure.empty with
        commands := ["label"]
        labelDefinitions := [.ofText (offset + utf8Length (called "label") + 1) name.text] }
  | .reference command _ _ names =>
      { Structure.empty with
        commands := [Command.bare command]
        labelReferences := symbols (offset + utf8Length (called command) + 1) names }
  | .range command _ first last =>
      { Structure.empty with
        commands := [Command.bare command]
        labelReferences :=
          symbols (offset + utf8Length (called command) + 1) first ++
            symbols (offset + utf8Length (called command ++ braced (listed first)) + 1) last }
  | .citation command _ options keys _ =>
      { Structure.empty with
        commands := [Command.bare command]
        citations := symbols (offset + utf8Length (called command ++ optional options) + 1) keys }
  | .inclusion kind command _ options paths =>
      let inside := offset + utf8Length (called command ++ optional options) + 1
      { Structure.empty with
        commands := [Command.bare command]
        includes := (symbols inside paths).map fun path => ⟨kind, path.name, path.span⟩ }
  | .heading command level _ starred title =>
      let printed := called (starredAs starred command) ++ braced title.text
      { Structure.empty with
        commands := [command]
        sections :=
          [⟨level, String.ofList (squeeze title.text), ⟨offset, offset + utf8Length printed⟩⟩] }
  | .definition command _ name _ _ _ =>
      let start := offset + utf8Length (called command) + 1
      { Structure.empty with
        commands := [Command.bare command, String.ofList name]
        commandDefinitions :=
          [⟨String.ofList name, ⟨start, start + utf8Length ('\\' :: name)⟩⟩] }
  | .verbatim name _ body _ =>
      { Structure.empty with
        commands := ["begin"]
        environments := [enclosed name.toList offset (utf8Length body)] }

def Source.found (offset : Nat) : Source → Structure
  | .done => .empty
  | .item first rest => first.found offset ++ rest.found (offset + utf8Length first.text)
  | .environment name _ body rest =>
      let this := enclosed name.text offset (utf8Length body.text)
      enclosing this (body.found this.opening.stop) ++ rest.found this.closing.stop

end Markup

end Manuscript.Latex

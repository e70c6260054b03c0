/-
# Manuscript.Completion.Candidate -- what could be typed

Candidates are the names that the related documents hold, document by document in
the order of the text, with a detail that helps to tell them apart.  Environments
and commands go on with those that every document may use.
-/
import Manuscript.Completion.Context
import Manuscript.Document
import Manuscript.Url.Relative

namespace Manuscript.Completion

set_option autoImplicit false

open Latex (IncludeKind)

/-- The kinds of names, which an editor shows with different signs. -/
inductive NameKind where
  | label
  | citationKey
  | environment
  | file
  | command
deriving DecidableEq, Repr, Inhabited

structure Candidate where
  name : String
  kind : NameKind
  detail : String
deriving DecidableEq, Repr, Inhabited

namespace Candidate

/-- The title of the last section that starts at or before an offset. -/
def sectionTitle? (s : Latex.Structure) (offset : Nat) : Option String :=
  (s.sections.takeWhile (·.span.start ≤ offset)).getLast?.map Latex.Section.title

/-- Labels, each with the section it stands in, or its file before the first section. -/
def labels (related : List Document) : List Candidate :=
  related.flatMap fun d =>
    match d.contents.latex? with
    | some s => s.labelDefinitions.map fun label =>
        ⟨label.name, .label, (sectionTitle? s label.span.start).getD d.fileName⟩
    | none => []

def entryDetail (e : Bibtex.Entry) : String :=
  match e.title with
  | some title => "@" ++ e.kind ++ ": " ++ title
  | none => "@" ++ e.kind

/-- The keys of bibliography entries, each with its kind and title. -/
def citationKeys (related : List Document) : List Candidate :=
  related.flatMap fun d =>
    match d.contents.bibtex? with
    | some s => s.entries.filterMap fun e =>
        e.key.map fun key => ⟨key.name, .citationKey, entryDetail e⟩
    | none => []

def builtIn (kind : NameKind) (names : List String) : List Candidate :=
  names.map fun name => ⟨name, kind, "built-in"⟩

/-- Environments with the files that use them, and then the built-in ones. -/
def environments (related : List Document) : List Candidate :=
  (related.flatMap fun d =>
    match d.contents.latex? with
    | some s => s.environments.map fun e => ⟨e.name, .environment, d.fileName⟩
    | none => [])
  ++ builtIn .environment Latex.Command.builtinEnvironments

/-- Commands with the files that define them, and then the built-in ones. -/
def commands (related : List Document) : List Candidate :=
  (related.flatMap fun d =>
    match d.contents.latex? with
    | some s => s.commandDefinitions.map fun c => ⟨c.name, .command, d.fileName⟩
    | none => [])
  ++ builtIn .command Latex.Command.builtinCommands

/-- The language of the files that an include of a kind means. -/
def includedLanguage : IncludeKind → Language
  | .bibliography => .bibtex
  | _ => .latex

/-- A path without the extension that an include may leave out. -/
def withoutExtension (kind : IncludeKind) (path : String) : String :=
  let cs := path.toList
  let suffix := ("." ++ kind.extension).toList
  if suffix.isSuffixOf cs then String.ofList (cs.take (cs.length - suffix.length)) else path

/-- The other files that could be included, by their paths from the origin. -/
def files (origin : Document) (related : List Document) (kind : IncludeKind) : List Candidate :=
  related.filterMap fun d =>
    if d.uri ≠ origin.uri ∧ d.language = includedLanguage kind then
      (origin.uri.makeRelative? d.uri).map fun path => ⟨withoutExtension kind path, .file, path⟩
    else none

/-- The candidates of a topic. -/
def all (origin : Document) (related : List Document) : Topic → List Candidate
  | .label => labels related
  | .citation => citationKeys related
  | .environment => environments related
  | .inclusion kind => files origin related kind
  | .command => commands related

end Candidate

end Manuscript.Completion

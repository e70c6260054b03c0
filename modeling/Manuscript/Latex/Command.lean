/-
# Manuscript.Latex.Command -- what the known commands mean

The tables of command and environment names that analysis and completion share.
A starred command is a name of its own: only sectioning commands mean the same
with a star and without it.
-/
import Manuscript.Diagnostic

namespace Manuscript.Latex

set_option autoImplicit false

/-- What an include command brings in. -/
inductive IncludeKind where
  | latex
  | bibliography
  | package
  | documentClass
deriving DecidableEq, Repr, Inhabited

namespace IncludeKind

/-- The file extension an include may leave out. -/
def extension : IncludeKind → String
  | .latex => "tex"
  | .bibliography => "bib"
  | .package => "sty"
  | .documentClass => "cls"

def all : List IncludeKind := [.latex, .bibliography, .package, .documentClass]

/-- The commands that include a file of this kind. -/
def commands : IncludeKind → List String
  | .latex => ["include", "input", "subfile", "subfileinclude"]
  | .bibliography => ["bibliography", "addbibresource"]
  | .package => ["usepackage", "RequirePackage"]
  | .documentClass => ["documentclass", "LoadClass"]

end IncludeKind

namespace Command

/-- Commands whose argument is a list of labels. -/
def labelReferences : List String :=
  ["ref", "eqref", "pageref", "autoref", "nameref", "vref", "Vref", "cref", "Cref", "cref*",
   "Cref*", "cpageref", "Cpageref", "labelcref", "labelcpageref", "crefrange", "Crefrange",
   "crefrange*", "Crefrange*"]

/-- Label references with a second argument for the end of a range. -/
def labelRanges : List String :=
  ["crefrange", "Crefrange", "crefrange*", "Crefrange*"]

/-- Commands whose argument is a list of bibliography keys. -/
def citations : List String :=
  ["cite", "cite*", "Cite", "nocite", "citet", "citet*", "citep", "citep*", "citeauthor",
   "citeauthor*", "Citeauthor", "Citeauthor*", "citetitle", "citetitle*", "citeyear",
   "citeyear*", "citedate", "citedate*", "citeurl", "fullcite", "citeyearpar", "citealt",
   "citealp", "citetext", "parencite", "parencite*", "Parencite", "footcite", "footfullcite",
   "footcitetext", "textcite", "Textcite", "smartcite", "supercite", "autocite", "autocite*",
   "Autocite", "Autocite*", "volcite", "Volcite", "pvolcite", "Pvolcite", "fvolcite",
   "ftvolcite", "svolcite", "Svolcite", "tvolcite", "Tvolcite", "avolcite", "Avolcite",
   "notecite", "pnotecite", "Pnotecite", "fnotecite", "citeA", "citeA*"]

/-- Sectioning commands and their depth. -/
def sections : List (String × Nat) :=
  [("part", 0), ("chapter", 1), ("section", 2), ("subsection", 3), ("subsubsection", 4),
   ("paragraph", 5), ("subparagraph", 6)]

/-- Commands that define a command. -/
def definitions : List String :=
  ["newcommand", "newcommand*", "renewcommand", "renewcommand*", "providecommand",
   "providecommand*", "DeclareMathOperator", "DeclareMathOperator*", "DeclareRobustCommand",
   "DeclareRobustCommand*", "def"]

/-- Environments whose body is not LaTeX. -/
def verbatimEnvironments : List String :=
  ["verbatim", "verbatim*", "Verbatim", "lstlisting", "minted", "pycode", "asy", "comment"]

/-- Environments every document may use. -/
def builtinEnvironments : List String :=
  ["document", "abstract", "itemize", "enumerate", "description", "figure", "table", "tabular",
   "center", "equation", "equation*", "align", "align*", "gather", "multline", "minipage",
   "quote", "quotation", "verbatim", "thebibliography"]

/-- Commands every document may use. -/
def builtinCommands : List String :=
  ["documentclass", "usepackage", "begin", "end", "part", "chapter", "section", "subsection",
   "subsubsection", "paragraph", "label", "ref", "eqref", "pageref", "cite", "include", "input",
   "bibliography", "bibliographystyle", "addbibresource", "textbf", "textit", "emph", "item",
   "caption", "footnote", "newcommand", "renewcommand", "maketitle", "tableofcontents"]

def isLabelReference (command : String) : Bool := command ∈ labelReferences

def isLabelRange (command : String) : Bool := command ∈ labelRanges

def isCitation (command : String) : Bool := command ∈ citations

def isDefinition (command : String) : Bool := command ∈ definitions

def isVerbatim (environment : String) : Bool := environment ∈ verbatimEnvironments

/-- What a command includes, if it includes anything. -/
def includeKind? (command : String) : Option IncludeKind :=
  IncludeKind.all.find? fun kind => command ∈ kind.commands

/-- The name without one star at its end. -/
def unstarred (command : String) : String :=
  match command.toList.reverse with
  | '*' :: name => String.ofList name.reverse
  | _ => command

/-- The name without any stars at its end. -/
def bare (command : String) : String :=
  String.ofList (command.toList.reverse.dropWhile (· == '*')).reverse

/-- The depth of a sectioning command, with a star or without. -/
def sectionLevel? (command : String) : Option Nat := sections.lookup (unstarred command)

end Command

end Manuscript.Latex

/-
# Manuscript.Wire.Protocol -- answers as an editor reads them

Places count lines and UTF-16 units from zero.  Severities and kinds of names are
numbers of the protocol; members without a value are left out.
-/
import Manuscript.Server.Reply

namespace Manuscript.Wire

set_option autoImplicit false

open Completion (NameKind Offer)

def position (p : Position) : Json :=
  .object [("line", .nat p.line), ("character", .nat p.column)]

def range (r : Range) : Json := .object [("start", position r.start), ("end", position r.stop)]

def severityNumber : Severity → Nat
  | .error => 1
  | .warning => 2
  | .info => 3
  | .hint => 4

/-- Who found a problem. -/
def source : String := "texgraph"

def problem (p : Problem) : Json :=
  .present
    [("range", some (range p.range)), ("severity", some (.nat (severityNumber p.severity))),
     ("code", p.code.map .string), ("source", some (.string source)),
     ("message", some (.string p.message))]

def problems (ps : List Problem) : Json := .ofList problem ps

def kindNumber : NameKind → Nat
  | .label => 18
  | .citationKey => 12
  | .environment => 9
  | .file => 17
  | .command => 3

def edit (e : Edit) : Json := .object [("range", range e.range), ("newText", .string e.text)]

def offer (o : Offer) : Json :=
  .object
    [("label", .string o.candidate.name), ("kind", .nat (kindNumber o.candidate.kind)),
     ("detail", .string o.candidate.detail), ("textEdit", edit ⟨o.range, o.candidate.name⟩)]

def fold (f : Fold) : Json :=
  .object [("startLine", .nat f.first), ("endLine", .nat f.last), ("kind", .string "region")]

def link (l : Link) : Json :=
  .present [("range", some (range l.range)), ("target", l.target.map fun u => .string u.text)]

def changes (r : Rename) : Json :=
  .object (r.changes.map fun (uri, edits) => (uri.text, .ofList edit edits))

def prepared (r : Range) (name : String) : Json :=
  .object [("range", range r), ("placeholder", .string name)]

/-! ## Messages to an editor -/

def serverName : String := "texgraph-lsp"

def version : String := "0.1.0"

/-- What the server can do: documents are sent as a whole, and completion is asked for after a
backslash, an opening brace and a comma. -/
def capabilities : Json :=
  .object
    [("textDocumentSync", .nat 1),
     ("completionProvider", .object
        [("resolveProvider", .bool false),
         ("triggerCharacters", .ofList .string ["\\", "\x7b", ","])]),
     ("documentLinkProvider", .object [("resolveProvider", .bool false)]),
     ("foldingRangeProvider", .bool true),
     ("renameProvider", .object [("prepareProvider", .bool true)])]

def introduction : Json :=
  .object
    [("capabilities", capabilities),
     ("serverInfo",
        .object [("name", .string serverName), ("version", .string version)])]

def answer : Answer → Json
  | .capabilities => introduction
  | .nothing => .null
  | .completion offers => .ofList offer offers
  | .folding folds => .ofList fold folds
  | .links links => .ofList link links
  | .rename rename => .object [("changes", changes rename)]
  | .prepared range name => prepared range name

/-- The protocol's numbers for failures: the editor's fault, or the server's. -/
def failureCode : Error → Int
  | .symbolNotFound _ => -32602
  | .ambiguousSymbol _ _ => -32602
  | .invalidName _ => -32602
  | _ => -32603

def failure (code : Int) (message : String) : Json :=
  .object [("code", .integer code), ("message", .string message)]

/-- The method and the parameters of a message that is sent unasked. -/
def sent : Sent → String × Json
  | .log message =>
      ("window/logMessage", .object [("type", .nat 3), ("message", .string message)])
  | .problems uri ps =>
      ("textDocument/publishDiagnostics",
        .object [("uri", .string uri.text), ("diagnostics", problems ps)])

end Manuscript.Wire

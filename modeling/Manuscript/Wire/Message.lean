/-
# Manuscript.Wire.Message -- messages of an editor

A message names a method and has parameters.  With a number or a name of its own
it is a question, which is answered under that name; without one it is a notice.
`question?` and `notice?` read the methods the server knows.
-/
import Manuscript.Wire.Protocol

namespace Manuscript.Wire

set_option autoImplicit false

/-! ## Parameters -/

def url? (j : Json) : Option Url := j.string? >>= Url.parse?

def documentUrl? (params : Json) : Option Url :=
  params.member? "textDocument" >>= Json.member? "uri" >>= url?

def position? (params : Json) : Option Position := do
  let p ← params.member? "position"
  pure ⟨← p.member? "line" >>= Json.nat?, ← p.member? "character" >>= Json.nat?⟩

/-- The root of a session: its first folder, or else the root it names. -/
def root? (params : Json) : Option Url :=
  match params.member? "workspaceFolders" >>= Json.array? with
  | some (folder :: _) => folder.member? "uri" >>= url?
  | _ => params.member? "rootUri" >>= url?

/-! ## Methods -/

def notice? (method : String) (params : Json) : Option Notice :=
  match method with
  | "initialized" => some .started
  | "textDocument/didOpen" => do
      let document ← params.member? "textDocument"
      pure (.opened (← documentUrl? params) (← document.member? "text" >>= Json.string?))
  | "textDocument/didChange" => do
      let changes ← params.member? "contentChanges" >>= Json.array?
      let texts ← changes.mapM fun change => change.member? "text" >>= Json.string?
      pure (.changed (← documentUrl? params) texts)
  | "textDocument/didClose" => .closed <$> documentUrl? params
  | _ => none

/-- The question a method asks; what its root holds is known beforehand. -/
def question? (config : ConfigFile) (method : String) (params : Json) : Option Question :=
  match method with
  | "initialize" =>
      some (.setUp ⟨root? params, config, params.member? "initializationOptions"⟩)
  | "textDocument/completion" => do
      pure (.completion (← documentUrl? params) (← position? params))
  | "textDocument/foldingRange" => .folding <$> documentUrl? params
  | "textDocument/documentLink" => .links <$> documentUrl? params
  | "textDocument/rename" => do
      pure (.rename (← documentUrl? params) (← position? params)
        (← params.member? "newName" >>= Json.string?))
  | "textDocument/prepareRename" => do
      pure (.prepareRename (← documentUrl? params) (← position? params))
  | "shutdown" => some .shutdown
  | _ => none

def knownQuestions : List String :=
  ["initialize", "textDocument/completion", "textDocument/foldingRange",
   "textDocument/documentLink", "textDocument/rename", "textDocument/prepareRename", "shutdown"]

/-! ## Envelopes -/

structure Message where
  /-- The name under which a question is answered. -/
  id : Option Json
  method : String
  params : Json
deriving Repr

def message? (j : Json) : Option Message := do
  let method ← j.member? "method" >>= Json.string?
  pure ⟨j.member? "id", method, (j.member? "params").getD .null⟩

def envelope (members : List (String × Json)) : Json :=
  .object (("jsonrpc", .string "2.0") :: members)

def sentMessage (s : Sent) : Json :=
  let (method, params) := sent s
  envelope [("method", .string method), ("params", params)]

/-- The result of a question, or the failure. -/
def outcome : Except Error Answer → String × Json
  | .ok a => ("result", answer a)
  | .error e => ("error", failure (failureCode e) e.message)

def replyMessage (id : Json) (result : Except Error Answer) : Json :=
  envelope [("id", id), outcome result]

/-- The reply to a question that cannot be read or is not known. -/
def refusal (id : Json) (method : String) : Json :=
  let reason :=
    if method ∈ knownQuestions then failure (-32602) "Invalid params"
    else failure (-32601) "Method not found"
  envelope [("id", id), ("error", reason)]

/-- Handles a message: the next state, and the messages to send. -/
def handle (server : Server) (config : ConfigFile) (m : Message) : Server × List Json :=
  match m.id with
  | some id =>
      match question? config m.method m.params with
      | some question =>
          let (server, result) := server.reply question
          (server, [replyMessage id result])
      | none => (server, [refusal id m.method])
  | none =>
      match notice? m.method m.params with
      | some notice =>
          let (server, sent) := server.receive notice
          (server, sent.map sentMessage)
      | none => (server, [])

end Manuscript.Wire

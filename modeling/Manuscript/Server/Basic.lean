/-
# Manuscript.Server.Basic -- keeping an editor informed

A `Server` holds the open documents and the settings.  `Server.receive` is what a
notice of the editor does to it: the next state, and what is sent while the notice
is handled.

After a document has changed, the problems of every document in whose scope it is
are sent anew, in the order of the workspace.  When a document is closed its own
problems are taken back first; then those who had it in scope are treated like
changed documents, one after the other.
-/
import Manuscript.Query

namespace Manuscript

set_option autoImplicit false

structure Server where
  workspace : Workspace
  settings : Settings
deriving DecidableEq, Repr

/-- What an editor reports. -/
inductive Notice where
  | started
  | opened (uri : Url) (text : String)
  /-- Each change is the whole new text; the last one counts. -/
  | changed (uri : Url) (texts : List String)
  | closed (uri : Url)
deriving DecidableEq, Repr

/-- What is sent to an editor unasked. -/
inductive Sent where
  | log (message : String)
  /-- All problems of a document, which replace those sent before. -/
  | problems (uri : Url) (problems : List Problem)
deriving DecidableEq, Repr

namespace Server

def fresh : Server := ⟨.empty .default, .default⟩

/-- The server with another text for a document; a text in neither language is ignored. -/
def withText (s : Server) (uri : Url) (text : String) : Server :=
  match s.workspace.update? uri text with
  | .ok workspace => { s with workspace }
  | .error _ => s

/-- The problems of a document as they are now. -/
def problems? (s : Server) (uri : Url) : Option (List Problem) :=
  match s.workspace.problems? uri >>= Request.answer? s.settings with
  | .ok (.problems ps) => some ps
  | _ => none

/-- The problems of all documents that a changed one is in scope of. -/
def publish (s : Server) (changed : Url) : List Sent :=
  (s.workspace.dependents changed).filterMap fun uri => (s.problems? uri).map (Sent.problems uri)

def readyMessage : String := "texgraph language server ready"

/-- Handles a notice. -/
def receive (s : Server) : Notice → Server × List Sent
  | .started => (s, [.log readyMessage])
  | .opened uri text =>
      let next := s.withText uri text
      (next, next.publish uri)
  | .changed uri texts =>
      match texts.getLast? with
      | none => (s, [])
      | some text =>
          let next := s.withText uri text
          (next, next.publish uri)
  | .closed uri =>
      let others := (s.workspace.dependents uri).filter (· ≠ uri)
      let next := { s with workspace := s.workspace.remove uri }
      (next, .problems uri [] :: others.flatMap next.publish)

end Server

end Manuscript

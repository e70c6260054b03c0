/-
# Manuscript.Server.Reply -- answering an editor

A question about a document that is not open has no result.  A rename that is
refused fails with the reason; everything else that is asked has an answer.  Only
the first question of a session, which sets it up, changes the server.
-/
import Manuscript.Server.Basic
import Manuscript.Settings.Reading

namespace Manuscript

set_option autoImplicit false

open Completion (Offer)

/-- What a session starts with. -/
structure Setup where
  /-- The root of the workspace. -/
  root : Option Url
  /-- The configuration file in the root. -/
  config : ConfigFile
  /-- The settings that the editor sent. -/
  sent : Option Json
deriving Repr

/-- What an editor asks. -/
inductive Question where
  | setUp (setup : Setup)
  | completion (uri : Url) (position : Position)
  | folding (uri : Url)
  | links (uri : Url)
  | rename (uri : Url) (position : Position) (newName : String)
  | prepareRename (uri : Url) (position : Position)
  | shutdown
deriving Repr

/-- The result of a question. -/
inductive Answer where
  | capabilities
  | nothing
  | completion (offers : List Offer)
  | folding (folds : List Fold)
  | links (links : List Link)
  | rename (rename : Rename)
  | prepared (range : Range) (name : String)
deriving DecidableEq, Repr

namespace Server

/-- The server with the settings of a session, or as it is if they cannot be read. -/
def configured (s : Server) (setup : Setup) : Server :=
  match Settings.load? setup.config setup.sent with
  | some settings =>
      ⟨s.workspace.withOptions (Options.ofSettings settings setup.root), settings⟩
  | none => s

/-- The result for a response; an empty list of completions is none. -/
def ofResponse : Response → Answer
  | .completion [] => .nothing
  | .completion offers => .completion offers
  | .problems _ => .nothing
  | .folding folds => .folding folds
  | .links links => .links links
  | .rename rename => .rename rename

/-- A document that is not there is nothing to report. -/
def orNothing : Except Error Answer → Except Error Answer
  | .error (.documentNotFound _) => .ok .nothing
  | result => result

/-- Answers a request about the workspace as it is. -/
def query (s : Server) (request : Except Error Request) : Except Error Answer :=
  orNothing (ofResponse <$> (request >>= Request.answer? s.settings))

/-- Where nothing can be renamed, there is nothing to prepare. -/
def prepareRename (s : Server) (uri : Url) (p : Position) : Except Error Answer :=
  match s.workspace.prepareRename? uri p with
  | .ok (range, name) => .ok (.prepared range name)
  | .error (.symbolNotFound _) => .ok .nothing
  | .error e => orNothing (.error e)

/-- Answers a question. -/
def reply (s : Server) : Question → Server × Except Error Answer
  | .setUp setup => (s.configured setup, .ok .capabilities)
  | .completion uri p => (s, s.query (s.workspace.completion? uri p))
  | .folding uri => (s, s.query (s.workspace.folding? uri))
  | .links uri => (s, s.query (s.workspace.links? uri))
  | .rename uri p newName => (s, s.query (s.workspace.rename? uri p newName))
  | .prepareRename uri p => (s, s.prepareRename uri p)
  | .shutdown => (s, .ok .nothing)

end Server

end Manuscript

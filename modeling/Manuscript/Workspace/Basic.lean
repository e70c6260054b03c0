/-
# Manuscript.Workspace.Basic -- the open documents

A `Workspace` holds documents in the order in which they came, one to a URL.
Adding a document under a known URL replaces the one there and keeps its place;
removing one keeps the order of the others.  A stale document is read before it is
stored, so what is stored describes its text.
-/
import Manuscript.Document
import Manuscript.Settings.Basic
import Manuscript.Url.Relative

namespace Manuscript

set_option autoImplicit false

/-- How documents relate. -/
structure Options where
  /-- Where includes are looked for besides the place of the including document. -/
  rootDir : Option Url
  /-- Whether includes are followed backwards too. -/
  followParents : Bool
deriving DecidableEq, Repr, Inhabited

namespace Options

def default : Options := ⟨none, false⟩

/-- The root directory of the settings is a URL, an absolute path, or a path inside of the
root of the workspace. -/
def rootDir? (dir : String) (root : Option Url) : Option Url :=
  (Url.parse? dir).orElse fun _ =>
    (Url.ofDirectory? dir).orElse fun _ =>
      root >>= fun root => root.directory.join? dir

def ofSettings (settings : Settings) (root : Option Url) : Options :=
  { rootDir := settings.workspace.rootDir >>= fun dir => rootDir? dir root
    followParents := settings.workspace.followParents }

end Options

structure Workspace where
  documents : List Document
  options : Options
deriving DecidableEq, Repr

namespace Workspace

def empty (options : Options) : Workspace := ⟨[], options⟩

/-- The URLs of the documents, in their order. -/
def uris (w : Workspace) : List Url := w.documents.map Document.uri

def get? (w : Workspace) (uri : Url) : Option Document := w.documents.find? (·.uri = uri)

def contains (w : Workspace) (uri : Url) : Bool := uri ∈ w.uris

/-- The documents with `d` where its URL was, or else at the end. -/
def insert (d : Document) : List Document → List Document
  | [] => [d]
  | e :: es => if e.uri = d.uri then d :: es else e :: insert d es

/-- A document as it is stored. -/
def settled (d : Document) : Document := if d.stale then d.analyzed else d

def add (w : Workspace) (d : Document) : Workspace :=
  { w with documents := insert (settled d) w.documents }

def remove (w : Workspace) (uri : Url) : Workspace :=
  { w with documents := w.documents.filter (·.uri ≠ uri) }

def withOptions (w : Workspace) (options : Options) : Workspace := { w with options }

/-- Stores a new text for a document, which is opened if it is not there yet. -/
def update? (w : Workspace) (uri : Url) (text : String) : Except Error Workspace :=
  match w.get? uri with
  | some d => .ok (w.add (d.withText text))
  | none => w.add <$> Document.open? uri text

end Workspace

end Manuscript

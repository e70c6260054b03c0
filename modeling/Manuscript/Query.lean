/-
# Manuscript.Query -- questions about documents

A `Request` holds all the documents its answer depends on, so that `answer?` needs
nothing but the request and the settings.  The origin of a question is one of the
documents related to it; `Workspace.scope?` lists those for a document in a
workspace.
-/
import Manuscript.Completion.Offer
import Manuscript.Problem.Rule
import Manuscript.Fold
import Manuscript.Link
import Manuscript.Rename

namespace Manuscript

set_option autoImplicit false

open Completion (Offer)

inductive Request where
  | completion (uri : Url) (related : List Document) (position : Position)
  | problems (uri : Url) (related : List Document)
  | folding (document : Document)
  | links (workspace : Workspace) (uri : Url)
  | rename (uri : Url) (related : List Document) (position : Position) (newName : String)
deriving DecidableEq, Repr

inductive Response where
  | completion (offers : List Offer)
  | problems (problems : List Problem)
  | folding (folds : List Fold)
  | links (links : List Link)
  | rename (rename : Rename)
deriving DecidableEq, Repr

/-- The document at `uri`, which has to be among the related ones. -/
def origin? (uri : Url) (related : List Document) : Except Error Document :=
  match related.find? (·.uri = uri) with
  | some d => .ok d
  | none => .error (.documentNotFound uri)

def Request.answer? (settings : Settings) : Request → Except Error Response
  | .completion uri related position => do
      let origin ← origin? uri related
      pure (.completion (Completion.offers settings.matcher origin related position))
  | .problems uri related => do
      let origin ← origin? uri related
      pure (.problems (Problem.all settings.diagnostics origin related))
  | .folding document => pure (.folding (Fold.all document))
  | .links workspace uri =>
      match workspace.get? uri with
      | some d => pure (.links (Link.all workspace d))
      | none => .error (.documentNotFound uri)
  | .rename uri related position newName => do
      let origin ← origin? uri related
      .rename <$> Rename.run? origin related position newName

namespace Workspace

def find? (w : Workspace) (uri : Url) : Except Error Document :=
  match w.get? uri with
  | some d => .ok d
  | none => .error (.documentNotFound uri)

/-! ## Requests about a document of a workspace -/

def completion? (w : Workspace) (uri : Url) (p : Position) : Except Error Request := do
  pure (.completion uri (← w.scope? uri) p)

def problems? (w : Workspace) (uri : Url) : Except Error Request := do
  pure (.problems uri (← w.scope? uri))

def folding? (w : Workspace) (uri : Url) : Except Error Request := do
  pure (.folding (← w.find? uri))

def links? (w : Workspace) (uri : Url) : Except Error Request := do
  let _ ← w.find? uri
  pure (.links w uri)

def rename? (w : Workspace) (uri : Url) (p : Position) (newName : String) :
    Except Error Request := do
  pure (.rename uri (← w.scope? uri) p newName)

/-- The range and the name that a rename at a place would replace. -/
def prepareRename? (w : Workspace) (uri : Url) (p : Position) : Except Error (Range × String) := do
  let origin ← origin? uri (← w.scope? uri)
  Rename.prepare? origin p

end Workspace

end Manuscript

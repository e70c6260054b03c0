/-
# Manuscript.Url.Basic -- the parts of a URL

Documents are named by URLs.  A `Url` holds the parts of one as they are written,
percent signs included, so two URLs are equal exactly when they are written alike.
A URL whose path has no place to start from, such as a mail address, is not
hierarchical: no relative reference can be resolved against it.
-/

namespace Manuscript

set_option autoImplicit false

/-- Whom a URL is asked of. -/
structure Authority where
  /-- User name and password, without the at sign. -/
  credentials : String
  host : String
  /-- The port, unless it is the one the scheme implies. -/
  port : Option Nat
deriving DecidableEq, Repr, Inhabited

structure Url where
  scheme : String
  authority : Option Authority
  path : String
  query : Option String
  fragment : Option String
deriving DecidableEq, Repr, Inhabited

namespace Url

/-- What is known of a scheme beforehand. -/
inductive SchemeKind where
  | file
  /-- A scheme of the web. -/
  | special
  | other
deriving DecidableEq, Repr

def schemeKind (scheme : String) : SchemeKind :=
  if scheme = "file" then .file
  else if scheme ∈ ["http", "https", "ws", "wss", "ftp"] then .special
  else .other

def SchemeKind.isSpecial : SchemeKind → Bool
  | .other => false
  | _ => true

def defaultPort? (scheme : String) : Option Nat :=
  [("http", 80), ("https", 443), ("ws", 80), ("wss", 443), ("ftp", 21)].lookup scheme

def kind (u : Url) : SchemeKind := schemeKind u.scheme

/-- Whether relative references can be resolved against the URL. -/
def isHierarchical (u : Url) : Bool := u.authority.isSome || u.path.toList.head? == some '/'

def Authority.text (a : Authority) : String :=
  (if a.credentials = "" then "" else a.credentials ++ "@") ++ a.host ++
    match a.port with
    | some port => ":" ++ toString port
    | none => ""

/-- The URL as it is written. -/
def text (u : Url) : String :=
  let front := match u.authority with
    | some a => "//" ++ Authority.text a
    -- a path that starts with two slashes would be read as an authority
    | none => if "//".toList.isPrefixOf u.path.toList then "/." else ""
  let query := match u.query with
    | some query => "?" ++ query
    | none => ""
  let fragment := match u.fragment with
    | some fragment => "#" ++ fragment
    | none => ""
  u.scheme ++ ":" ++ front ++ u.path ++ query ++ fragment

/-- The stretches between the slashes of a path. -/
def betweenSlashes : List Char → List (List Char)
  | [] => [[]]
  | c :: cs =>
      if c = '/' then [] :: betweenSlashes cs
      else match betweenSlashes cs with
        | [] => [[c]]
        | s :: ss => (c :: s) :: ss

/-- The segments of a path that starts with a slash. -/
def segments? (u : Url) : Option (List String) :=
  match u.path.toList with
  | '/' :: cs => some ((betweenSlashes cs).map String.ofList)
  | _ => none

/-- What a document is called: the last segment of its path, or all of its URL. -/
def fileName (u : Url) : String := ((u.segments? >>= List.getLast?).getD u.text)

end Url

end Manuscript

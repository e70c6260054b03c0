/-
# Manuscript.Url.Parser -- reading URLs and resolving references

`parse?` reads an absolute URL and `join?` a reference against a base.  Controls
and spaces around the text are ignored, and so are tabs and line breaks anywhere;
only the reader of file paths sees those (`Draft.push`).

A text that starts with a scheme is absolute, except that a web or file reference
may repeat the scheme of its base.  Everything else is relative to the base, which
has to be hierarchical unless the reference is only a fragment.
-/
import Manuscript.Url.Path
import Manuscript.Url.Host

namespace Manuscript.Url

set_option autoImplicit false

/-- The text without the controls and spaces around it. -/
def trim (cs : List Char) : List Char :=
  let outer := fun (c : Char) => c.toNat ≤ 0x20
  ((cs.dropWhile outer).reverse.dropWhile outer).reverse

/-- A scheme before a colon, in lower case, and what follows the colon. -/
def splitScheme? (cs : List Char) : Option (String × List Char) :=
  match cs.span fun c => c.isAlphanum || c ∈ ['+', '-', '.'] || isIgnored c with
  | (c :: scheme, ':' :: rest) =>
      if c.isAlpha then some (String.ofList ((visible (c :: scheme)).map Char.toLower), rest)
      else none
  | _ => none

/-! ## Queries and fragments -/

def isPathEnd (c : Char) : Bool := c == '?' || c == '#'

/-- The parts after a path: a query after a question mark, a fragment after a number sign. -/
def tail (kind : SchemeKind) (cs : List Char) : Option String × Option String :=
  let set := if kind.isSpecial then inSpecialQuerySet else inQuerySet
  let fragment := fun (cs : List Char) => match cs with
    | '#' :: cs => some (String.ofList (encode inFragmentSet cs))
    | _ => none
  match cs with
  | '?' :: cs =>
      let (query, rest) := cs.span (· != '#')
      (some (String.ofList (encode set query)), fragment rest)
  | cs => (none, fragment cs)

/-- The URL with a path built from a reference, and what follows the path. -/
def withPath (u : Url) (path reference : List Char) : Url × Bool :=
  let (segments, rest) := reference.span (!isPathEnd ·)
  let (path, drive) := buildPath u.kind path segments
  let (query, fragment) := tail u.kind (visible rest)
  ({ u with path := String.ofList path, query, fragment }, drive)

/-- The URL with the fragment of a reference. -/
def withFragment (u : Url) (reference : List Char) : Url :=
  { u with fragment := (tail u.kind (visible reference)).2 }

/-- The URL with the query and fragment of a reference. -/
def withTail (u : Url) (reference : List Char) : Url :=
  let (query, fragment) := tail u.kind (visible reference)
  { u with query, fragment }

/-! ## Authorities -/

def isAuthorityEnd (special : Bool) (c : Char) : Bool :=
  c == '/' || c == '?' || c == '#' || (special && c == '\\')

/-- User name and password: the colon stays only before a password. -/
def credentials (cs : List Char) : String :=
  let (name, rest) := cs.span (· != ':')
  let encoded := fun (cs : List Char) => String.ofList (encode inUserinfoSet cs)
  match rest with
  | [] => encoded name
  | [_] => encoded name
  | _ :: password => encoded name ++ ":" ++ encoded password

/-- The text before the last at sign, if there is one, and the text after it. -/
def splitAtSign (cs : List Char) : Option (List Char) × List Char :=
  match cs.reverse.span (· != '@') with
  | (_, []) => (none, cs)
  | (host, _ :: front) => (some front.reverse, host.reverse)

/-- The host, up to a colon outside of brackets, and what follows it. -/
def splitHost (inBrackets : Bool) : List Char → List Char × List Char
  | [] => ([], [])
  | c :: cs =>
      if c = ':' ∧ !inBrackets then ([], c :: cs)
      else
        let inBrackets := if c = '[' then true else if c = ']' then false else inBrackets
        let (host, rest) := splitHost inBrackets cs
        (c :: host, rest)

/-- The port after a host, and what follows it: nothing, or a backslash where that is no
slash.  An empty port and the one the scheme implies are not written. -/
def port? (scheme : String) (cs : List Char) : Option (Option Nat × List Char) :=
  match cs with
  | [] => some (none, [])
  | _ :: cs => do
      let (digits, rest) := cs.span Char.isDigit
      guard (rest = [] || rest.head? = some '\\')
      let n := digits.foldl (fun n d => n * 10 + (d.toNat - 0x30)) 0
      guard (n ≤ 0xFFFF)
      pure (if digits = [] ∨ defaultPort? scheme = some n then none else some n, rest)

/-- The authority of a URL that is no file, and what follows its port; `last` says that
nothing follows the text. -/
def authority? (scheme : String) (last : Bool) (cs : List Char) :
    Option (Authority × List Char) := do
  let special := (schemeKind scheme).isSpecial
  let (user, place) := splitAtSign cs
  guard (last || !(user = some [] && place = []))
  let (host, rest) := splitHost false place
  let (port, after) ← port? scheme rest
  let credentials := (user.map credentials).getD ""
  let host ←
    if special then (if host = [] then none else Host.parse? host)
    else Host.parseLoose? host
  guard (!(host = "" && (credentials != "" || rest != [])))
  pure ({ credentials, host, port }, after)

/-- The URL of a scheme after two slashes. -/
def afterSlashes? (scheme : String) (cs : List Char) : Option Url := do
  let kind := schemeKind scheme
  let (place, rest) := cs.span (!isAuthorityEnd kind.isSpecial ·)
  let (authority, after) ← authority? scheme rest.isEmpty place
  let u : Url :=
    { scheme, authority := some authority, path := "", query := none, fragment := none }
  match after ++ rest with
  | [] => pure (if kind.isSpecial then { u with path := "/" } else u)
  | c :: cs =>
      if isPathEnd c then
        pure (if kind.isSpecial then (u.withPath ['/'] (c :: cs)).1 else u.withTail (c :: cs))
      else if isAuthorityEnd kind.isSpecial c then pure (u.withPath ['/'] cs).1
      else pure (u.withPath ['/'] (c :: cs)).1

/-! ## Relative references -/

/-- A reference against a base that is neither a file nor loose. -/
def relative? (base : Url) (cs : List Char) : Option Url :=
  let base := { base with fragment := none }
  match cs with
  | [] => some base
  | '#' :: _ => some (base.withFragment cs)
  | '?' :: _ => some (base.withTail cs)
  | c :: rest =>
      if c = '/' ∨ c = '\\' then
        match rest with
        | d :: _ =>
            if d = '/' ∨ d = '\\' then
              let after := if "//".toList.isPrefixOf cs then cs.drop 2
                else cs.dropWhile fun c => c == '/' || c == '\\'
              afterSlashes? base.scheme after
            else some (base.withPath ['/'] rest).1
        | [] => some (base.withPath ['/'] rest).1
      else
        let path := dropLast false base.path.toList
        some (base.withPath (if path = [] then ['/'] else path) cs).1

/-! ## Files -/

def isSlash (c : Char) : Bool := c == '/' || c == '\\'

def ofFile (host : String) : Url :=
  { scheme := "file", authority := some ⟨"", host, none⟩, path := "/", query := none,
    fragment := none }

/-- A file after two slashes: a host, and a path that may start with a drive. -/
def fileWithHost? (cs : List Char) : Option Url := do
  let (place, rest) := cs.span fun c => !(isSlash c || isPathEnd c)
  let place := visible place
  if place = [] then pure ((ofFile "").withPath ['/'] rest).1
  else if isDrive place then pure ((ofFile "").withPath ['/'] cs).1
  else
    let host ← Host.parse? place
    if host = "localhost" then pure ((ofFile "").withPath ['/'] rest).1
    else
      let rest := match rest with
        | c :: cs => if isSlash c then cs else rest
        | [] => []
      let (u, drive) := (ofFile host).withPath ['/'] rest
      pure (if drive then { u with authority := some ⟨"", "", none⟩ } else u)

/-- A file after one slash, which stays in the reference: the base gives its drive or host. -/
def fileFromRoot (base : Option Url) (cs : List Char) : Url :=
  if startsWithDrive (visible (cs.drop 1)) then ((ofFile "").withPath [] cs).1
  else match base with
    | none => ((ofFile "").withPath [] cs).1
    | some base =>
        let first := ((base.segments? >>= List.head?).getD "").toList
        if isNormalDrive first then ((ofFile "").withPath ('/' :: first) cs).1
        else ((ofFile ((base.authority.map Authority.host).getD "")).withPath [] cs).1

/-- A file reference without a slash at its start. -/
def relativeFile (base : Option Url) (cs : List Char) : Url :=
  match base with
  | none => ((ofFile "").withPath ['/'] cs).1
  | some base =>
      let base := { base with fragment := none }
      match cs with
      | [] => base
      | '?' :: _ => base.withTail cs
      | '#' :: _ => base.withFragment cs
      | _ =>
          if startsWithDrive (visible cs) then ((ofFile "").withPath ['/'] cs).1
          else (base.withPath (dropLast true base.path.toList) cs).1

/-- A file reference, perhaps against another file. -/
def file? (base : Option Url) (cs : List Char) : Option Url :=
  match cs.dropWhile isIgnored with
  | [] => some (relativeFile base [])
  | c :: cs =>
      if isSlash c then
        match cs.dropWhile isIgnored with
        | [] => some (fileFromRoot base (c :: cs))
        | d :: rest =>
            if isSlash d then fileWithHost? rest else some (fileFromRoot base (c :: cs))
      else some (relativeFile base (c :: cs))

/-! ## All together -/

/-- A URL of a scheme that is not special. -/
def loose? (scheme : String) (cs : List Char) : Option Url :=
  let u : Url := { scheme, authority := none, path := "", query := none, fragment := none }
  match cs with
  | '/' :: '/' :: rest => afterSlashes? scheme rest
  | '/' :: rest => some (u.withPath ['/'] rest).1
  | cs =>
      let (path, rest) := cs.span (!isPathEnd ·)
      some ({ u with path := String.ofList (encode isControl path) }.withTail rest)

/-- What follows a scheme. -/
def afterScheme? (base : Option Url) (scheme : String) (cs : List Char) : Option Url :=
  let base := base.filter fun base => base.scheme = scheme
  match schemeKind scheme with
  | .file => file? base cs
  | .other => loose? scheme (visible cs)
  | .special =>
      let cs := visible cs
      let slashes := cs.takeWhile isSlash
      match base with
      | some base =>
          if slashes.length < 2 then relative? base cs
          else afterSlashes? scheme (cs.dropWhile isSlash)
      | none => afterSlashes? scheme (cs.dropWhile isSlash)

/-- A reference without a scheme. -/
def withoutScheme? (base : Url) (cs : List Char) : Option Url :=
  match cs with
  | '#' :: _ => some (base.withFragment cs)
  | _ =>
      if !base.isHierarchical then none
      else if base.kind = .file then file? base cs
      else relative? base (visible cs)

/-- The URL a text is. -/
def parse? (text : String) : Option Url :=
  let cs := trim text.toList
  match splitScheme? cs with
  | some (scheme, rest) => afterScheme? none scheme rest
  | none => none

/-- The URL a reference means where `base` is the place it is written. -/
def join? (base : Url) (reference : String) : Option Url :=
  let cs := trim reference.toList
  match splitScheme? cs with
  | some (scheme, rest) => afterScheme? base scheme rest
  | none => withoutScheme? base cs

end Manuscript.Url

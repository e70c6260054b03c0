/-
# Manuscript.Settings.Basic -- what a user can choose

Settings come in three sections: how the workspace looks for files, how severe the
problems between documents are, and how typed text is matched.
-/
import Manuscript.Text.Span
import Manuscript.Text.Case

namespace Manuscript

set_option autoImplicit false

open Text

/-- How severe the violations of a rule are. -/
inductive RuleSeverity where
  | error
  | warning
  | info
  /-- The rule is not checked. -/
  | ignore
deriving DecidableEq, Repr, Inhabited

namespace RuleSeverity

def name : RuleSeverity → String
  | .error => "error"
  | .warning => "warning"
  | .info => "info"
  | .ignore => "ignore"

def all : List RuleSeverity := [.error, .warning, .info, .ignore]

def isEnabled (s : RuleSeverity) : Bool := s != .ignore

end RuleSeverity

/-- How typed text picks the completions it is the start of. -/
inductive Matcher where
  | exact
  | ignoreCase
deriving DecidableEq, Repr, Inhabited

namespace Matcher

def name : Matcher → String
  | .exact => "prefix"
  | .ignoreCase => "prefix-ignore-case"

def all : List Matcher := [.exact, .ignoreCase]

/-- Whether `candidate` starts with what was typed.  Where case is ignored, the start that is
compared has as many bytes as the typed text. -/
def accepts (m : Matcher) (candidate typed : List Char) : Bool :=
  match m with
  | .exact => typed.isPrefixOf candidate
  | .ignoreCase =>
      match takeBytes? (utf8Length typed) candidate with
      | some start => sameLetters start typed
      | none => false

end Matcher

structure WorkspaceSettings where
  /-- A directory where includes are looked for too. -/
  rootDir : Option String
  /-- Whether a file sees the files that include it. -/
  followParents : Bool
deriving DecidableEq, Repr, Inhabited

structure DiagnosticsSettings where
  undefinedLabels : RuleSeverity
  undefinedCitations : RuleSeverity
  duplicateLabels : RuleSeverity
  /-- If there are any, only messages that match one are shown. -/
  allowedPatterns : List String
  /-- Messages that match one are not shown. -/
  ignoredPatterns : List String
deriving DecidableEq, Repr, Inhabited

structure Settings where
  workspace : WorkspaceSettings
  diagnostics : DiagnosticsSettings
  matcher : Matcher
deriving DecidableEq, Repr, Inhabited

def WorkspaceSettings.default : WorkspaceSettings := ⟨none, false⟩

def DiagnosticsSettings.default : DiagnosticsSettings := ⟨.warning, .warning, .error, [], []⟩

def Settings.default : Settings := ⟨.default, .default, .ignoreCase⟩

/-- The file that holds the settings of a project. -/
def configFileName : String := "texgraph.toml"

end Manuscript

/-
# Manuscript.Settings.Reading -- settings from data

Every section and every key may be left out and then has its default; keys that
nobody knows are ignored; a value of the wrong kind makes the settings unreadable.
Only the root directory may be null.

What an editor sends replaces the settings of the configuration file as a whole.
-/
import Manuscript.Settings.Basic
import Manuscript.Toml.Parser

namespace Manuscript

set_option autoImplicit false

namespace Settings

def severity? (dialect : Dialect) (d : Datum) : Option RuleSeverity :=
  d.choice? dialect (RuleSeverity.all.map fun s => (s.name, s))

def matcher? (dialect : Dialect) (d : Datum) : Option Matcher :=
  d.choice? dialect (Matcher.all.map fun m => (m.name, m))

def workspace? (dialect : Dialect) (d : Datum) : Option WorkspaceSettings := do
  let default := WorkspaceSettings.default
  match ← d.fields? dialect ["root_dir", "follow_parents"] with
  | [rootDir, followParents] =>
      pure
        { rootDir := ← Datum.orDefault rootDir default.rootDir (Datum.nullable? Datum.text?)
          followParents := ← Datum.orDefault followParents default.followParents Datum.truth? }
  | _ => none

def diagnostics? (dialect : Dialect) (d : Datum) : Option DiagnosticsSettings := do
  let default := DiagnosticsSettings.default
  let severity := severity? dialect
  let patterns := Datum.listOf? Datum.text?
  match ← d.fields? dialect
      ["undefined_labels", "undefined_citations", "duplicate_labels", "allowed_patterns",
       "ignored_patterns"] with
  | [labels, citations, duplicates, allowed, ignored] =>
      pure
        { undefinedLabels := ← Datum.orDefault labels default.undefinedLabels severity
          undefinedCitations := ← Datum.orDefault citations default.undefinedCitations severity
          duplicateLabels := ← Datum.orDefault duplicates default.duplicateLabels severity
          allowedPatterns := ← Datum.orDefault allowed default.allowedPatterns patterns
          ignoredPatterns := ← Datum.orDefault ignored default.ignoredPatterns patterns }
  | _ => none

def completion? (dialect : Dialect) (d : Datum) : Option Matcher := do
  match ← d.fields? dialect ["matcher"] with
  | [matcher] => Datum.orDefault matcher Settings.default.matcher (matcher? dialect)
  | _ => none

/-- The settings a value holds. -/
def ofDatum? (dialect : Dialect) (d : Datum) : Option Settings := do
  match ← d.fields? dialect ["workspace", "diagnostics", "completion"] with
  | [workspace, diagnostics, completion] =>
      pure
        { workspace :=
            ← Datum.orDefault workspace Settings.default.workspace (workspace? dialect)
          diagnostics :=
            ← Datum.orDefault diagnostics Settings.default.diagnostics (diagnostics? dialect)
          matcher := ← Datum.orDefault completion Settings.default.matcher (completion? dialect) }
  | _ => none

/-- The settings an editor sent. -/
def ofJson? (j : Json) : Option Settings := ofDatum? .json (Datum.ofJson j)

/-- The settings of a configuration file. -/
def ofToml? (text : String) : Option Settings := Toml.parse? text >>= ofDatum? .toml

end Settings

/-- What is where a configuration file would be. -/
inductive ConfigFile where
  | missing
  | unreadable
  | holds (text : String)
deriving DecidableEq, Repr, Inhabited

namespace Settings

/-- The settings of a session. -/
def load? (config : ConfigFile) (sent : Option Json) : Option Settings := do
  let filed ← match config with
    | .missing => some default
    | .unreadable => none
    | .holds text => ofToml? text
  match sent with
  | none => pure filed
  | some .null => pure filed
  | some j => ofJson? j

end Settings

end Manuscript

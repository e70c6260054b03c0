/-
# Manuscript.Error -- why a question has no answer

Each constructor is a cause; `Error.message` words it for a reader.
-/
import Manuscript.Text.LineIndex
import Manuscript.Url.Basic

namespace Manuscript

set_option autoImplicit false

inductive Error where
  /-- The extension of the path belongs to neither language. -/
  | unsupportedLanguage (path : String)
  | documentNotFound (uri : Url)
  /-- Nothing that can be renamed stands there. -/
  | symbolNotFound (position : Position)
  /-- A name with several definitions cannot be renamed. -/
  | ambiguousSymbol (name : String) (definitions : Nat)
  /-- The new name cannot be written where the old one stands. -/
  | invalidName (name : String)
deriving DecidableEq, Repr

def Error.message : Error → String
  | .unsupportedLanguage path => "Unsupported language for '" ++ path ++ "'"
  | .documentNotFound uri => "Document not found: " ++ uri.text
  | .symbolNotFound p =>
      "No renamable symbol at line " ++ toString p.line ++ ", character " ++ toString p.column
  | .ambiguousSymbol name definitions =>
      "'" ++ name ++ "' is defined " ++ toString definitions ++ " times"
  | .invalidName name => "Invalid name: '" ++ name ++ "'"

end Manuscript

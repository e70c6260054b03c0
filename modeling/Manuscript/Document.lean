/-
# Manuscript.Document -- a source file and what was read from it

A document is named by its URL and keeps the language it was created with.
Replacing its text leaves it `stale`: the structure still describes the text
before, while the line index follows the text at once.  `analyzed` reads the text
again.
-/
import Manuscript.Structure
import Manuscript.Error

namespace Manuscript

set_option autoImplicit false

structure Document where
  uri : Url
  language : Language
  text : String
  lineIndex : LineIndex
  contents : Structure
  stale : Bool
deriving DecidableEq, Repr

namespace Document

/-- An empty document. -/
def create (uri : Url) (language : Language) : Document :=
  { uri, language, text := "", lineIndex := .ofString "", contents := .empty language,
    stale := false }

/-- The document with another text, which is not read yet. -/
def withText (d : Document) (text : String) : Document :=
  { d with text, lineIndex := .ofString text, stale := true }

/-- The document with its text read. -/
def analyzed (d : Document) : Document :=
  { d with
    lineIndex := .ofString d.text
    contents := analyze d.language d.text
    stale := false }

/-- A document of the language that the path of its URL names, with its text read. -/
def open? (uri : Url) (text : String) : Except Error Document :=
  match Language.ofPath? uri.path with
  | some language => .ok ((create uri language).withText text).analyzed
  | none => .error (.unsupportedLanguage uri.path)

/-- The place of a byte offset. -/
def position (d : Document) (offset : Nat) : Position :=
  d.lineIndex.position d.text.toList offset

def range (d : Document) (s : Span) : Range := ⟨d.position s.start, d.position s.stop⟩

/-- The byte offset of a place, if the text has its line. -/
def offset? (d : Document) (p : Position) : Option Nat := d.lineIndex.offset? d.text.toList p

def lineOf (d : Document) (offset : Nat) : Nat := (d.position offset).line

/-- The number of bytes of the text. -/
def size (d : Document) : Nat := Text.utf8Length d.text.toList

/-- The last line that holds something; a line break at the end of the text opens none. -/
def lastLine (d : Document) : Nat :=
  let last := d.lineIndex.lineCount - 1
  if d.lineIndex.lineStart? last = some d.size then last - 1 else last

def fileName (d : Document) : String := d.uri.fileName

end Document

end Manuscript

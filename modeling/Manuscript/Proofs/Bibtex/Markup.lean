/-
# Manuscript.Proofs.Bibtex.Markup -- bibliographies, and what is printed for them

An `Item` is one part of a bibliography: free text, a block that declares a name, a block
whose content is not read, or an entry.  White space may stand between any two tokens and is
part of the item, so that an item has one text (`Item.text`).  What makes it printable as it
stands it carries along: names are names, braces are balanced.

`Item.found` is what a reader of the text has to find, with places counted along the printed
text.
-/
import Manuscript.Bibtex.Analysis

namespace Manuscript.Bibtex

set_option autoImplicit false

open Text

/-- What two texts hold, one after the other. -/
instance : Append Structure where
  append s t :=
    { entries := s.entries ++ t.entries
      strings := s.strings ++ t.strings
      stringReferences := s.stringReferences ++ t.stringReferences
      diagnostics := s.diagnostics ++ t.diagnostics }

namespace Markup

/-! ## Tokens -/

structure Blanks where
  text : List Char
  blank : ∀ c ∈ text, isAsciiBlank c = true

/-- The type of a block, the name of a field, or a bare word. -/
structure Word where
  text : List Char
  nonempty : text ≠ []
  name : ∀ c ∈ text, isNameChar c = true

/-- The braces of a text close those `depth` groups and each other, and a character that may
not stand outside of them does not. -/
inductive Balanced (outside : Char → Bool) : Nat → List Char → Prop where
  | done : Balanced outside 0 []
  | opens {depth : Nat} {cs : List Char} :
      Balanced outside (depth + 1) cs → Balanced outside depth ('\x7b' :: cs)
  | closes {depth : Nat} {cs : List Char} :
      Balanced outside depth cs → Balanced outside (depth + 1) ('\x7d' :: cs)
  | other {depth : Nat} {c : Char} {cs : List Char} : c ≠ '\x7b' → c ≠ '\x7d' →
      (depth ≠ 0 ∨ outside c = true) → Balanced outside depth cs →
      Balanced outside depth (c :: cs)

/-- The characters of a key. -/
def isKeyChar (delimiter : Delimiter) (c : Char) : Bool :=
  c ∉ [',', '\x7b', '\x7d', delimiter.closing] && !isAsciiBlank c

structure Key (delimiter : Delimiter) where
  text : List Char
  nonempty : text ≠ []
  chars : ∀ c ∈ text, isKeyChar delimiter c = true

/-! ## Values -/

/-- A piece of a value. -/
inductive Part where
  | braced (content : List Char) (balanced : Balanced (fun _ => true) 0 content)
      (noEscape : '\\' ∉ content)
  | quoted (content : List Char) (balanced : Balanced (· != '"') 0 content)
      (noEscape : '\\' ∉ content)
  | word (name : Word)

namespace Part

def text : Part → List Char
  | braced content _ _ => '\x7b' :: (content ++ ['\x7d'])
  | quoted content _ _ => '"' :: (content ++ ['"'])
  | word name => name.text

def content : Part → List Char
  | braced content _ _ => content
  | quoted content _ _ => content
  | word name => name.text

/-- A word refers to a string unless it starts with a digit. -/
def reference? (offset : Nat) : Part → Option Symbol
  | word name =>
      if startsWith Char.isDigit name.text then none else some (.ofText offset name.text)
  | _ => none

end Part

/-- Parts joined by number signs. -/
inductive Value where
  | last (part : Part)
  | more (part : Part) (before after : Blanks) (rest : Value)

namespace Value

def text : Value → List Char
  | last part => part.text
  | more part before after rest =>
      part.text ++ (before.text ++ '#' :: (after.text ++ rest.text))

def content : Value → List Char
  | last part => part.content
  | more part _ _ rest => part.content ++ rest.content

def references (offset : Nat) : Value → List Symbol
  | last part => (part.reference? offset).toList
  | more part before after rest =>
      (part.reference? offset).toList ++
        rest.references (offset + utf8Length (part.text ++ (before.text ++ '#' :: after.text)))

end Value

/-! ## Fields -/

structure Assignment where
  name : Word
  before : Blanks
  after : Blanks
  value : Value

namespace Assignment

/-- The text of an assignment up to its value. -/
def sign (a : Assignment) : List Char := a.name.text ++ (a.before.text ++ '=' :: a.after.text)

def text (a : Assignment) : List Char := a.sign ++ a.value.text

def references (offset : Nat) (a : Assignment) : List Symbol :=
  a.value.references (offset + utf8Length a.sign)

end Assignment

/-- The fields of an entry after its key, up to the delimiter that closes it. -/
inductive Tail where
  | close (blanks : Blanks)
  /-- A comma after the last field, or after the key. -/
  | trailing (before after : Blanks)
  | field (before after : Blanks) (assignment : Assignment) (rest : Tail)

/-- The comma before a field, with the blanks around it. -/
def comma (before after : Blanks) : List Char := before.text ++ ',' :: after.text

namespace Tail

def text : Tail → List Char
  | close blanks => blanks.text
  | trailing before after => comma before after
  | field before after assignment rest => comma before after ++ (assignment.text ++ rest.text)

def assignments : Tail → List Assignment
  | field _ _ assignment rest => assignment :: rest.assignments
  | _ => []

def references (offset : Nat) : Tail → List Symbol
  | field before after assignment rest =>
      let start := offset + utf8Length (comma before after)
      assignment.references start ++ rest.references (start + utf8Length assignment.text)
  | _ => []

end Tail

/-! ## Items -/

def opening : Delimiter → Char
  | .brace => '\x7b'
  | .parenthesis => '('

/-- A block up to and including the delimiter that opens it. -/
def head (kind : Word) (blanks : Blanks) (delimiter : Delimiter) : List Char :=
  '@' :: (kind.text ++ (blanks.text ++ [opening delimiter]))

inductive Item where
  | free (text : List Char) (outside : '@' ∉ text)
  | skipped (kind : Word)
      (known : String.ofList (lower kind.text) = "comment" ∨
        String.ofList (lower kind.text) = "preamble")
      (blanks : Blanks) (body : List Char) (balanced : Balanced (fun _ => true) 0 body)
  | string (kind : Word) (known : String.ofList (lower kind.text) = "string")
      (blanks : Blanks) (delimiter : Delimiter) (before : Blanks) (assignment : Assignment)
      (after : Blanks)
  | entry (kind : Word) (ordinary : String.ofList (lower kind.text) ∉ ["comment", "preamble", "string"])
      (blanks : Blanks) (delimiter : Delimiter) (before : Blanks) (key : Key delimiter)
      (tail : Tail)

namespace Item

def text : Item → List Char
  | free text _ => text
  | skipped kind _ blanks body _ => head kind blanks .brace ++ (body ++ ['\x7d'])
  | string kind _ blanks delimiter before assignment after =>
      head kind blanks delimiter ++
        (before.text ++ (assignment.text ++ (after.text ++ [delimiter.closing])))
  | entry kind _ blanks delimiter before key tail =>
      head kind blanks delimiter ++
        (before.text ++ (key.text ++ (tail.text ++ [delimiter.closing])))

/-- The text of the first field named title, in any case of its letters. -/
def title? (assignments : List Assignment) : Option String :=
  (assignments.find? fun a => lower a.name.text = "title".toList).map fun a =>
    Bibtex.Value.plain a.value.content

def found (offset : Nat) : Item → Structure
  | free _ _ => .empty
  | skipped _ _ _ _ _ => .empty
  | string kind _ blanks delimiter before assignment _ =>
      let start := offset + utf8Length (head kind blanks delimiter ++ before.text)
      { Structure.empty with
        strings := [.ofText start assignment.name.text]
        stringReferences := assignment.references start }
  | item@(entry kind _ blanks delimiter before key tail) =>
      let start := offset + utf8Length (head kind blanks delimiter ++ before.text)
      { Structure.empty with
        entries :=
          [{ kind := String.ofList (lower kind.text)
             key := some (.ofText start key.text)
             title := title? tail.assignments
             span := ⟨offset, offset + utf8Length item.text⟩ }]
        stringReferences := tail.references (start + utf8Length key.text) }

end Item

/-- The text of a bibliography. -/
def text (items : List Item) : List Char := items.flatMap Item.text

/-- What the blocks of a bibliography hold. -/
def found (offset : Nat) : List Item → Structure
  | [] => .empty
  | item :: items => item.found offset ++ found (offset + utf8Length item.text) items

/-- The symbols whose name an earlier symbol has. -/
def repeats (symbols : List Symbol) : List Symbol :=
  (symbols.zipIdx.filter fun (s, i) => s.name ∈ (symbols.take i).map Symbol.name).map Prod.fst

/-- The problems of a bibliography whose blocks are well formed: keys that an earlier entry has,
and references to strings that it does not declare. -/
def problems (s : Structure) : List Diagnostic :=
  (repeats s.keys).map duplicateKey ++
    (s.stringReferences.filter fun reference => !s.definesString reference.name).map undefinedString

end Markup

end Manuscript.Bibtex

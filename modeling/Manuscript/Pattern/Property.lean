/-
# Manuscript.Pattern.Property -- sets of characters by the name of a property

A property is named alone, as `alphabetic`, or with a value, as `script=greek`.  Alone
stand the properties a character has or lacks, the general categories and the scripts;
with a value stand the categories and scripts too, the scripts a character is used
with, the version since which it is known and the classes for text boundaries.

Names are compared without case, blanks, dashes and underscores, and without an `is`
before them (`plainName`).
-/
import Manuscript.Unicode.Age
import Manuscript.Unicode.Boundary
import Manuscript.Unicode.Property
import Manuscript.Unicode.Script

namespace Manuscript.Pattern.Property

set_option autoImplicit false

open Unicode

/-- The characters of a name that count. -/
def significant (name : List Char) : List Char :=
  (name.filter fun c => c.toNat < 0x80 && c != ' ' && c != '_' && c != '-').map Char.toLower

/-- The name as it stands in the tables.  After `is` the letter C alone would name nothing. -/
def plainName (name : List Char) : String :=
  String.ofList <| match name with
    | a :: b :: rest =>
        if [a.toLower, b.toLower] = ['i', 's'] then
          match significant rest with
          | ['c'] => ['i', 's', 'c']
          | cs => cs
        else significant name
    | _ => significant name

/-- The set of a property that is named alone. -/
def alone? (name : List Char) : Option Runs :=
  let name := plainName name
  named? properties name <|> named? categories name <|> named? scripts name

/-- What a value may be asked of. -/
inductive Question where
  | category
  | script
  | scriptExtension
  | age
  | cluster
  | word
  | sentence
deriving DecidableEq, Repr

def questions : List (String × Question) :=
  [("gc", .category), ("generalcategory", .category), ("sc", .script), ("script", .script),
   ("scx", .scriptExtension), ("scriptextensions", .scriptExtension), ("age", .age),
   ("gcb", .cluster), ("graphemeclusterbreak", .cluster), ("wb", .word), ("wordbreak", .word),
   ("sb", .sentence), ("sentencebreak", .sentence)]

/-- The characters for which a value is the answer. -/
def Question.answer? (q : Question) (value : String) : Option Runs :=
  match q with
  | category => named? categories value
  | script => named? scripts value
  | scriptExtension => scriptExtensions? value
  | age => knownIn? value
  | cluster => named? clusterClasses value
  | word => named? wordClasses value
  | sentence => named? sentenceClasses value

/-- The set of a property with a value. -/
def valued? (property value : List Char) : Option Runs := do
  (← questions.lookup (plainName property)).answer? (plainName value)

/-- What stands before and after the first place where two characters follow each other. -/
def splitAtPair (a b : Char) : List Char → Option (List Char × List Char)
  | [] => none
  | [_] => none
  | c :: d :: cs =>
      if c = a ∧ d = b then some ([], cs)
      else (splitAtPair a b (d :: cs)).map fun (front, back) => (c :: front, back)

/-- What stands before and after the first such character. -/
def splitAt (a : Char) (cs : List Char) : Option (List Char × List Char) :=
  match cs.span (· ≠ a) with
  | (_, []) => none
  | (front, _ :: back) => some (front, back)

/-- The set of a property as it is written between braces.  Any of the three signs may stand
before a value, and all mean the same. -/
def written? (text : List Char) : Option Runs :=
  match splitAtPair '!' '=' text <|> splitAt ':' text <|> splitAt '=' text with
  | some (property, value) => valued? property value
  | none => alone? text

end Manuscript.Pattern.Property

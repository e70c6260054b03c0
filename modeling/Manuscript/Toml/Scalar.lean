/-
# Manuscript.Toml.Scalar -- strings, numbers and dates

Readers take the remaining text and give what they read with what follows, or
nothing if the text does not start that way.  Integers have 64 bits, a float is
not larger than the largest one of double precision, and a date is in the calendar.
-/
import Manuscript.Datum
import Manuscript.Text.Digit

namespace Manuscript.Toml

set_option autoImplicit false

open Text

def isSpace (c : Char) : Bool := c == ' ' || c == '\t'

def skipSpace (cs : List Char) : List Char := cs.dropWhile isSpace

/-- Characters that may stand in comments and strings. -/
def isTextChar (c : Char) : Bool := c == '\t' || (0x20 ≤ c.toNat && c.toNat ≠ 0x7F)

/-- What follows a line break. -/
def newline? : List Char → Option (List Char)
  | '\n' :: cs => some cs
  | '\r' :: '\n' :: cs => some cs
  | _ => none

/-! ## Strings -/

/-- The character of an escape with one letter. -/
def letterEscape? : Char → Option Char
  | 'b' => some '\x08'
  | 't' => some '\t'
  | 'n' => some '\n'
  | 'f' => some '\x0c'
  | 'r' => some '\r'
  | '"' => some '"'
  | '\\' => some '\\'
  | _ => none

/-- The character that is written after a backslash. -/
def escape? : List Char → Option (Char × List Char)
  | 'u' :: cs =>
      if cs.length < 4 then none
      else ((numberOf? 16 (cs.take 4)) >>= scalar?).map fun c => (c, cs.drop 4)
  | 'U' :: cs =>
      if cs.length < 8 then none
      else ((numberOf? 16 (cs.take 8)) >>= scalar?).map fun c => (c, cs.drop 8)
  | c :: cs => (letterEscape? c).map fun c => (c, cs)
  | [] => none

theorem escape?_length {cs rest : List Char} {c : Char} (h : escape? cs = some (c, rest)) :
    rest.length < cs.length := by
  unfold escape? at h
  split at h
  · split at h
    · simp at h
    · simp only [Option.map_eq_some_iff, Prod.mk.injEq] at h
      obtain ⟨_, _, _, rfl⟩ := h
      simp only [List.length_cons, List.length_drop]
      omega
  · split at h
    · simp at h
    · simp only [Option.map_eq_some_iff, Prod.mk.injEq] at h
      obtain ⟨_, _, _, rfl⟩ := h
      simp only [List.length_cons, List.length_drop]
      omega
  · simp only [Option.map_eq_some_iff, Prod.mk.injEq] at h
    obtain ⟨_, _, _, rfl⟩ := h
    simp
  · simp at h

/-- The characters of a string up to its closing quote. -/
def basic? (cs : List Char) : Option (List Char × List Char) :=
  match cs with
  | [] => none
  | '"' :: rest => some ([], rest)
  | '\\' :: rest =>
      match _h : escape? rest with
      | none => none
      | some (c, rest) => (basic? rest).map fun (read, after) => (c :: read, after)
  | c :: rest =>
      if isTextChar c then (basic? rest).map fun (read, after) => (c :: read, after) else none
termination_by cs.length
decreasing_by
  · have := escape?_length _h
    simp only [List.length_cons]
    omega
  · simp

/-- The characters of a string without escapes up to its closing apostrophe. -/
def literal? : List Char → Option (List Char × List Char)
  | [] => none
  | '\'' :: rest => some ([], rest)
  | c :: rest =>
      if isTextChar c then (literal? rest).map fun (read, after) => (c :: read, after) else none

/-- After three quotes: how many more belong to the string, and what follows the string. -/
def closing? (quote : Char) (cs : List Char) : Option (List Char × List Char) :=
  let more := cs.takeWhile (· == quote)
  if more.length ≤ 2 then some (more, cs.drop more.length) else none

/-- The blanks and line breaks after a backslash at the end of a line. -/
def skipBreaks : List Char → List Char
  | [] => []
  | '\n' :: cs => skipBreaks cs
  | '\r' :: '\n' :: cs => skipBreaks cs
  | c :: cs => if isSpace c then skipBreaks cs else c :: cs

theorem skipBreaks_length (cs : List Char) : (skipBreaks cs).length ≤ cs.length := by
  fun_induction skipBreaks cs <;> simp_all <;> omega

/-- What follows a backslash that ends its line. -/
def foldedBreak? (cs : List Char) : Option (List Char) :=
  let rest := skipSpace cs
  match newline? rest with
  | some _ => some (skipBreaks rest)
  | none => none

theorem foldedBreak?_length {cs rest : List Char} (h : foldedBreak? cs = some rest) :
    rest.length ≤ cs.length := by
  simp only [foldedBreak?] at h
  split at h
  · injection h with h
    subst h
    refine Nat.le_trans (skipBreaks_length _) ?_
    exact (List.dropWhile_sublist _).length_le
  · simp at h

/-- The characters of a string of several lines up to its closing quotes. -/
def longBasic? (cs : List Char) : Option (List Char × List Char) :=
  match cs with
  | [] => none
  | '"' :: '"' :: '"' :: rest => closing? '"' rest
  | '\r' :: '\n' :: rest => (longBasic? rest).map fun (read, after) => ('\n' :: read, after)
  | '\n' :: rest => (longBasic? rest).map fun (read, after) => ('\n' :: read, after)
  | '\\' :: rest =>
      match _hb : foldedBreak? rest with
      | some rest => longBasic? rest
      | none =>
          match _h : escape? rest with
          | none => none
          | some (c, rest) => (longBasic? rest).map fun (read, after) => (c :: read, after)
  | c :: rest =>
      if isTextChar c then (longBasic? rest).map fun (read, after) => (c :: read, after) else none
termination_by cs.length
decreasing_by
  · simp only [List.length_cons]
    omega
  · simp
  · have := foldedBreak?_length _hb
    simp only [List.length_cons]
    omega
  · have := escape?_length _h
    simp only [List.length_cons]
    omega
  · simp

def longLiteral? : List Char → Option (List Char × List Char)
  | [] => none
  | '\'' :: '\'' :: '\'' :: rest => closing? '\'' rest
  | '\r' :: '\n' :: rest => (longLiteral? rest).map fun (read, after) => ('\n' :: read, after)
  | '\n' :: rest => (longLiteral? rest).map fun (read, after) => ('\n' :: read, after)
  | c :: rest =>
      if isTextChar c then (longLiteral? rest).map fun (read, after) => (c :: read, after)
      else none

/-- A line break right after opening quotes does not belong to the string. -/
def afterOpening (cs : List Char) : List Char := (newline? cs).getD cs

/-- A string in any of its four forms. -/
def string? (cs : List Char) : Option (String × List Char) :=
  let read := match cs with
    | '"' :: '"' :: '"' :: rest => longBasic? (afterOpening rest)
    | '"' :: rest => basic? rest
    | '\'' :: '\'' :: '\'' :: rest => longLiteral? (afterOpening rest)
    | '\'' :: rest => literal? rest
    | _ => none
  read.map fun (read, after) => (String.ofList read, after)

/-! ## Digits -/

/-- Digits with single underscores between them. -/
def moreDigits (isDigit : Char → Bool) : List Char → List Char × List Char
  | '_' :: c :: cs =>
      if isDigit c then
        let (read, after) := moreDigits isDigit cs
        (c :: read, after)
      else ([], '_' :: c :: cs)
  | c :: cs =>
      if isDigit c then
        let (read, after) := moreDigits isDigit cs
        (c :: read, after)
      else ([], c :: cs)
  | [] => ([], [])

/-- At least one digit. -/
def digits? (isDigit : Char → Bool) : List Char → Option (List Char × List Char)
  | [] => none
  | c :: cs =>
      if isDigit c then
        let (read, after) := moreDigits isDigit cs
        some (c :: read, after)
      else none

/-- Digits without a superfluous zero in front. -/
def whole? : List Char → Option (List Char × List Char)
  | '0' :: cs => some (['0'], cs)
  | cs => digits? Char.isDigit cs

def sign (cs : List Char) : Bool × List Char :=
  match cs with
  | '-' :: cs => (true, cs)
  | '+' :: cs => (false, cs)
  | _ => (false, cs)

/-! ## Integers -/

/-- An integer of 64 bits: in decimal with a sign, or in another radix without one. -/
def integer? (cs : List Char) : Option (Int × List Char) :=
  let other (radix : Nat) (cs : List Char) : Option (Int × List Char) := do
    let (ds, after) ← digits? (fun c => (digitValue? radix c).isSome) cs
    let n ← numberOf? radix ds
    if n < 0x8000000000000000 then some (n, after) else none
  match cs with
  | '0' :: 'x' :: cs => other 16 cs
  | '0' :: 'o' :: cs => other 8 cs
  | '0' :: 'b' :: cs => other 2 cs
  | cs => do
      let (negative, cs) := sign cs
      let (ds, after) ← whole? cs
      let n ← numberOf? 10 ds
      if negative then if n ≤ 0x8000000000000000 then some (-n, after) else none
      else if n < 0x8000000000000000 then some (n, after) else none

/-! ## Floats -/

/-- Half a step above the largest number of double precision. -/
def overflowBound : Nat := Nat.pow 2 1024 - Nat.pow 2 970

/-- Whether a number of digits times a power of ten rounds to infinity. -/
def overflows (digits : List Char) (exponent : Int) : Bool :=
  match numberOf? 10 digits with
  | none => false
  | some 0 => false
  | some n =>
      let size : Int := (digits.dropWhile (· == '0')).length + exponent
      if size < 300 then false
      else if 400 < size then true
      else if 0 ≤ exponent then overflowBound ≤ n * Nat.pow 10 exponent.toNat
      else overflowBound * Nat.pow 10 (-exponent).toNat ≤ n

def exponent? : List Char → Option (Int × List Char)
  | c :: cs =>
      if c = 'e' ∨ c = 'E' then do
        let (negative, cs) := sign cs
        let (ds, after) ← digits? Char.isDigit cs
        let n ← numberOf? 10 ds
        some (if negative then -n else n, after)
      else none
  | [] => none

/-- A float; a positive one may not be too large. -/
def float? (cs : List Char) : Option (List Char) :=
  let (negative, cs) := sign cs
  let accept (ds : List Char) (exponent : Int) (after : List Char) : Option (List Char) :=
    if !negative && overflows ds exponent then none else some after
  match cs with
  | 'i' :: 'n' :: 'f' :: after => some after
  | 'n' :: 'a' :: 'n' :: after => some after
  | _ => do
      let (ds, after) ← whole? cs
      match after with
      | '.' :: rest =>
          let (fraction, after) ← digits? Char.isDigit rest
          let shift : Int := fraction.length
          match exponent? after with
          | some (exponent, after) => accept (ds ++ fraction) (exponent - shift) after
          | none => accept (ds ++ fraction) (-shift) after
      | _ =>
          let (exponent, after) ← exponent? after
          accept ds exponent after

/-! ## Dates and times -/

/-- Exactly so many digits, as a number within bounds. -/
def field? (width least most : Nat) (cs : List Char) : Option (Nat × List Char) :=
  if cs.length < width then none
  else do
    let n ← numberOf? 10 (cs.take width)
    if least ≤ n ∧ n ≤ most then some (n, cs.drop width) else none

def char? (c : Char) : List Char → Option (List Char)
  | d :: cs => if c = d then some cs else none
  | [] => none

def isLeapYear (year : Nat) : Bool := year % 4 == 0 && (year % 100 != 0 || year % 400 == 0)

def daysInMonth (year month : Nat) : Nat :=
  if month = 2 then if isLeapYear year then 29 else 28
  else if month ∈ [4, 6, 9, 11] then 30 else 31

/-- A day of the calendar. -/
def date? (cs : List Char) : Option (List Char) := do
  let (year, cs) ← field? 4 0 9999 cs
  let cs ← char? '-' cs
  let (month, cs) ← field? 2 1 12 cs
  let cs ← char? '-' cs
  let (_, cs) ← field? 2 1 (daysInMonth year month) cs
  pure cs

/-- A time of the day; its last minute may have a leap second. -/
def time? (cs : List Char) : Option (List Char) := do
  let (_, cs) ← field? 2 0 23 cs
  let cs ← char? ':' cs
  let (_, cs) ← field? 2 0 59 cs
  let cs ← char? ':' cs
  let (_, cs) ← field? 2 0 60 cs
  match cs with
  | '.' :: d :: rest => if d.isDigit then pure (rest.dropWhile Char.isDigit) else pure cs
  | _ => pure cs

/-- An offset from universal time, or nothing. -/
def skipZone (cs : List Char) : List Char :=
  let offset (cs : List Char) : Option (List Char) := do
    let (_, cs) ← field? 2 0 23 cs
    let cs ← char? ':' cs
    let (_, cs) ← field? 2 0 59 cs
    pure cs
  match cs with
  | 'Z' :: rest => rest
  | 'z' :: rest => rest
  | '+' :: rest => (offset rest).getD cs
  | '-' :: rest => (offset rest).getD cs
  | _ => cs

/-- A date, a time, or both. -/
def moment? (cs : List Char) : Option (List Char) :=
  match date? cs with
  | none => time? cs
  | some after =>
      match after with
      | c :: rest =>
          if c = 'T' ∨ c = 't' ∨ c = ' ' then
            match time? rest with
            | some after => some (skipZone after)
            | none => some after
          else some after
      | [] => some []

/-- A date, a time or a number. -/
def number? (cs : List Char) : Option (Datum × List Char) :=
  match moment? cs, float? cs with
  | some after, _ => some (.moment, after)
  | _, some after => some (.number none, after)
  | none, none => (integer? cs).map fun (n, after) => (.number (Datum.naturalOf n), after)

end Manuscript.Toml

/-
# Manuscript.Latex.Group -- the arguments of a command

Readers for what may follow a command name: blanks and comments (`skipLayout`),
optional arguments in brackets (`skipOptions`), and a group of plain keys in
braces (`Group.read?`).

A key group usually ends at its first closing brace.  Nested groups and commands
are accepted when the group is balanced before the next blank line.  A group that
is neither is half typed: it ends at the nested group, command or blank line that
spoils it, `closed` is false, and reading goes on from there, so that the rest of
the text is not swallowed.
-/
import Manuscript.Text.Cursor

namespace Manuscript.Latex

set_option autoImplicit false

open Text

/-- The characters of a command name. -/
def isLetter (c : Char) : Bool := c.isAlpha || c == '@'

/-! ## Blanks and comments -/

/-- What follows the blanks and comments at the start of a text; `comment` says that
the text starts inside a comment. -/
def afterLayout (comment : Bool) : List Char → List Char × List Char
  | [] => ([], [])
  | c :: cs =>
      let skip := fun (comment : Bool) =>
        let (read, rest) := afterLayout comment cs
        (c :: read, rest)
      if comment then skip (c != '\n')
      else if isLayout c then skip false
      else if c == '%' then skip true
      else ([], c :: cs)

/-- The first place that is neither blank nor in a comment. -/
def skipLayout (k : Cursor) : Cursor :=
  let (read, rest) := afterLayout false k.rest
  k.after read rest

/-! ## Balanced braces -/

/-- How the next character is read: as it stands, after a backslash, or in a comment. -/
inductive Mode where
  | plain
  | escaped
  | comment
deriving DecidableEq, Repr

/-- The mode after a character of plain text or of a comment. -/
def Mode.next : Mode → Char → Mode
  | .plain, '\\' => .escaped
  | .plain, '%' => .comment
  | .plain, _ => .plain
  | .escaped, _ => .plain
  | .comment, '\n' => .plain
  | .comment, _ => .comment

/-- What stands before the brace that closes a group with `depth` groups open inside it,
and what follows from that brace on. -/
def untilClosing? (depth : Nat) (mode : Mode) : List Char → Option (List Char × List Char)
  | [] => none
  | c :: cs =>
      let go := fun (depth : Nat) =>
        (untilClosing? depth (mode.next c) cs).map fun (read, rest) => (c :: read, rest)
      if mode = .plain ∧ c = '{' then go (depth + 1)
      else if mode = .plain ∧ c = '}' then
        match depth with
        | 0 => some ([], c :: cs)
        | depth + 1 => go depth
      else go depth

/-! ## Optional arguments -/

/-- What follows the bracket that closes an optional argument with `depth` brackets or
braces open inside it.  Brackets and braces count alike, and the argument has no end if a
brace comes where the bracket should. -/
def untilBracket? (depth : Nat) (escaped : Bool) : List Char → Option (List Char × List Char)
  | [] => none
  | c :: cs =>
      let go := fun (depth : Nat) (escaped : Bool) =>
        (untilBracket? depth escaped cs).map fun (read, rest) => (c :: read, rest)
      if escaped then go depth false
      else if c = '\\' then go depth true
      else if c = '[' ∨ c = '{' then go (depth + 1) false
      else if c = ']' ∨ c = '}' then
        match depth with
        | 0 => if c = ']' then some ([c], cs) else none
        | depth + 1 => go depth false
      else go depth false

theorem untilBracket?_append {depth : Nat} {escaped : Bool} {cs read rest : List Char}
    (h : untilBracket? depth escaped cs = some (read, rest)) : read ++ rest = cs := by
  induction cs generalizing depth escaped read rest with
  | nil => simp [untilBracket?] at h
  | cons c cs ih =>
    have step : ∀ d e, ((untilBracket? d e cs).map fun p => (c :: p.1, p.2)) = some (read, rest) →
        read ++ rest = c :: cs := by
      intro d e he
      obtain ⟨⟨r, s⟩, hr, hs⟩ := Option.map_eq_some_iff.1 he
      simp only [Prod.mk.injEq] at hs
      obtain ⟨rfl, rfl⟩ := hs
      simp [ih hr]
    unfold untilBracket? at h
    repeat' split at h
    all_goals first
      | exact step _ _ h
      | (simp only [Option.some.injEq, Prod.mk.injEq] at h; obtain ⟨rfl, rfl⟩ := h; rfl)
      | simp at h

/-- One optional argument, with the blanks and comments before it. -/
def option? (k : Cursor) : Option Cursor :=
  let here := skipLayout k
  match here.rest with
  | '[' :: inside =>
      (untilBracket? 0 false inside).map fun (read, rest) => here.after ('[' :: read) rest
  | _ => none

theorem afterLayout_append (comment : Bool) (cs : List Char) :
    (afterLayout comment cs).1 ++ (afterLayout comment cs).2 = cs := by
  induction cs generalizing comment with
  | nil => rfl
  | cons c cs ih =>
    unfold afterLayout
    repeat' split
    all_goals simp [ih]

theorem reaches_skipLayout (k : Cursor) : k.Reaches (skipLayout k) :=
  Cursor.reaches_after (afterLayout_append false k.rest)

theorem reaches_option? {k k' : Cursor} (h : option? k = some k') :
    k.Reaches k' ∧ k'.rest.length < k.rest.length := by
  simp only [option?] at h
  split at h
  · rename_i inside hi
    obtain ⟨⟨read, rest⟩, hr, rfl⟩ := Option.map_eq_some_iff.1 h
    have happ := untilBracket?_append hr
    refine ⟨(reaches_skipLayout k).trans (Cursor.reaches_after (by simp [hi, happ])), ?_⟩
    have hle := (reaches_skipLayout k).length_le
    have := congrArg List.length happ
    simp only [hi, List.length_append, List.length_cons, Cursor.after] at *
    omega
  · simp at h

/-- The place after any number of optional arguments.  One that never closes is left alone. -/
def skipOptions (k : Cursor) : Cursor :=
  match _h : option? k with
  | some k' => skipOptions k'
  | none => k
termination_by k.rest.length
decreasing_by exact (reaches_option? _h).2

theorem skipOptions_of_none {k : Cursor} (h : option? k = none) : skipOptions k = k := by
  rw [skipOptions]
  split
  · rename_i k' h'
    rw [h] at h'
    cases h'
  · rfl

theorem skipOptions_of_some {k k' : Cursor} (h : option? k = some k') :
    skipOptions k = skipOptions k' := by
  rw [skipOptions]
  split
  · rename_i k'' h''
    rw [h] at h''
    cases h''
    rfl
  · rename_i h''
    rw [h] at h''
    cases h''

theorem reaches_skipOptions (k : Cursor) : k.Reaches (skipOptions k) := by
  induction k using skipOptions.induct with
  | case1 k k' h ih =>
    rw [skipOptions_of_some h]
    exact (reaches_option? h).1.trans ih
  | case2 k h =>
    rw [skipOptions_of_none h]
    exact Cursor.Reaches.refl k

/-! ## Key groups -/

/-- Whether only blanks come before the end of the line. -/
def blankLine (cs : List Char) : Bool := (cs.takeWhile (· != '\n')).all isBlank

/-- Where a plain key group ends: at a brace, at a command, or at a line break before a
blank line. -/
def endsPlain : List Char → Bool
  | [] => false
  | c :: cs => c == '}' || c == '{' || c == '\\' || (c == '\n' && blankLine cs)

/-- Whether a blank line follows one of the first `n` characters. -/
def hasBlankLine : Nat → List Char → Bool
  | 0, _ => false
  | _, [] => false
  | n + 1, c :: cs => (c == '\n' && blankLine cs) || hasBlankLine n cs

/-- A group of keys: what is in it, where it stands, and where reading goes on. -/
structure Group where
  /-- The offset of the opening brace. -/
  brace : Nat
  content : List Char
  closed : Bool
  next : Cursor
deriving DecidableEq, Repr

namespace Group

/-- The offset of the first character inside. -/
def inside (g : Group) : Nat := g.brace + 1

/-- The group that ends after `content`, which a closing brace follows. -/
def closedBy (brace : Nat) (content rest : List Char) : Group :=
  ⟨brace, content, true, ⟨brace + 1 + utf8Length content + 1, rest⟩⟩

/-- The group that is given up after `content`. -/
def abandoned (brace : Nat) (content rest : List Char) : Group :=
  ⟨brace, content, false, ⟨brace + 1 + utf8Length content, rest⟩⟩

/-- The balanced group with this body, unless a blank line comes before its end. -/
def balanced? (brace : Nat) (body : List Char) : Option Group :=
  match untilClosing? 0 .plain body with
  | some (content, _ :: rest) =>
      if hasBlankLine content.length body then none else some (closedBy brace content rest)
  | _ => none

/-- The group whose opening brace is at `brace` and is followed by `body`. -/
def ofBody (brace : Nat) (body : List Char) : Group :=
  let (plain, rest) := Cursor.split endsPlain body
  match rest with
  | '}' :: rest => closedBy brace plain rest
  | '\n' :: _ | [] => abandoned brace plain rest
  | _ => (balanced? brace body).getD (abandoned brace plain rest)

theorem untilClosing?_append {depth : Nat} {mode : Mode} {cs read rest : List Char}
    (h : untilClosing? depth mode cs = some (read, rest)) : read ++ rest = cs := by
  induction cs generalizing depth mode read rest with
  | nil => simp [untilClosing?] at h
  | cons c cs ih =>
    have step : ∀ d m, ((untilClosing? d m cs).map fun p => (c :: p.1, p.2)) = some (read, rest) →
        read ++ rest = c :: cs := by
      intro d m he
      obtain ⟨⟨r, s⟩, hr, hs⟩ := Option.map_eq_some_iff.1 he
      simp only [Prod.mk.injEq] at hs
      obtain ⟨rfl, rfl⟩ := hs
      simp [ih hr]
    unfold untilClosing? at h
    repeat' split at h
    all_goals first
      | exact step _ _ h
      | (simp only [Option.some.injEq, Prod.mk.injEq] at h; obtain ⟨rfl, rfl⟩ := h; rfl)

/-- What follows the content of a closed group begins with its closing brace. -/
theorem untilClosing?_rest {depth : Nat} {mode : Mode} {cs read rest : List Char}
    (h : untilClosing? depth mode cs = some (read, rest)) : ∃ after, rest = '}' :: after := by
  induction cs generalizing depth mode read rest with
  | nil => simp [untilClosing?] at h
  | cons c cs ih =>
    have step : ∀ d m, ((untilClosing? d m cs).map fun p => (c :: p.1, p.2)) = some (read, rest) →
        ∃ after, rest = '}' :: after := by
      intro d m he
      obtain ⟨⟨r, s⟩, hr, hs⟩ := Option.map_eq_some_iff.1 he
      simp only [Prod.mk.injEq] at hs
      obtain ⟨rfl, rfl⟩ := hs
      exact ih hr
    unfold untilClosing? at h
    repeat' split at h
    all_goals first
      | exact step _ _ h
      | (rename_i hc _; simp only [Option.some.injEq, Prod.mk.injEq] at h
         obtain ⟨rfl, rfl⟩ := h; exact ⟨cs, by rw [hc.2]⟩)

theorem reaches_closedBy {brace : Nat} {body content rest : List Char}
    (h : content ++ '}' :: rest = body) :
    Cursor.Reaches ⟨brace + 1, body⟩ (closedBy brace content rest).next :=
  ⟨content ++ ['}'], by simp [closedBy, h], by simp [closedBy, Char.utf8Size]; omega⟩

theorem reaches_abandoned {brace : Nat} {body content rest : List Char}
    (h : content ++ rest = body) :
    Cursor.Reaches ⟨brace + 1, body⟩ (abandoned brace content rest).next :=
  ⟨content, by simp [abandoned, h], rfl⟩

theorem reaches_balanced? {brace : Nat} {body : List Char} {g : Group}
    (h : balanced? brace body = some g) : Cursor.Reaches ⟨brace + 1, body⟩ g.next := by
  unfold balanced? at h
  split at h
  · rename_i content c rest hc
    obtain ⟨after, ha⟩ := untilClosing?_rest hc
    cases ha
    split at h
    · simp at h
    · cases h
      exact reaches_closedBy (untilClosing?_append hc)
  · simp at h

theorem reaches_ofBody (brace : Nat) (body : List Char) :
    Cursor.Reaches ⟨brace + 1, body⟩ (ofBody brace body).next := by
  have hp := Cursor.split_append endsPlain body
  have ha : Cursor.Reaches ⟨brace + 1, body⟩
      (abandoned brace (Cursor.split endsPlain body).1 (Cursor.split endsPlain body).2).next :=
    reaches_abandoned hp
  simp only [ofBody]
  split
  · rename_i rest hr
    exact reaches_closedBy (hr ▸ hp)
  · exact ha
  · exact ha
  · cases hb : balanced? brace body with
    | none => exact ha
    | some g => exact reaches_balanced? hb

/-- The key group after any blanks and comments, if a brace is next. -/
def read? (k : Cursor) : Option Group :=
  let here := skipLayout k
  match here.rest with
  | '{' :: body => some (ofBody here.offset body)
  | _ => none

theorem reaches_read? {k : Cursor} {g : Group} (h : read? k = some g) : k.Reaches g.next := by
  simp only [read?] at h
  split at h
  · rename_i body hb
    cases h
    refine (reaches_skipLayout k).trans (Cursor.Reaches.trans ?_ (reaches_ofBody _ body))
    exact ⟨['{'], by simp [hb], by simp [Char.utf8Size]⟩
  · simp at h

end Group

/-! ## Keys -/

/-- The stretches between the commas of a text. -/
def betweenCommas : List Char → List (List Char)
  | [] => [[]]
  | c :: cs =>
      if c = ',' then [] :: betweenCommas cs
      else match betweenCommas cs with
        | [] => [[c]]
        | s :: ss => (c :: s) :: ss

/-- The names in stretches of text that begin at `offset` and have one byte between them. -/
def namesFrom : Nat → List (List Char) → List Symbol
  | _, [] => []
  | offset, s :: ss =>
      (Symbol.trimmed? offset s).toList ++ namesFrom (offset + utf8Length s + 1) ss

namespace Group

/-- The whole content as one name. -/
def name? (g : Group) : Option Symbol := Symbol.trimmed? g.inside g.content

/-- The names between the commas. -/
def names (g : Group) : List Symbol := namesFrom g.inside (betweenCommas g.content)

end Group

end Manuscript.Latex

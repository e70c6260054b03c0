/-
# Manuscript.Proofs.Bytewise.Group -- the arguments of a command, by offsets

Blanks and comments, optional arguments, braces and key groups of LaTeX, read by offsets
with every access checked.  At a place of the text each checked reading is `.ok` of what
the reader over the remaining characters finds (`significant_at`, `optionsEnd_at`,
`matchingBrace?_at`, `keyGroup?_at`, `trimmed_at`, `keys_at`).

The loops over braces and brackets count the open ones.  The count of braces goes down
with a checked subtraction: it starts at an opening brace, so it is at least one until
the loop ends, and the readers over characters count the groups *inside* the first.  A
backslash takes the next byte with it, whatever it is, so a loop is seen at a character
and one byte behind it: `Follows` says when such a loop does what a search over
characters does, and `Follows.scan` is the induction over the text.  A comment is passed
over in a loop of its own, so among braces there is a third place, a character of a
comment, as the modes of `untilClosing?` are three.
-/
import Manuscript.Proofs.Bytewise.Access
import Manuscript.Proofs.Latex.Group

namespace Manuscript.Bytewise

set_option autoImplicit false

open Text Latex

/-! ## Readings -/

section

variable (text : List Char)

/-- The line break that ends a comment, or the end of the text. -/
def commentEnd (i : Nat) : Checked Nat := seek text (· == some '\n') i

def significantTurn (_ : Unit) (i : Nat) (b : Byte) : Checked (Turn Unit Nat) :=
  if b.any isLayout then pure (.on () (i + 1))
  else if b = some '%' then .on () <$> commentEnd text i
  else pure (.done i)

/-- The first place that is neither blank nor in a comment. -/
def significant (i : Nat) : Checked Nat :=
  scanBytes text (fun _ i => i) (significantTurn text) () i

def bracketTurn (depth i : Nat) (b : Byte) : Checked (Turn Nat (Option Nat)) :=
  if b = some '\\' then pure (.on depth (i + 2))
  else if b = some '[' ∨ b = some '{' then pure (.on (depth + 1) (i + 1))
  else if b = some ']' ∨ b = some '}' then
    if depth - 1 = 0 then pure (.done (if b = some ']' then some (i + 1) else none))
    else pure (.on (depth - 1) (i + 1))
  else pure (.on depth (i + 1))

/-- The place behind the optional argument whose bracket is at an offset. -/
def optionEnd? (opening : Nat) : Checked (Option Nat) :=
  scanBytes text (fun _ _ => none) bracketTurn 0 opening

def optionTurn (_ : Unit) (i : Nat) : Checked (Turn Unit Nat) := do
  let opening ← significant text i
  if ascii? text opening = some '[' then
    match ← optionEnd? text opening with
    | some next => pure (.on () next)
    | none => pure (.done i)
  else pure (.done i)

/-- The place after any number of optional arguments. -/
def optionsEnd (i : Nat) : Checked Nat := loop text (optionTurn text) () i

def braceTurn (depth i : Nat) (b : Byte) : Checked (Turn Nat (Option Nat)) :=
  if b = some '\\' then pure (.on depth (i + 2))
  else if b = some '%' then .on depth <$> commentEnd text i
  else if b = some '{' then pure (.on (depth + 1) (i + 1))
  else if b = some '}' then do
    let depth ← minus depth 1
    if depth = 0 then pure (.done (some i)) else pure (.on depth (i + 1))
  else pure (.on depth (i + 1))

/-- The brace that closes the group whose brace is at an offset. -/
def matchingBrace? (opening : Nat) : Checked (Option Nat) :=
  scanBytes text (fun _ _ => none) (braceTurn text) 0 opening

/-- Whether a blank line follows the line break at an offset. -/
def blankAfter (newline : Nat) : Checked Bool := do
  pure (blankLine (← sliceFrom text (newline + 1)))

/-- The offsets of the line breaks of a text that begins at an offset. -/
def newlines : Nat → List Char → List Nat
  | _, [] => []
  | i, c :: cs =>
      if c = '\n' then i :: newlines (i + c.utf8Size) cs else newlines (i + c.utf8Size) cs

/-- Whether a blank line follows a line break between two offsets. -/
def blankWithin (start stop : Nat) : Checked Bool := do
  (newlines start (← slice text start stop)).anyM (blankAfter text)

/-- A key group by its offsets. -/
structure KeyGroup where
  brace : Nat
  /-- The end of the content. -/
  stop : Nat
  closed : Bool
  next : Nat
deriving DecidableEq, Repr

/-- The content of a group. -/
def KeyGroup.content (g : KeyGroup) : Span := ⟨g.brace + 1, g.stop⟩

def KeyGroup.closedAt (brace stop : Nat) : KeyGroup := ⟨brace, stop, true, stop + 1⟩

def KeyGroup.brokenAt (brace stop : Nat) : KeyGroup := ⟨brace, stop, false, stop⟩

def keyTurn (opening : Nat) (_ : Unit) (i : Nat) (b : Byte) : Checked (Turn Unit KeyGroup) :=
  if b = some '}' then pure (.done (.closedAt opening i))
  else if b = some '{' ∨ b = some '\\' then do
    match ← matchingBrace? text opening with
    | some closing =>
        if ← blankWithin text opening closing then pure (.done (.brokenAt opening i))
        else pure (.done (.closedAt opening closing))
    | none => pure (.done (.brokenAt opening i))
  else if b = some '\n' then do
    if ← blankAfter text i then pure (.done (.brokenAt opening i)) else pure (.on () (i + 1))
  else pure (.on () (i + 1))

/-- The key group after any blanks and comments. -/
def keyGroup? (i : Nat) : Checked (Option KeyGroup) := do
  let opening ← significant text i
  if ascii? text opening = some '{' then
    some <$> scanBytes text (fun _ i => .brokenAt opening i) (keyTurn text opening) () (opening + 1)
  else pure none

/-- The content of a span between its outer blanks. -/
def trimmed (span : Span) : Checked (Option Symbol) := do
  let raw ← slice text span.start span.stop
  match trim raw with
  | [] => pure none
  | word => do
      let blanks ← minus (utf8Length raw) (utf8Length (trimStart raw))
      let start := span.start + blanks
      pure (some ⟨String.ofList word, ⟨start, start + utf8Length word⟩⟩)

/-- The names of parts that are written one byte apart. -/
def keysFrom : Nat → List (List Char) → Checked (List Symbol)
  | _, [] => pure []
  | i, part :: parts => do
      let key ← trimmed text ⟨i, i + utf8Length part⟩
      let keys ← keysFrom (i + utf8Length part + 1) parts
      pure (key.toList ++ keys)

/-- The names between the commas of a span. -/
def keys (span : Span) : Checked (List Symbol) := do
  keysFrom text span.start (betweenCommas (← slice text span.start span.stop))

end

/-! ## Blanks and comments -/

section

variable {text cs : List Char} {c : Char} {i : Nat}

theorem commentEnd_at {k : Cursor} (h : At text k) :
    commentEnd text k.offset = .ok (k.upTo (startsWith (· == '\n'))).2.offset := by
  rw [commentEnd, seek_at _ h]
  have hclass : (fun c : Char => Byte.ofChar c == some '\n') = (· == '\n') := by
    funext c
    rw [Bool.eq_iff_iff]
    simp
  rw [hclass]

theorem commentEnd_newline (h : At text ⟨i, '\n' :: cs⟩) : commentEnd text i = .ok i :=
  seek_stop h (by decide)

theorem commentEnd_pass (h : At text ⟨i, c :: cs⟩) (hc : c ≠ '\n') :
    commentEnd text i = commentEnd text (i + c.utf8Size) :=
  seek_pass h (by simpa using hc)

theorem commentEnd_end (h : At text ⟨i, []⟩) : commentEnd text i = .ok i := scanBytes_nil h

/-- Blanks and comments are passed over from a place, and from a place of a comment. -/
theorem significant_scan (h : At text ⟨i, cs⟩) :
    significant text i = .ok (i + utf8Length (afterLayout false cs).1) ∧
      (commentEnd text i >>= significant text) =
        .ok (i + utf8Length (afterLayout true cs).1) := by
  induction cs generalizing i with
  | nil =>
      have hend : significant text i = .ok i := scanBytes_nil h
      exact ⟨hend, by rw [commentEnd_end h, ok_bind, hend]; rfl⟩
  | cons c cs ih =>
      obtain ⟨ihplain, ihcomment⟩ := ih h.next
      have hblank (hc : isLayout c = true) : significant text i =
          .ok (i + utf8Length (c :: (afterLayout false cs).1)) := by
        have hbyte := any_ofChar ascii_of_isLayout c
        rw [utf8Length_cons, ← Nat.add_assoc, ← ihplain]
        refine scanBytes_next h ?_ fun hnone => ?_
        · rw [significantTurn, hbyte, if_pos hc]
          rfl
        · rw [hnone, hc] at hbyte
          cases hbyte
      constructor
      · by_cases hc : isLayout c = true
        · rw [hblank hc]
          simp [afterLayout, hc]
        by_cases hpercent : c = '%'
        · subst hpercent
          rw [significant, scanBytes_seek h rfl (by decide)]
          refine ihcomment.trans ?_
          simp [afterLayout, isLayout, Nat.add_assoc]
        · have hturn : significantTurn text () i (Byte.ofChar c) = .ok (.done i) := by
            rw [significantTurn, any_ofChar ascii_of_isLayout, if_neg hc,
              if_neg (by simpa using hpercent)]
            rfl
          rw [significant, scanBytes_done h hturn]
          simp [afterLayout, hc, hpercent]
      · by_cases hc : c = '\n'
        · subst hc
          rw [commentEnd_newline h, ok_bind, hblank (by decide)]
          simp [afterLayout]
        · have hne : (c != '\n') = true := by simpa using hc
          rw [commentEnd_pass h hc, ihcomment]
          simp [afterLayout, hne, Nat.add_assoc]

theorem significant_at {k : Cursor} (h : At text k) :
    significant text k.offset = .ok (skipLayout k).offset := (significant_scan h).1

theorem at_skipLayout {k : Cursor} (h : At text k) : At text (skipLayout k) :=
  h.trans (reaches_skipLayout k)

/-! ## Brackets and braces -/

/-- The offset behind what was read. -/
def behind (i : Nat) (found : Option (List Char × List Char)) : Option Nat :=
  found.map fun parts => i + utf8Length parts.1

theorem behind_cons (i : Nat) (c : Char) (found : Option (List Char × List Char)) :
    behind i (found.map fun parts => (c :: parts.1, parts.2)) =
      behind (i + c.utf8Size) found := by
  cases found with
  | none => rfl
  | some parts => simp [behind, Nat.add_assoc]

/-- What a loop over bytes does at a character, in the state for `t`, and what a search over
characters does. -/
inductive Together {σ τ : Type} (turn : σ → Nat → Byte → Checked (Turn σ (Option Nat)))
    (state : τ → σ) (search : τ → Bool → List Char → Option (List Char × List Char))
    (t : τ) (i : Nat) (c : Char) : Prop where
  /-- The character takes the next one with it. -/
  | escape (size : c.utf8Size = 1)
      (on : turn (state t) i (Byte.ofChar c) = .ok (.on (state t) (i + 2)))
      (go : ∀ cs, search t false (c :: cs) =
        (search t true cs).map fun parts => (c :: parts.1, parts.2))
  | next (t' : τ) (on : turn (state t) i (Byte.ofChar c) = .ok (.on (state t') (i + 1)))
      (go : ∀ cs, search t false (c :: cs) =
        (search t' false cs).map fun parts => (c :: parts.1, parts.2))
  | stop (done : ∀ cs, turn (state t) i (Byte.ofChar c) =
      .ok (.done (behind i (search t false (c :: cs)))))

/-- A loop over bytes that goes two bytes on at a backslash, and a search over characters that
passes over the character behind one. -/
structure Follows {σ τ : Type} (turn : σ → Nat → Byte → Checked (Turn σ (Option Nat)))
    (state : τ → σ) (search : τ → Bool → List Char → Option (List Char × List Char)) : Prop where
  pass : ∀ s i, turn s i none = .ok (.on s (i + 1))
  nil : ∀ t escaped, search t escaped [] = none
  escaped : ∀ t c cs, search t true (c :: cs) =
    (search t false cs).map fun parts => (c :: parts.1, parts.2)
  plain : ∀ t i c, Together turn state search t i c

/-- **The loop ends where the search does**, from a character and from one byte behind it. -/
theorem Follows.scan {σ τ : Type} {turn : σ → Nat → Byte → Checked (Turn σ (Option Nat))}
    {state : τ → σ} {search : τ → Bool → List Char → Option (List Char × List Char)}
    (follows : Follows turn state search) (h : At text ⟨i, cs⟩) (t : τ) :
    scanBytes text (fun _ _ => none) turn (state t) i = .ok (behind i (search t false cs)) ∧
      scanBytes text (fun _ _ => none) turn (state t) (i + 1) =
        .ok (behind i (search t true cs)) := by
  induction cs generalizing i t with
  | nil =>
      have hlength := h.length_eq
      rw [utf8Length_nil, Nat.add_zero] at hlength
      rw [follows.nil, follows.nil]
      exact ⟨scanBytes_end (by omega), scanBytes_end (by omega)⟩
  | cons c cs ih =>
      constructor
      · cases follows.plain t i c with
        | escape size on go =>
            have hescaped := (ih h.next t).2
            rw [size] at hescaped
            rw [scanBytes_on h on (by omega), go, behind_cons, size]
            exact hescaped
        | next t' on go =>
            rw [scanBytes_next h on fun _ => follows.pass (state t'), (ih h.next t').1, go,
              behind_cons]
        | stop done => exact scanBytes_done h (done cs)
      · rw [scanBytes_inside h (follows.pass _) Nat.one_pos c.utf8Size_pos, (ih h.next t).1,
          follows.escaped, behind_cons]

/-- The brackets and braces of an optional argument. -/
theorem follows_bracket : Follows bracketTurn (· + 1) untilBracket? where
  pass _ _ := rfl
  nil _ _ := rfl
  escaped depth c cs := by simp [untilBracket?]
  plain depth i c := by
    by_cases hslash : c = '\\'
    · subst hslash
      exact .escape rfl rfl fun cs => by simp [untilBracket?]
    by_cases hopen : c = '[' ∨ c = '{'
    · exact .next (depth + 1) (by simp [bracketTurn, hslash, hopen])
        fun cs => by simp [untilBracket?, hslash, hopen]
    by_cases hclose : c = ']' ∨ c = '}'
    · cases depth with
      | zero => rcases hclose with rfl | rfl <;> exact .stop fun cs => rfl
      | succ depth =>
          exact .next depth (by simp [bracketTurn, hslash, hopen, hclose])
            fun cs => by simp [untilBracket?, hslash, hopen, hclose]
    · exact .next depth (by simp [bracketTurn, hslash, hopen, hclose])
        fun cs => by simp [untilBracket?, hslash, hopen, hclose]

theorem optionTurn_at {k : Cursor} (h : At text k) :
    optionTurn text () k.offset = .ok (match option? k with
      | some next => .on () next.offset
      | none => .done k.offset) := by
  have hhere := at_skipLayout h
  rw [optionTurn, significant_at h, ok_bind, option?]
  generalize skipLayout k = here at hhere
  obtain ⟨i, rest⟩ := here
  cases rest with
  | nil => simp [ascii?_end hhere]
  | cons c cs =>
      rw [ascii?_at hhere]
      by_cases hc : c = '['
      · subst hc
        have hturn : bracketTurn 0 i (Byte.ofChar '[') = .ok (.on 1 (i + 1)) := rfl
        rw [if_pos (by decide), optionEnd?,
          scanBytes_next hhere hturn fun _ _ => rfl, (follows_bracket.scan hhere.next 0).1]
        cases hfound : untilBracket? 0 false cs <;>
          simp [hfound, behind, Cursor.after, Nat.add_assoc]
      · simp [hc]

theorem optionsEnd_at {k : Cursor} (h : At text k) :
    optionsEnd text k.offset = .ok (skipOptions k).offset := by
  induction k using skipOptions.induct with
  | case1 k next hk ih =>
      have hnext := reaches_option? hk
      have hturn := optionTurn_at h
      rw [hk] at hturn
      have hlt := h.lt_of_reaches hnext.1 hnext.2
      rw [skipOptions_of_some hk, ← ih (h.trans hnext.1)]
      exact loop_on hturn hlt.1 hlt.2
  | case2 k hk =>
      have hturn := optionTurn_at h
      rw [hk] at hturn
      rw [skipOptions_of_none hk]
      exact loop_done hturn

/-- In braces, at a character, one byte behind it, and in a comment. -/
theorem brace_scan (h : At text ⟨i, cs⟩) (depth : Nat) :
    scanBytes text (fun _ _ => none) (braceTurn text) (depth + 1) i =
        .ok (behind i (untilClosing? depth .plain cs)) ∧
      scanBytes text (fun _ _ => none) (braceTurn text) (depth + 1) (i + 1) =
        .ok (behind i (untilClosing? depth .escaped cs)) ∧
      (commentEnd text i >>= scanBytes text (fun _ _ => none) (braceTurn text) (depth + 1)) =
        .ok (behind i (untilClosing? depth .comment cs)) := by
  induction cs generalizing i depth with
  | nil =>
      have hlength := h.length_eq
      rw [utf8Length_nil, Nat.add_zero] at hlength
      refine ⟨scanBytes_end (by omega), scanBytes_end (by omega), ?_⟩
      rw [commentEnd_end h]
      exact scanBytes_end (by omega)
  | cons c cs ih =>
      have ih := ih h.next
      have hpass (depth i : Nat) : braceTurn text depth i none = .ok (.on depth (i + 1)) := rfl
      have hgo {d : Nat}
          (ht : braceTurn text (depth + 1) i (Byte.ofChar c) = .ok (.on (d + 1) (i + 1))) :
          scanBytes text (fun _ _ => none) (braceTurn text) (depth + 1) i =
            .ok (behind (i + c.utf8Size) (untilClosing? d .plain cs)) :=
        (scanBytes_next h ht fun _ => hpass (d + 1)).trans (ih d).1
      have hplain (hslash : c ≠ '\\') (hpercent : c ≠ '%') :
          scanBytes text (fun _ _ => none) (braceTurn text) (depth + 1) i =
            .ok (behind i (untilClosing? depth .plain (c :: cs))) := by
        have hnext : Mode.plain.next c = .plain := by simp [Mode.next]
        by_cases hopen : c = '{'
        · subst hopen
          rw [hgo (d := depth + 1) (by simp [braceTurn])]
          simp [untilClosing?, hnext, behind_cons]
        by_cases hclose : c = '}'
        · subst hclose
          cases depth with
          | zero => exact scanBytes_done h rfl
          | succ depth =>
              rw [hgo (d := depth) (by simp [braceTurn])]
              simp [untilClosing?, hnext, behind_cons]
        · rw [hgo (d := depth) (by simp [braceTurn, hslash, hpercent, hopen, hclose])]
          simp [untilClosing?, hnext, hopen, hclose, behind_cons]
      refine ⟨?_, ?_, ?_⟩
      · by_cases hslash : c = '\\'
        · subst hslash
          have hturn : braceTurn text (depth + 1) i (Byte.ofChar '\\') =
              .ok (.on (depth + 1) (i + 2)) := rfl
          rw [scanBytes_on h hturn (by omega)]
          refine ((ih depth).2.1).trans ?_
          simp [untilClosing?, Mode.next, behind_cons]
        by_cases hpercent : c = '%'
        · subst hpercent
          rw [scanBytes_seek h rfl (by decide)]
          refine ((ih depth).2.2).trans ?_
          simp [untilClosing?, Mode.next, behind_cons]
        · exact hplain hslash hpercent
      · rw [scanBytes_inside h (hpass _) Nat.one_pos c.utf8Size_pos, (ih depth).1]
        simp [untilClosing?, Mode.next, behind_cons]
      · by_cases hc : c = '\n'
        · subst hc
          rw [commentEnd_newline h, ok_bind, hplain (by decide) (by decide)]
          simp [untilClosing?, Mode.next]
        · rw [commentEnd_pass h hc, (ih depth).2.2]
          simp [untilClosing?, Mode.next, behind_cons]

theorem matchingBrace?_at (h : At text ⟨i, '{' :: cs⟩) :
    matchingBrace? text i = .ok (behind (i + 1) (untilClosing? 0 .plain cs)) := by
  have hturn : braceTurn text 0 i (Byte.ofChar '{') = .ok (.on 1 (i + 1)) := rfl
  rw [matchingBrace?, scanBytes_on h hturn (by omega)]
  exact (brace_scan h.next 0).1

/-! ## Key groups -/

theorem blankAfter_at (h : At text ⟨i, '\n' :: cs⟩) : blankAfter text i = .ok (blankLine cs) := by
  have hnext : At text ⟨i + 1, cs⟩ := h.next
  rw [blankAfter, sliceFrom_at hnext]
  rfl

theorem blankWithin_scan {read rest : List Char} (h : At text ⟨i, read ++ rest⟩) :
    (newlines i read).anyM (blankAfter text) =
      .ok (hasBlankLine read.length (read ++ rest)) := by
  induction read generalizing i with
  | nil => rfl
  | cons c read ih =>
      rw [newlines]
      by_cases hc : c = '\n'
      · subst hc
        rw [if_pos rfl, List.anyM, blankAfter_at h, ok_bind, ih h.next]
        cases hblank : blankLine (read ++ rest) <;> simp [hasBlankLine, hblank]
      · rw [if_neg hc, ih h.next]
        simp [hasBlankLine, hc]

theorem blankWithin_at {read rest : List Char} (h : At text ⟨i, read ++ rest⟩) :
    blankWithin text i (i + utf8Length read) = .ok (hasBlankLine read.length (read ++ rest)) := by
  rw [blankWithin, slice_at h]
  exact blankWithin_scan h

def KeyGroup.ofGroup (g : Group) : KeyGroup :=
  ⟨g.brace, g.brace + 1 + utf8Length g.content, g.closed, g.next.offset⟩

@[simp] theorem ofGroup_closedBy (brace : Nat) (content rest : List Char) :
    KeyGroup.ofGroup (.closedBy brace content rest) =
      .closedAt brace (brace + 1 + utf8Length content) := rfl

@[simp] theorem ofGroup_abandoned (brace : Nat) (content rest : List Char) :
    KeyGroup.ofGroup (.abandoned brace content rest) =
      .brokenAt brace (brace + 1 + utf8Length content) := rfl

/-- The group with this body whose plain part is followed by `rest`. -/
def groupEnd (opening : Nat) (body plain rest : List Char) : Group :=
  match rest with
  | '}' :: rest => .closedBy opening plain rest
  | '\n' :: _ | [] => .abandoned opening plain rest
  | _ => (Group.balanced? opening body).getD (.abandoned opening plain rest)

/-- Where a nested group or a command stands, the end of the group is the matching brace. -/
theorem keyTurn_nested {opening : Nat} {body before : List Char} (rest : List Char)
    (hopening : At text ⟨opening, '{' :: body⟩) (hc : c = '{' ∨ c = '\\')
    (hi : i = opening + 1 + utf8Length before) :
    keyTurn text opening () i (Byte.ofChar c) =
      .ok (.done (.ofGroup ((Group.balanced? opening body).getD
        (.abandoned opening before rest)))) := by
  have hclose : c ≠ '}' := by rcases hc with rfl | rfl <;> decide
  have hturn : keyTurn text opening () i (Byte.ofChar c) =
      matchingBrace? text opening >>= fun found =>
        match found with
        | some closing => do
            if ← blankWithin text opening closing then pure (.done (.brokenAt opening i))
            else pure (.done (.closedAt opening closing))
        | none => pure (.done (.brokenAt opening i)) := by
    rw [keyTurn, if_neg (by simpa using hclose), if_pos (by simpa using hc)]
  rw [hturn, matchingBrace?_at hopening, ok_bind]
  cases hfound : untilClosing? 0 .plain body with
  | none => simp [behind, Group.balanced?, hfound, hi]
  | some parts =>
      obtain ⟨content, after⟩ := parts
      obtain ⟨after, rfl⟩ := Group.untilClosing?_rest hfound
      have hbody := Group.untilClosing?_append hfound
      have hwithin := @blankWithin_at text opening ('{' :: content) ('}' :: after)
        (by rwa [List.cons_append, hbody])
      rw [List.cons_append, hbody, utf8Length_cons, ← Nat.add_assoc] at hwithin
      have hstop : behind (opening + 1) (some (content, '}' :: after)) =
        some (opening + '{'.utf8Size + utf8Length content) := rfl
      rw [hstop]
      simp only [hwithin, ok_bind]
      cases hblank : hasBlankLine content.length body <;>
        simp [hasBlankLine, hblank, Group.balanced?, hfound, hi, Char.utf8Size]

theorem keyGroup_scan {opening : Nat} {body before : List Char}
    (hopening : At text ⟨opening, '{' :: body⟩) (h : At text ⟨i, cs⟩)
    (hi : i = opening + 1 + utf8Length before) :
    scanBytes text (fun _ i => .brokenAt opening i) (keyTurn text opening) () i =
      .ok (.ofGroup (groupEnd opening body (before ++ (Cursor.split endsPlain cs).1)
        (Cursor.split endsPlain cs).2)) := by
  induction cs generalizing i before with
  | nil =>
      rw [scanBytes_nil h]
      simp [Cursor.split, groupEnd, hi]
  | cons c cs ih =>
      have hgo (hturn : keyTurn text opening () i (Byte.ofChar c) = .ok (.on () (i + 1)))
          (hplain : endsPlain (c :: cs) = false) :
          scanBytes text (fun _ i => .brokenAt opening i) (keyTurn text opening) () i =
            .ok (.ofGroup (groupEnd opening body (before ++ (Cursor.split endsPlain (c :: cs)).1)
              (Cursor.split endsPlain (c :: cs)).2)) := by
        rw [scanBytes_next h hturn fun _ _ => rfl,
          @ih (i + c.utf8Size) (before ++ [c]) h.next (by simp [hi, Nat.add_assoc])]
        simp [Cursor.split, hplain]
      by_cases hclose : c = '}'
      · subst hclose
        rw [scanBytes_done h rfl]
        simp [Cursor.split, endsPlain, groupEnd, hi]
      by_cases hnested : c = '{' ∨ c = '\\'
      · rw [scanBytes_done h (keyTurn_nested (c :: cs) hopening hnested hi)]
        rcases hnested with rfl | rfl <;> simp [Cursor.split, endsPlain, groupEnd]
      by_cases hnewline : c = '\n'
      · subst hnewline
        have hturn : keyTurn text opening () i (Byte.ofChar '\n') = blankAfter text i >>=
          fun blank =>
            if blank then pure (.done (.brokenAt opening i)) else pure (.on () (i + 1)) :=
          rfl
        rw [blankAfter_at h, ok_bind] at hturn
        cases hblank : blankLine cs
        · exact hgo (by rw [hturn, hblank]; rfl) (by simp [endsPlain, hblank])
        · rw [scanBytes_done h (by rw [hturn, hblank]; rfl)]
          simp [Cursor.split, endsPlain, hblank, groupEnd, hi]
      · have hplain := hnested
        rw [not_or] at hplain
        exact hgo (by simp [keyTurn, hclose, hnested, hnewline])
          (by simp [endsPlain, hclose, hplain, hnewline])

/-- **The key group read by offsets is the one read from the remaining characters.** -/
theorem keyGroup?_at {k : Cursor} (h : At text k) :
    keyGroup? text k.offset = .ok ((Group.read? k).map .ofGroup) := by
  have hhere := at_skipLayout h
  rw [keyGroup?, significant_at h, ok_bind, Group.read?]
  generalize skipLayout k = here at hhere
  obtain ⟨i, rest⟩ := here
  cases rest with
  | nil => simp [ascii?_end hhere]
  | cons c cs =>
      rw [ascii?_at hhere]
      by_cases hc : c = '{'
      · subst hc
        rw [if_pos (by decide), @keyGroup_scan text cs (i + 1) i cs [] hhere hhere.next rfl]
        rfl
      · simp [hc]

/-- The content of a group is in the text. -/
theorem at_content {k : Cursor} {g : Group} (h : At text k) (hg : Group.read? k = some g) :
    ∃ rest, At text ⟨g.inside, g.content ++ rest⟩ := by
  have hhere := at_skipLayout h
  simp only [Group.read?] at hg
  generalize skipLayout k = here at hhere hg
  obtain ⟨i, rest⟩ := here
  split at hg
  · rename_i body hrest
    cases hg
    cases hrest
    obtain ⟨hbrace, hbody, -⟩ := Group.takes_ofBody i body
    have hnext : At text ⟨i + 1, body⟩ := hhere.next
    exact ⟨_, by rwa [Group.inside, hbrace, ← hbody]⟩
  · cases hg

/-! ## Names -/

theorem trimmed_at {content rest : List Char} (h : At text ⟨i, content ++ rest⟩) :
    trimmed text ⟨i, i + utf8Length content⟩ = .ok (Symbol.trimmed? i content) := by
  have hraw : utf8Length (content.takeWhile isBlank) + utf8Length (trimStart content) =
      utf8Length content := by
    rw [← utf8Length_append, trimStart, List.takeWhile_append_dropWhile]
  have hblanks : minus (utf8Length content) (utf8Length (trimStart content)) =
      .ok (utf8Length (content.takeWhile isBlank)) := by
    rw [minus_eq_ok (by omega), ← hraw, Nat.add_sub_cancel]
  rw [trimmed, slice_at h, ok_bind, Symbol.trimmed?]
  cases htrim : trim content with
  | nil => rfl
  | cons c word =>
      rw [hblanks]
      rfl

theorem keysFrom_at {content rest : List Char} (h : At text ⟨i, content ++ rest⟩) :
    keysFrom text i (betweenCommas content) = .ok (namesFrom i (betweenCommas content)) := by
  induction content using betweenCommas_induction generalizing i with
  | last part hpart =>
      rw [betweenCommas_last hpart, keysFrom, trimmed_at h]
      rfl
  | more part cs hpart ih =>
      rw [List.append_assoc, List.cons_append] at h
      have hcs : At text ⟨i + utf8Length part + 1, cs ++ rest⟩ := h.skip.next
      rw [betweenCommas_append hpart, keysFrom, trimmed_at h, ok_bind, ih hcs]
      rfl

theorem keys_at {content rest : List Char} (h : At text ⟨i, content ++ rest⟩) :
    keys text ⟨i, i + utf8Length content⟩ = .ok (namesFrom i (betweenCommas content)) := by
  rw [keys, slice_at h]
  exact keysFrom_at h

end

end Manuscript.Bytewise

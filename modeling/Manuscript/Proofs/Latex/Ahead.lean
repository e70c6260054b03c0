/-
# Manuscript.Proofs.Latex.Ahead -- what the beginning of a text decides for the scan

Blanks, optional arguments and key groups are looked for ahead of the scan.  For a text
that begins with `w` each of these searches ends in `w`, or fails, or goes on behind `w`
in a state that `w` leaves (`ahead_afterLayout`, `ahead_untilBracket?`,
`ahead_untilClosing?`, `ahead_endsPlain`).  A plain key group looks at the rest of a line
to see whether it is blank, so there something that is not blank has to follow.

A key group uses two of these searches, one after the other (`ahead_ofBody`).
-/
import Manuscript.Proofs.Latex.Reading
import Manuscript.Proofs.Latex.Lookahead
import Manuscript.Proofs.Text.Ahead

namespace Manuscript.Latex

set_option autoImplicit false

open Text

/-- Whatever follows. -/
abbrev Anything (_ : List Char) : Prop := True

/-- Something that is not blank follows. -/
def Solidly (t : List Char) : Prop := ∃ c cs, t = c :: cs ∧ isBlank c = false

/-! ## Blanks and comments -/

/-- The mode of blanks or of a comment. -/
def Mode.ofComment (comment : Bool) : Mode := if comment then .comment else .plain

theorem Mode.next_plain {c : Char} (hslash : c ≠ '\\') (hpercent : c ≠ '%') :
    Mode.next .plain c = .plain := Mode.next.eq_3 c hslash hpercent

theorem Mode.next_comment (c : Char) : Mode.next .comment c = ofComment (c != '\n') := by
  by_cases hline : c = '\n'
  · subst hline
    rfl
  · rw [Mode.next.eq_6 c hline, ofComment, if_pos (bne_iff_ne.2 hline)]

theorem ne_of_isLayout {c d : Char} (h : isLayout c = true) (hd : isLayout d = false) : c ≠ d := by
  rintro rfl
  rw [h] at hd
  cases hd

/-- Blanks and comments end in front of something, and a token ends there. -/
def LayoutEnds (comment : Bool) (read rest : List Char) : Prop :=
  rest ≠ [] ∧ ∀ escaped, (comment = true ∨ escaped = false) → escapes escaped read = false

/-- Blanks and comments go on behind `w`. -/
def LayoutGoes (comment : Bool) (w : List Char) (g : Search) : Prop :=
  ∃ comment', (g = fun cs => some (afterLayout comment' cs)) ∧
    w.foldl Mode.next (.ofComment comment) = .ofComment comment'

theorem ahead_afterLayout (comment : Bool) (w : List Char) :
    Ahead Anything (fun cs => some (afterLayout comment cs)) w (LayoutEnds comment)
      (LayoutGoes comment w) := by
  induction w generalizing comment with
  | nil => exact .nil ⟨comment, rfl, rfl⟩
  | cons c w ih =>
      -- the character is passed, and blanks or a comment go on behind it
      have skip (next : Bool)
          (h : ∀ cs, afterLayout comment (c :: cs) =
            (c :: (afterLayout next cs).1, (afterLayout next cs).2))
          (hmode : Mode.next (.ofComment comment) c = .ofComment next)
          (hescapes : ∀ escaped, (comment = true ∨ escaped = false) →
            next = true ∨ (!escaped && decide (c = '\\')) = false) :
          Ahead Anything (fun cs => some (afterLayout comment cs)) (c :: w) (LayoutEnds comment)
            (LayoutGoes comment (c :: w)) := by
        refine ((ih next).imp (fun _ _ _ h => h) ?_).cons (fun t _ => by rw [h]; rfl) ?_
        · rintro _ ⟨comment', rfl, hw⟩
          exact ⟨comment', rfl, by rw [List.foldl_cons, hmode, hw]⟩
        · exact fun read rest hread => ⟨hread.1, fun escaped he =>
            hread.2 _ (hescapes escaped he)⟩
      cases comment with
      | true =>
          refine skip (c != '\n') (fun cs => by simp [afterLayout]) (Mode.next_comment c) ?_
          intro escaped _
          by_cases hline : c = '\n'
          · exact .inr (by simp [hline])
          · exact .inl (bne_iff_ne.2 hline)
      | false =>
          have hfalse : ∀ escaped, (false = true ∨ escaped = false) → escaped = false :=
            fun escaped h => h.resolve_left Bool.false_ne_true
          by_cases hlayout : isLayout c = true
          · have hslash := ne_of_isLayout hlayout (show isLayout '\\' = false by decide)
            have hpercent := ne_of_isLayout hlayout (show isLayout '%' = false by decide)
            exact skip false (fun cs => by simp [afterLayout, hlayout])
              (Mode.next_plain hslash hpercent) fun _ _ => .inr (by simp [hslash])
          by_cases hpercent : c = '%'
          · subst hpercent
            exact skip true (fun cs => by simp [afterLayout, show isLayout '%' = false by decide])
              rfl fun _ _ => .inl rfl
          · exact .here ⟨List.cons_ne_nil c w, hfalse⟩ fun t _ => by
              simp [afterLayout, hlayout, hpercent]

/-! ## Optional arguments -/

/-- An optional argument ends with its bracket in `w`, or has no end, or is open behind `w`. -/
theorem ahead_untilBracket? (depth : Nat) (escaped : Bool) (w : List Char) :
    Ahead Anything (untilBracket? depth escaped) w
      (fun read _ => read.getLast? = some ']')
      (fun g => ∃ depth', g = untilBracket? depth' (escapes escaped w)) := by
  induction w generalizing depth escaped with
  | nil => exact .nil ⟨depth, rfl⟩
  | cons c w ih =>
      have skip (next : Nat) (escaped' : Bool)
          (h : ∀ cs, untilBracket? depth escaped (c :: cs) =
            (untilBracket? next escaped' cs).map fun cut => (c :: cut.1, cut.2))
          (hescapes : escaped' = (!escaped && decide (c = '\\'))) :
          Ahead Anything (untilBracket? depth escaped) (c :: w)
            (fun read _ => read.getLast? = some ']')
            (fun g => ∃ depth', g = untilBracket? depth' (escapes escaped (c :: w))) := by
        refine ((ih next escaped').imp (fun _ _ _ h => h) ?_).cons (fun t _ => h _) ?_
        · rintro _ ⟨depth', rfl⟩
          exact ⟨depth', by rw [escapes_cons, hescapes]⟩
        · intro read rest hread
          rw [List.getLast?_cons, hread]
          rfl
      cases escaped with
      | true => exact skip depth false (fun cs => by simp [untilBracket?]) rfl
      | false =>
          by_cases hslash : c = '\\'
          · exact skip depth true (fun cs => by simp [untilBracket?, hslash]) (by simp [hslash])
          have hnext : false = (!false && decide (c = '\\')) := by simp [hslash]
          by_cases hdeeper : c = '[' ∨ c = '{'
          · exact skip (depth + 1) false
              (fun cs => by simp [untilBracket?, hslash, hdeeper]) hnext
          by_cases hcloser : c = ']' ∨ c = '}'
          · cases depth with
            | succ depth =>
                exact skip depth false
                  (fun cs => by simp [untilBracket?, hslash, hdeeper, hcloser]) hnext
            | zero =>
                by_cases hbracket : c = ']'
                · subst hbracket
                  exact @Ahead.found _ _ _ _ _ [']'] w rfl rfl fun t _ => by simp [untilBracket?]
                · obtain rfl := hcloser.resolve_left hbracket
                  exact .failed fun t _ => by simp [untilBracket?]
          · exact skip depth false
              (fun cs => by simp [untilBracket?, hslash, hdeeper, hcloser]) hnext

/-! ## Balanced groups -/

/-- A group ends in front of its brace in `w`, or it is open behind `w`. -/
theorem ahead_untilClosing? (depth : Nat) (mode : Mode) (w : List Char) :
    Ahead Anything (untilClosing? depth mode) w (fun _ rest => ∃ after, rest = '}' :: after)
      (fun g => ∃ depth', g = untilClosing? depth' (w.foldl Mode.next mode)) := by
  induction w generalizing depth mode with
  | nil => exact .nil ⟨depth, rfl⟩
  | cons c w ih =>
      have skip (next : Nat)
          (h : ∀ cs, untilClosing? depth mode (c :: cs) =
            (untilClosing? next (mode.next c) cs).map fun cut => (c :: cut.1, cut.2)) :
          Ahead Anything (untilClosing? depth mode) (c :: w)
            (fun _ rest => ∃ after, rest = '}' :: after)
            (fun g => ∃ depth', g = untilClosing? depth' ((c :: w).foldl Mode.next mode)) :=
        (ih next (mode.next c)).cons (fun t _ => h _) fun _ _ h => h
      by_cases hdeeper : mode = .plain ∧ c = '{'
      · exact skip (depth + 1) fun cs => by simp [untilClosing?, hdeeper]
      by_cases hcloser : mode = .plain ∧ c = '}'
      · obtain ⟨rfl, rfl⟩ := hcloser
        cases depth with
        | zero => exact .here ⟨w, rfl⟩ fun t _ => rfl
        | succ depth => exact skip depth fun cs => rfl
      · exact skip depth fun cs => by simp [untilClosing?, hdeeper, hcloser]

/-! ## Key groups -/

/-- Whether a line is blank up to something that is not. -/
theorem blankLine_ahead (w : List Char) : ∃ b, ∀ t, Solidly t → blankLine (w ++ t) = b := by
  induction w with
  | nil =>
      refine ⟨false, ?_⟩
      rintro _ ⟨c, cs, rfl, hc⟩
      have hline : c ≠ '\n' := by
        rintro rfl
        revert hc
        decide
      simp [blankLine_cons, hc, hline]
  | cons c w ih =>
      obtain ⟨b, hb⟩ := ih
      exact ⟨c == '\n' || (isBlank c && b), fun t ht => by
        rw [List.cons_append, blankLine_cons, hb t ht]⟩

theorem hasBlankLine_ahead (n : Nat) (w : List Char) (h : n ≤ w.length) :
    ∃ b, ∀ t, Solidly t → hasBlankLine n (w ++ t) = b := by
  induction w generalizing n with
  | nil =>
      obtain rfl := Nat.le_zero.1 h
      exact ⟨false, fun t _ => by simp [hasBlankLine]⟩
  | cons c w ih =>
      cases n with
      | zero => exact ⟨false, fun t _ => by simp [hasBlankLine]⟩
      | succ n =>
          obtain ⟨b, hb⟩ := ih n (Nat.le_of_succ_le_succ h)
          obtain ⟨b', hb'⟩ := blankLine_ahead w
          exact ⟨(c == '\n' && b') || b, fun t ht => by
            rw [List.cons_append, hasBlankLine, hb t ht, hb' t ht]⟩

/-- Neither a command nor a group. -/
def Quiet (cs : List Char) : Prop := ∀ c ∈ cs, c ∉ ['\\', '{', '}']

/-- A plain key group ends in `w`, or all of `w` is plain. -/
theorem ahead_endsPlain (w : List Char) :
    Ahead Solidly (fun cs => some (Cursor.split endsPlain cs)) w
      (fun read rest => rest ≠ [] ∧ Quiet read)
      (fun g => (g = fun cs => some (Cursor.split endsPlain cs)) ∧ Quiet w) := by
  induction w with
  | nil => exact .nil ⟨rfl, List.forall_mem_nil _⟩
  | cons c w ih =>
      obtain ⟨b, hb⟩ := blankLine_ahead w
      by_cases hstop : (c == '}' || c == '{' || c == '\\' || (c == '\n' && b)) = true
      · refine .here ⟨List.cons_ne_nil c w, List.forall_mem_nil _⟩ fun t ht => ?_
        have hends : endsPlain (c :: (w ++ t)) = true := by rw [endsPlain, hb t ht, hstop]
        rw [List.cons_append, Cursor.split, if_pos hends]
      · have hquiet : c ∉ ['\\', '{', '}'] := by
          simp only [Bool.or_eq_true, beq_iff_eq, not_or] at hstop
          simp [hstop]
        refine (ih.imp (fun _ _ _ h => h) ?_).cons ?_ ?_
        · exact fun g hg => ⟨hg.1, List.forall_mem_cons.2 ⟨hquiet, hg.2⟩⟩
        · intro t ht
          have hends : ¬ endsPlain (c :: (w ++ t)) = true := by rwa [endsPlain, hb t ht]
          rw [Cursor.split, if_neg hends]
          rfl
        · exact fun read rest hread => ⟨hread.1, List.forall_mem_cons.2 ⟨hquiet, hread.2⟩⟩

namespace Group

/-- What `w` decides about a key group whose body begins with it. -/
inductive Ahead (brace : Nat) (w : List Char) : Prop where
  | closed {content rest : List Char} : w = content ++ '}' :: rest →
      (∀ t, Solidly t → ofBody brace (w ++ t) = closedBy brace content (rest ++ t)) → Ahead brace w
  | abandoned {content rest : List Char} : w = content ++ rest → Quiet content →
      (∀ t, Solidly t → ofBody brace (w ++ t) = abandoned brace content (rest ++ t)) →
      Ahead brace w
  /-- The group is not plain, and is open behind `w`. -/
  | nested {content rest : List Char} (depth : Nat) : w = content ++ rest → Quiet content →
      (∀ t, Solidly t → ofBody brace (w ++ t) =
        (balanced? brace (w ++ t)).getD (.abandoned brace content (rest ++ t))) →
      (∀ t, untilClosing? 0 .plain (w ++ t) =
        (untilClosing? depth (w.foldl Mode.next .plain) t).map fun cut => (w ++ cut.1, cut.2)) →
      Ahead brace w
  /-- The group is plain so far. -/
  | plain : Quiet w → (∀ t, Solidly t → Cursor.split endsPlain (w ++ t) =
      (w ++ (Cursor.split endsPlain t).1, (Cursor.split endsPlain t).2)) → Ahead brace w

theorem ahead_ofBody (brace : Nat) (w : List Char) : Ahead brace w := by
  cases ahead_endsPlain w with
  | failed h => exact absurd (h ['a'] ⟨'a', [], rfl, by decide⟩) (Option.some_ne_none _)
  | onward hg h =>
      obtain ⟨rfl, hquiet⟩ := hg
      exact .plain hquiet fun t ht => Option.some.inj (h t ht)
  | found hw hfound h =>
      rename_i plain rest
      obtain ⟨hne, hquiet⟩ := hfound
      obtain ⟨c, rest, rfl⟩ := List.exists_cons_of_ne_nil hne
      have hsplit := fun t ht => Option.some.inj (h t ht)
      by_cases hclose : c = '}'
      · subst hclose
        exact .closed hw fun t ht => ofBody_closed (hsplit t ht)
      by_cases hline : c = '\n'
      · subst hline
        exact .abandoned hw hquiet fun t ht => ofBody_line (hsplit t ht)
      have hbody := fun t ht => @ofBody_nested brace _ _ _ _ (hsplit t ht) hclose hline
      cases ahead_untilClosing? 0 .plain w with
      | failed hnone =>
          exact .abandoned hw hquiet fun t ht => by
            rw [hbody t ht, balanced?_none (hnone t trivial)]
            rfl
      | onward hg hlater =>
          obtain ⟨depth, rfl⟩ := hg
          exact .nested depth hw hquiet hbody fun t => hlater t trivial
      | found hw' hafter hclosing =>
          rename_i content rest'
          obtain ⟨after, rfl⟩ := hafter
          obtain ⟨b, hb⟩ := hasBlankLine_ahead content.length w (by simp [hw'])
          have hbalanced : ∀ t, Solidly t → balanced? brace (w ++ t) =
              if b then none else some (closedBy brace content (after ++ t)) := fun t ht => by
            rw [balanced?_some (hclosing t trivial), hb t ht]
            rfl
          cases b with
          | true => exact .abandoned hw hquiet fun t ht => by rw [hbody t ht, hbalanced t ht]; rfl
          | false => exact .closed hw' fun t ht => by rw [hbody t ht, hbalanced t ht]; rfl

end Group

end Manuscript.Latex

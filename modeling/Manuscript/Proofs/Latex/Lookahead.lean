/-
# Manuscript.Proofs.Latex.Lookahead -- look-aheads do not see inert names

The scan of a LaTeX text looks ahead for the end of blanks, options, groups and command
names, sometimes up to the end of the text.  Each look-ahead is followed here over a
`Form`: an inert name starts with no blank, has no brace, bracket or backslash, opens no
comment and ends none, so whatever name is filled in, the look-ahead passes it in the same
way or stops before it.

The results are about forms, not about two texts: a group, an option, a command name is
found in the same part of the form for every filling (`Group.read?_form`,
`skipOptions_form`, `commandName_form`).  Command names are the one look-ahead that an
inert name could continue; there a form has to be `Guarded`.
-/
import Manuscript.Latex.Event
import Manuscript.Proofs.Latex.Group
import Manuscript.Proofs.Text.Form

namespace Manuscript.Latex

set_option autoImplicit false

open Text Text.Form

variable {w cs : List Char} {F : Form}

/-! ## Blanks and comments -/

theorem isLayout_of_isPlain {c : Char} (hc : isPlain c = true) : isLayout c = false := by
  cases h : isLayout c with
  | false => rfl
  | true =>
      have := isBlank_of_isPlain hc
      rw [isBlank_of_isLayout h] at this
      cases this

theorem afterLayout_comment (h : ∀ c ∈ w, isInert c = true) (cs : List Char) :
    afterLayout true (w ++ cs) = (w ++ (afterLayout true cs).1, (afterLayout true cs).2) := by
  induction w with
  | nil => rfl
  | cons c w ih =>
      have hc : (c != '\n') = true :=
        bne_iff_ne.2 (ne_of_isInert (h c List.mem_cons_self) (by decide))
      have htail := ih fun d hd => h d (List.mem_cons_of_mem _ hd)
      simp [afterLayout, hc, htail]

theorem afterLayout_inert (hw : Inert w) (cs : List Char) :
    afterLayout false (w ++ cs) = ([], w ++ cs) := by
  obtain ⟨c, w, rfl, hc, -⟩ := hw.exists_cons
  have hpercent : c ≠ '%' := ne_of_isPlain hc (by decide)
  rw [List.cons_append, afterLayout]
  simp [isLayout_of_isPlain hc, hpercent]

theorem cuts_afterLayout (comment : Bool) (F : Form) :
    Cuts (fun cs => some (afterLayout comment cs)) F := by
  induction F generalizing comment with
  | nil => exact .here fun w _ => by cases comment <;> rfl
  | cons x F ih =>
      cases x with
      | some c =>
          have skip (next : Bool) (h : ∀ cs, afterLayout comment (c :: cs) =
              (c :: (afterLayout next cs).1, (afterLayout next cs).2)) :
              Cuts (fun cs => some (afterLayout comment cs)) (some c :: F) :=
            .append (P := [some c]) (ih next) fun w _ => by simp [h]
          cases comment with
          | true => exact skip (c != '\n') fun cs => by simp [afterLayout]
          | false =>
              by_cases hlayout : isLayout c = true
              · exact skip false fun cs => by simp [afterLayout, hlayout]
              by_cases hpercent : c = '%'
              · subst hpercent
                exact skip true fun cs => by simp [afterLayout, show isLayout '%' = false by decide]
              · exact .here fun w _ => by simp [afterLayout, hlayout, hpercent]
      | none =>
          cases comment with
          | true =>
              apply Cuts.append (P := [none]) (ih true)
              intro w hw
              simp [afterLayout_comment hw.inert]
          | false => exact .here fun w hw => by simp [afterLayout_inert hw]

/-! ## Balanced braces -/

/-- The mode after an inert name. -/
def Mode.past : Mode → Mode
  | .escaped => .plain
  | mode => mode

theorem Mode.next_inert {c : Char} (hc : isInert c = true) (mode : Mode) :
    mode.next c = mode.past := by
  have hslash : c ≠ '\\' := ne_of_isInert hc (by decide)
  have hpercent : c ≠ '%' := ne_of_isInert hc (by decide)
  have hfeed : c ≠ '\n' := ne_of_isInert hc (by decide)
  cases mode with
  | plain => exact Mode.next.eq_3 c hslash hpercent
  | escaped => rfl
  | comment => exact Mode.next.eq_6 c hfeed

theorem Mode.past_past (mode : Mode) : mode.past.past = mode.past := by
  cases mode <;> rfl

theorem untilClosing?_cons_inert {c : Char} (hc : isInert c = true) (depth : Nat) (mode : Mode)
    (cs : List Char) : untilClosing? depth mode (c :: cs) =
      (untilClosing? depth mode.past cs).map fun parts => (c :: parts.1, parts.2) := by
  have hopen : c ≠ '{' := ne_of_isInert hc (by decide)
  have hclose : c ≠ '}' := ne_of_isInert hc (by decide)
  simp [untilClosing?, hopen, hclose, Mode.next_inert hc]

theorem untilClosing?_inert (hw : Inert w) (depth : Nat) (mode : Mode) (cs : List Char) :
    untilClosing? depth mode (w ++ cs) =
      (untilClosing? depth mode.past cs).map fun parts => (w ++ parts.1, parts.2) := by
  have tail {w : List Char} (h : ∀ c ∈ w, isInert c = true) :
      untilClosing? depth mode.past (w ++ cs) =
        (untilClosing? depth mode.past cs).map fun parts => (w ++ parts.1, parts.2) := by
    induction w with
    | nil => simp
    | cons c w ih =>
        rw [List.cons_append, untilClosing?_cons_inert (h c List.mem_cons_self), Mode.past_past,
          ih fun d hd => h d (List.mem_cons_of_mem _ hd), Option.map_map]
        rfl
  obtain ⟨c, w, rfl, hc, hinert⟩ := hw.exists_cons
  rw [List.cons_append, untilClosing?_cons_inert (isInert_of_isPlain hc), tail hinert,
    Option.map_map]
  rfl

theorem cuts_untilClosing? (depth : Nat) (mode : Mode) (F : Form) :
    Cuts (untilClosing? depth mode) F := by
  induction F generalizing depth mode with
  | nil => exact .nowhere fun w _ => rfl
  | cons x F ih =>
      cases x with
      | some c =>
          have go (depth' : Nat) (h : ∀ cs, untilClosing? depth mode (c :: cs) =
              (untilClosing? depth' (mode.next c) cs).map fun parts => (c :: parts.1, parts.2)) :
              Cuts (untilClosing? depth mode) (some c :: F) :=
            .append (P := [some c]) (ih depth' (mode.next c)) fun w _ => h _
          by_cases hopen : mode = .plain ∧ c = '{'
          · exact go (depth + 1) fun cs => by simp [untilClosing?, hopen]
          by_cases hclose : mode = .plain ∧ c = '}'
          · obtain ⟨rfl, rfl⟩ := hclose
            cases depth with
            | zero => exact .here fun w _ => by simp [untilClosing?]
            | succ depth => exact go depth fun cs => by simp [untilClosing?]
          · exact go depth fun cs => by simp [untilClosing?, hopen, hclose]
      | none =>
          apply Cuts.append (P := [none]) (ih depth mode.past)
          intro w hw
          simp [untilClosing?_inert hw]

/-! ## Optional arguments -/

theorem untilBracket?_cons_inert {c : Char} (hc : isInert c = true) (depth : Nat) (escaped : Bool)
    (cs : List Char) : untilBracket? depth escaped (c :: cs) =
      (untilBracket? depth false cs).map fun parts => (c :: parts.1, parts.2) := by
  have hslash : c ≠ '\\' := ne_of_isInert hc (by decide)
  have h1 : c ≠ '[' := ne_of_isInert hc (by decide)
  have h2 : c ≠ '{' := ne_of_isInert hc (by decide)
  have h3 : c ≠ ']' := ne_of_isInert hc (by decide)
  have h4 : c ≠ '}' := ne_of_isInert hc (by decide)
  simp [untilBracket?, hslash, h1, h2, h3, h4]

theorem untilBracket?_inert (hw : Inert w) (depth : Nat) (escaped : Bool) (cs : List Char) :
    untilBracket? depth escaped (w ++ cs) =
      (untilBracket? depth false cs).map fun parts => (w ++ parts.1, parts.2) := by
  have tail {w : List Char} (h : ∀ c ∈ w, isInert c = true) :
      untilBracket? depth false (w ++ cs) =
        (untilBracket? depth false cs).map fun parts => (w ++ parts.1, parts.2) := by
    induction w with
    | nil => simp
    | cons c w ih =>
        rw [List.cons_append, untilBracket?_cons_inert (h c List.mem_cons_self),
          ih fun d hd => h d (List.mem_cons_of_mem _ hd), Option.map_map]
        rfl
  obtain ⟨c, w, rfl, hc, hinert⟩ := hw.exists_cons
  rw [List.cons_append, untilBracket?_cons_inert (isInert_of_isPlain hc), tail hinert,
    Option.map_map]
  rfl

theorem cuts_untilBracket? (depth : Nat) (escaped : Bool) (F : Form) :
    Cuts (untilBracket? depth escaped) F := by
  induction F generalizing depth escaped with
  | nil => exact .nowhere fun w _ => rfl
  | cons x F ih =>
      cases x with
      | some c =>
          have go (depth' : Nat) (escaped' : Bool)
              (h : ∀ cs, untilBracket? depth escaped (c :: cs) =
                (untilBracket? depth' escaped' cs).map fun parts => (c :: parts.1, parts.2)) :
              Cuts (untilBracket? depth escaped) (some c :: F) :=
            .append (P := [some c]) (ih depth' escaped') fun w _ => h _
          cases escaped with
          | true => exact go depth false fun cs => by simp [untilBracket?]
          | false =>
              by_cases hslash : c = '\\'
              · exact go depth true fun cs => by simp [untilBracket?, hslash]
              by_cases hopen : c = '[' ∨ c = '{'
              · exact go (depth + 1) false fun cs => by simp [untilBracket?, hslash, hopen]
              by_cases hclose : c = ']' ∨ c = '}'
              · cases depth with
                | zero =>
                    by_cases hbracket : c = ']'
                    · subst hbracket
                      exact .at_append (P := [some ']']) fun w _ => by simp [untilBracket?]
                    · obtain rfl := hclose.resolve_left hbracket
                      exact .nowhere fun w _ => by simp [untilBracket?]
                | succ depth =>
                    exact go depth false fun cs => by
                      simp [untilBracket?, hslash, hopen, hclose]
              · exact go depth false fun cs => by simp [untilBracket?, hslash, hopen, hclose]
      | none =>
          apply Cuts.append (P := [none]) (ih depth false)
          intro w hw
          simp [untilBracket?_inert hw]

/-! ## Searches -/

/-- A search that passes inert names. -/
theorem cuts_split {stop : List Char → Bool}
    (hinert : ∀ c cs, isInert c = true → stop (c :: cs) = false)
    (hform : ∀ c F, ∃ b, ∀ w, Inert w → stop (c :: fill w F) = b) (F : Form) :
    Cuts (fun cs => some (Cursor.split stop cs)) F := by
  induction F with
  | nil => exact .here fun w _ => rfl
  | cons x F ih =>
      cases x with
      | some c =>
          obtain ⟨b, hb⟩ := hform c F
          cases b with
          | true => exact .here fun w hw => by simp [Cursor.split, hb w hw]
          | false => exact .append (P := [some c]) ih fun w hw => by simp [Cursor.split, hb w hw]
      | none =>
          apply Cuts.append (P := [none]) ih
          intro w hw
          have pass {w : List Char} (h : ∀ c ∈ w, isInert c = true) (cs : List Char) :
              Cursor.split stop (w ++ cs) =
                (w ++ (Cursor.split stop cs).1, (Cursor.split stop cs).2) := by
            induction w with
            | nil => rfl
            | cons c w ih =>
                have htail := ih fun d hd => h d (List.mem_cons_of_mem _ hd)
                simp [Cursor.split, hinert c _ (h c List.mem_cons_self), htail]
          simp [pass hw.inert]

/-- A search for a character that stops before inert names. -/
theorem cuts_split_startsWith {p : Char → Bool} (hplain : ∀ c, isPlain c = true → p c = true)
    (F : Form) : Cuts (fun cs => some (Cursor.split (startsWith p) cs)) F := by
  induction F with
  | nil => exact .here fun w _ => rfl
  | cons x F ih =>
      cases x with
      | some c =>
          cases hc : p c with
          | true => exact .here fun w _ => by simp [Cursor.split, startsWith, hc]
          | false =>
              exact .append (P := [some c]) ih fun w _ => by simp [Cursor.split, startsWith, hc]
      | none =>
          apply Cuts.here
          intro w hw
          obtain ⟨c, w, rfl, hc, -⟩ := hw.exists_cons
          simp [Cursor.split, startsWith, hplain c hc]

theorem cuts_newline (F : Form) :
    Cuts (fun cs => some (Cursor.split (startsWith (· == '\n')) cs)) F := by
  refine cuts_split (fun c cs hc => ?_) (fun c F => ⟨c == '\n', fun w _ => rfl⟩) F
  exact beq_eq_false_iff_ne.2 (ne_of_isInert hc (by decide))

theorem cuts_asciiBlanks (F : Form) :
    Cuts (fun cs => some (Cursor.split (startsWith (!isAsciiBlank ·)) cs)) F := by
  refine cuts_split_startsWith (fun c hc => ?_) F
  cases h : isAsciiBlank c with
  | false => rfl
  | true =>
      have := isBlank_of_isPlain hc
      rw [isBlank_of_isAsciiBlank h] at this
      cases this

/-! ## Blank lines -/

theorem blankLine_cons (c : Char) (cs : List Char) :
    blankLine (c :: cs) = (c == '\n' || (isBlank c && blankLine cs)) := by
  by_cases hc : c = '\n'
  · simp [blankLine, hc]
  · simp [blankLine, hc]

/-- Whether the line is blank does not depend on the name: where there is one, it is not. -/
theorem blankLine_form (F : Form) : ∃ b, ∀ w, Inert w → blankLine (fill w F) = b := by
  induction F with
  | nil => exact ⟨true, fun w _ => rfl⟩
  | cons x F ih =>
      cases x with
      | some c =>
          obtain ⟨b, hb⟩ := ih
          exact ⟨c == '\n' || (isBlank c && b), fun w hw => by
            rw [fill_some, blankLine_cons, hb w hw]⟩
      | none =>
          refine ⟨false, ?_⟩
          intro w hw
          obtain ⟨c, w, rfl, hc, -⟩ := hw.exists_cons
          have hfeed : c ≠ '\n' := ne_of_isPlain hc (by decide)
          rw [fill_none, List.cons_append, blankLine_cons, isBlank_of_isPlain hc]
          simp [hfeed]

theorem hasBlankLine_inert (h : ∀ c ∈ w, isInert c = true) (n : Nat) (cs : List Char) :
    hasBlankLine (w.length + n) (w ++ cs) = hasBlankLine n cs := by
  induction w with
  | nil => simp
  | cons c w ih =>
      have hc : c ≠ '\n' := ne_of_isInert (h c List.mem_cons_self) (by decide)
      rw [List.length_cons, List.cons_append, Nat.add_right_comm, hasBlankLine,
        ih fun d hd => h d (List.mem_cons_of_mem _ hd)]
      simp [hc]

theorem hasBlankLine_form (P Q : Form) :
    ∃ b, ∀ w, Inert w → hasBlankLine (fill w P).length (fill w (P ++ Q)) = b := by
  induction P with
  | nil => exact ⟨false, fun w _ => by simp [hasBlankLine]⟩
  | cons x P ih =>
      obtain ⟨b, hb⟩ := ih
      cases x with
      | some c =>
          obtain ⟨b', hb'⟩ := blankLine_form (P ++ Q)
          refine ⟨(c == '\n' && b') || b, ?_⟩
          intro w hw
          rw [List.cons_append, fill_some, fill_some, List.length_cons, hasBlankLine, hb' w hw,
            hb w hw]
      | none =>
          refine ⟨b, ?_⟩
          intro w hw
          rw [List.cons_append, fill_none, fill_none, List.length_append,
            hasBlankLine_inert hw.inert, hb w hw]

theorem cuts_endsPlain (F : Form) : Cuts (fun cs => some (Cursor.split endsPlain cs)) F := by
  refine cuts_split ?_ ?_ F
  · intro c cs hc
    have h1 : c ≠ '}' := ne_of_isInert hc (by decide)
    have h2 : c ≠ '{' := ne_of_isInert hc (by decide)
    have h3 : c ≠ '\\' := ne_of_isInert hc (by decide)
    have h4 : c ≠ '\n' := ne_of_isInert hc (by decide)
    simp [endsPlain, h1, h2, h3, h4]
  · intro c F
    obtain ⟨b, hb⟩ := blankLine_form F
    exact ⟨c == '}' || c == '{' || c == '\\' || (c == '\n' && b), fun w hw => by
      rw [endsPlain, hb w hw]⟩

/-! ## Key groups -/

namespace Group

/-- The group with this content, which a brace closes or which is given up. -/
def parts (closed : Bool) (brace : Nat) (content rest : List Char) : Group :=
  if closed then closedBy brace content rest else abandoned brace content rest

/-- The brace of a closed group. -/
def closer (closed : Bool) : List Char := if closed then ['}'] else []

/-- What follows the content of a group in a form. -/
theorem exists_of_untilClosing?_form {F P Q : Form} {depth : Nat} {mode : Mode}
    (h : ∀ w, Inert w → untilClosing? depth mode (fill w F) = some (fill w P, fill w Q)) :
    ∃ R, Q = some '}' :: R := by
  obtain ⟨after, hafter⟩ := untilClosing?_rest (h _ inert_x)
  exact inert_x.exists_of_fill (by decide) hafter

theorem ofBody_closed {brace : Nat} {body plain rest : List Char}
    (h : Cursor.split endsPlain body = (plain, '}' :: rest)) :
    ofBody brace body = closedBy brace plain rest := by
  unfold ofBody
  rw [h]
  rfl

theorem ofBody_line {brace : Nat} {body plain rest : List Char}
    (h : Cursor.split endsPlain body = (plain, '\n' :: rest)) :
    ofBody brace body = abandoned brace plain ('\n' :: rest) := by
  unfold ofBody
  rw [h]
  rfl

theorem ofBody_nil {brace : Nat} {body plain : List Char}
    (h : Cursor.split endsPlain body = (plain, [])) :
    ofBody brace body = abandoned brace plain [] := by
  unfold ofBody
  rw [h]

theorem ofBody_nested {brace : Nat} {body plain rest : List Char} {c : Char}
    (h : Cursor.split endsPlain body = (plain, c :: rest)) (hclose : c ≠ '}') (hfeed : c ≠ '\n') :
    ofBody brace body = (balanced? brace body).getD (abandoned brace plain (c :: rest)) := by
  simp only [ofBody, h]
  split
  · rename_i heq
    exact absurd (List.cons.inj heq).1 hclose
  · rename_i heq
    exact absurd (List.cons.inj heq).1 hfeed
  · rename_i heq
    cases heq
  · rfl

theorem balanced?_none {brace : Nat} {body : List Char} (h : untilClosing? 0 .plain body = none) :
    balanced? brace body = none := by
  unfold balanced?
  rw [h]

theorem balanced?_some {brace : Nat} {body content rest : List Char} {c : Char}
    (h : untilClosing? 0 .plain body = some (content, c :: rest)) :
    balanced? brace body =
      if hasBlankLine content.length body then none else some (closedBy brace content rest) := by
  unfold balanced?
  rw [h]

/-- A nested group is balanced or given up, whatever name is filled in. -/
theorem balanced?_form (F : Form) :
    (∀ w brace, Inert w → balanced? brace (fill w F) = none) ∨
      ∃ C R, F = C ++ some '}' :: R ∧ ∀ w brace, Inert w →
        balanced? brace (fill w F) = some (closedBy brace (fill w C) (fill w R)) := by
  obtain ⟨cut, hcut, hclosing⟩ := cuts_untilClosing? 0 .plain F
  cases cut with
  | none => exact Or.inl fun w brace hw => balanced?_none (hclosing w hw)
  | some cut =>
      obtain ⟨C, Q⟩ := cut
      obtain rfl := hcut C Q rfl
      obtain ⟨R, rfl⟩ := exists_of_untilClosing?_form hclosing
      obtain ⟨b, hb⟩ := hasBlankLine_form C (some '}' :: R)
      cases b with
      | true =>
          left
          intro w brace hw
          rw [balanced?_some (hclosing w hw), hb w hw, if_pos rfl]
      | false =>
          refine Or.inr ⟨C, R, rfl, ?_⟩
          intro w brace hw
          rw [balanced?_some (hclosing w hw), hb w hw, if_neg Bool.false_ne_true]

/-- A group ends in one place of a form. -/
theorem ofBody_form (F : Form) :
    ∃ closed C Q, F = C ++ (Form.ofText (closer closed) ++ Q) ∧ ∀ w brace, Inert w →
      ofBody brace (fill w F) = parts closed brace (fill w C) (fill w Q) := by
  obtain ⟨cut, hcut, hsplit⟩ := cuts_endsPlain F
  cases cut with
  | none => exact absurd (hsplit _ inert_x) (Option.some_ne_none _)
  | some cut =>
  obtain ⟨A, B⟩ := cut
  obtain rfl := hcut A B rfl
  have hsplit (w : List Char) (hw : Inert w) :
      Cursor.split endsPlain (fill w (A ++ B)) = (fill w A, fill w B) :=
    Option.some.inj (hsplit w hw)
  -- a group that is neither closed nor at a blank line may still be balanced
  have nested (h : ∀ w, Inert w → ∃ c rest, fill w B = c :: rest ∧ c ≠ '}' ∧ c ≠ '\n') :
      ∃ closed C Q, A ++ B = C ++ (Form.ofText (closer closed) ++ Q) ∧ ∀ w brace, Inert w →
        ofBody brace (fill w (A ++ B)) = parts closed brace (fill w C) (fill w Q) := by
    rcases balanced?_form (A ++ B) with hnone | ⟨C, R, hCR, hsome⟩
    · refine ⟨false, A, B, rfl, ?_⟩
      intro w brace hw
      obtain ⟨c, rest, hB, hclose, hfeed⟩ := h w hw
      rw [ofBody_nested (hB ▸ hsplit w hw) hclose hfeed, hnone w brace hw, Option.getD_none, ← hB]
      rfl
    · refine ⟨true, C, R, hCR, ?_⟩
      intro w brace hw
      obtain ⟨c, rest, hB, hclose, hfeed⟩ := h w hw
      rw [ofBody_nested (hB ▸ hsplit w hw) hclose hfeed, hsome w brace hw, Option.getD_some]
      rfl
  cases B with
  | nil =>
      refine ⟨false, A, [], rfl, ?_⟩
      intro w brace hw
      rw [ofBody_nil (hsplit w hw)]
      rfl
  | cons x B =>
      cases x with
      | some c =>
          by_cases hclose : c = '}'
          · subst hclose
            refine ⟨true, A, B, rfl, ?_⟩
            intro w brace hw
            rw [ofBody_closed (hsplit w hw)]
            rfl
          by_cases hfeed : c = '\n'
          · subst hfeed
            refine ⟨false, A, some '\n' :: B, rfl, ?_⟩
            intro w brace hw
            rw [ofBody_line (hsplit w hw)]
            rfl
          · exact nested fun w _ => ⟨c, fill w B, rfl, hclose, hfeed⟩
      | none =>
          apply nested
          intro w hw
          obtain ⟨c, cs, rfl, hc, -⟩ := hw.exists_cons
          exact ⟨c, cs ++ fill (c :: cs) B, rfl, ne_of_isPlain hc (by decide),
            ne_of_isPlain hc (by decide)⟩

/-- A group does not show where it stands. -/
theorem ofBody_parts (body : List Char) :
    ∃ closed content rest, ∀ brace, ofBody brace body = parts closed brace content rest := by
  obtain ⟨closed, C, Q, -, hparts⟩ := ofBody_form (Form.ofText body)
  refine ⟨closed, fill ['x'] C, fill ['x'] Q, fun brace => ?_⟩
  have h := hparts ['x'] brace inert_x
  rwa [fill_ofText] at h

end Group

/-! ## Places -/

/-- The cursor of a filled form. -/
def cursor (w : List Char) (offset : Nat) (F : Form) : Cursor := ⟨offset, fill w F⟩

/-- The cursor after a part of a form. -/
def past (w : List Char) (offset : Nat) (P Q : Form) : Cursor :=
  ⟨offset + utf8Length (fill w P), fill w Q⟩

theorem past_past (offset : Nat) (P Q R : Form) :
    past w (past w offset P (Q ++ R)).offset Q R = past w offset (P ++ Q) R := by
  simp [past, Nat.add_assoc]

/-- A way to move goes over one part of the form. -/
def Moves (move : Cursor → Cursor) (F : Form) : Prop :=
  ∃ P Q, F = P ++ Q ∧ ∀ w offset, Inert w → move (cursor w offset F) = past w offset P Q

theorem skipLayout_form (F : Form) : Moves skipLayout F := by
  obtain ⟨cut, hcut, hlayout⟩ := cuts_afterLayout false F
  cases cut with
  | none => exact absurd (hlayout _ inert_x) (Option.some_ne_none _)
  | some cut =>
      obtain ⟨P, Q⟩ := cut
      refine ⟨P, Q, hcut P Q rfl, ?_⟩
      intro w offset hw
      have h : afterLayout false (fill w F) = (fill w P, fill w Q) := Option.some.inj (hlayout w hw)
      simp only [skipLayout, cursor, h]
      rfl

theorem option?_bracket {k : Cursor} {inside : List Char}
    (h : (skipLayout k).rest = '[' :: inside) :
    option? k = (untilBracket? 0 false inside).map fun parts =>
      (skipLayout k).after ('[' :: parts.1) parts.2 := by
  unfold option?
  simp only [h]

theorem option?_nothing {k : Cursor} (h : ∀ inside, (skipLayout k).rest ≠ '[' :: inside) :
    option? k = none := by
  unfold option?
  dsimp only
  split
  · rename_i inside hinside
    exact absurd hinside (h inside)
  · rfl

/-- An option is found in one place of a form, or nowhere. -/
theorem option?_form (F : Form) :
    (∀ w offset, Inert w → option? (cursor w offset F) = none) ∨
      ∃ P Q, F = P ++ Q ∧ P ≠ [] ∧ ∀ w offset, Inert w →
        option? (cursor w offset F) = some (past w offset P Q) := by
  obtain ⟨A, B, rfl, hlayout⟩ := skipLayout_form F
  by_cases hbracket : ∃ R, B = some '[' :: R
  · obtain ⟨R, rfl⟩ := hbracket
    obtain ⟨cut, hcut, hoption⟩ := cuts_untilBracket? 0 false R
    have hstart (w : List Char) (offset : Nat) (hw : Inert w) :
        option? (cursor w offset (A ++ some '[' :: R)) =
          (untilBracket? 0 false (fill w R)).map fun parts =>
            (past w offset A (some '[' :: R)).after ('[' :: parts.1) parts.2 := by
      rw [option?_bracket (by rw [hlayout w offset hw]; rfl), hlayout w offset hw]
    cases cut with
    | none =>
        left
        intro w offset hw
        rw [hstart w offset hw, hoption w hw]
        rfl
    | some cut =>
        obtain ⟨P, Q⟩ := cut
        obtain rfl := hcut P Q rfl
        refine Or.inr ⟨A ++ some '[' :: P, Q, by simp, by simp, ?_⟩
        intro w offset hw
        rw [hstart w offset hw, hoption w hw]
        simp [past, Cursor.after, Nat.add_assoc]
  · left
    intro w offset hw
    apply option?_nothing
    intro inside h
    rw [hlayout w offset hw] at h
    apply hbracket
    exact hw.exists_of_fill (by decide) h


theorem skipOptions_form (F : Form) : Moves skipOptions F := by
  induction hn : F.length using Nat.strong_induction_on generalizing F with
  | _ n ih =>
      rcases option?_form F with hnone | ⟨P, Q, rfl, hP, hsome⟩
      · exact ⟨[], F, rfl, fun w offset hw => by rw [skipOptions_of_none (hnone w offset hw)]; rfl⟩
      · have hlt : Q.length < n := by
          have := List.length_pos_iff.2 hP
          rw [← hn, List.length_append]
          omega
        obtain ⟨A, B, rfl, hmove⟩ := ih Q.length hlt Q rfl
        refine ⟨P ++ A, B, by simp, ?_⟩
        intro w offset hw
        rw [skipOptions_of_some (hsome w offset hw), ← past_past]
        exact hmove w _ hw

/-! ## Groups and names -/

namespace Group

theorem read?_brace {k : Cursor} {body : List Char} (h : (skipLayout k).rest = '{' :: body) :
    read? k = some (ofBody (skipLayout k).offset body) := by
  unfold read?
  simp only [h]

theorem read?_nothing {k : Cursor} (h : ∀ body, (skipLayout k).rest ≠ '{' :: body) :
    read? k = none := by
  unfold read?
  dsimp only
  split
  · rename_i body hbody
    exact absurd hbody (h body)
  · rfl

/-- A group is found in one place of a form, or nowhere. -/
theorem read?_form (F : Form) :
    (∀ w offset, Inert w → read? (cursor w offset F) = none) ∨
      ∃ A closed C Q, F = A ++ some '{' :: (C ++ (Form.ofText (closer closed) ++ Q)) ∧
        ∀ w offset, Inert w → read? (cursor w offset F) =
          some (parts closed (offset + utf8Length (fill w A)) (fill w C) (fill w Q)) := by
  obtain ⟨A, B, rfl, hlayout⟩ := skipLayout_form F
  by_cases hbrace : ∃ R, B = some '{' :: R
  · obtain ⟨R, rfl⟩ := hbrace
    obtain ⟨closed, C, Q, rfl, hbody⟩ := ofBody_form R
    refine Or.inr ⟨A, closed, C, Q, rfl, ?_⟩
    intro w offset hw
    rw [read?_brace (by rw [hlayout w offset hw]; rfl), hbody w _ hw, hlayout w offset hw]
    rfl
  · left
    intro w offset hw
    apply read?_nothing
    intro body h
    rw [hlayout w offset hw] at h
    apply hbrace
    exact hw.exists_of_fill (by decide) h

/-- The form of a group, with the blanks and comments before it. -/
def form (layout : List Char) (C : Form) (closed : Bool) : Form :=
  Form.ofText layout ++ some '{' :: (C ++ Form.ofText (closer closed))

theorem parts_brace (closed : Bool) (brace : Nat) (content rest : List Char) :
    (parts closed brace content rest).brace = brace := by
  cases closed <;> rfl

theorem parts_content (closed : Bool) (brace : Nat) (content rest : List Char) :
    (parts closed brace content rest).content = content := by
  cases closed <;> rfl

theorem parts_closed (closed : Bool) (brace : Nat) (content rest : List Char) :
    (parts closed brace content rest).closed = closed := by
  cases closed <;> rfl

theorem parts_next (closed : Bool) (offset : Nat) (layout : List Char) (C Q : Form) :
    (parts closed (offset + utf8Length layout) (fill w C) (fill w Q)).next =
      past w offset (form layout C closed) Q := by
  have hbrace : Char.utf8Size '{' = 1 := by decide
  have hclose : Char.utf8Size '}' = 1 := by decide
  cases closed with
  | true =>
      simp [parts, closedBy, past, form, closer, hbrace, hclose]
      omega
  | false =>
      simp [parts, abandoned, past, form, closer, hbrace]
      omega

variable {u v : List Char}

/-- A group that is read in one filling is read in the same part of any. -/
theorem exists_form (hu : Inert u) (hv : Inert v) {k : Cursor} {g : Group}
    (hread : read? k = some g) {C Q : Form} (hC : fill u C = g.content)
    (hQ : fill u Q = g.next.rest) :
    ∃ layout, k = cursor u k.offset (form layout C g.closed ++ Q) ∧
      g.brace = k.offset + utf8Length layout ∧
      g.next = past u k.offset (form layout C g.closed) Q ∧
      ∀ offset, read? (cursor v offset (form layout C g.closed ++ Q)) =
        some (parts g.closed (offset + utf8Length layout) (fill v C) (fill v Q)) := by
  obtain ⟨layout, body, hlayout, rfl⟩ := exists_of_read? hread
  obtain ⟨hbrace, hbody, -⟩ := takes_ofBody (k.offset + utf8Length layout) body
  have hrest := afterLayout_append false k.rest
  rw [hlayout] at hrest
  generalize ofBody (k.offset + utf8Length layout) body = g at *
  have hform : form layout C g.closed ++ Q =
      Form.ofText layout ++ some '{' :: (C ++ (Form.ofText (closer g.closed) ++ Q)) := by
    simp [form]
  have hk : k = cursor u k.offset (form layout C g.closed ++ Q) := by
    have : fill u (form layout C g.closed ++ Q) = k.rest := by
      rw [hform, ← hrest, hbody]
      simp only [fill_append, fill_ofText, fill_some, hC, hQ]
      rfl
    rw [cursor, this]
  rcases read?_form (form layout C g.closed ++ Q) with hnone | ⟨A, closed, C', Q', hF, hsome⟩
  · have := hnone u k.offset hu
    rw [← hk, hread] at this
    cases this
  · have hgroup := hsome u k.offset hu
    rw [← hk, hread] at hgroup
    have hgroup := Option.some.inj hgroup
    have hlength : utf8Length (fill u (Form.ofText layout)) = utf8Length (fill u A) := by
      have := congrArg Group.brace hgroup
      rw [hbrace, parts_brace] at this
      rw [fill_ofText]
      exact Nat.add_left_cancel this
    rw [hform] at hF
    obtain ⟨rfl, hinside⟩ := append_inj_of_fill hu.nonempty hF (append_inj_of_utf8Length
      (by rw [← fill_append, ← fill_append, hF]) hlength).1
    have hclosed := congrArg Group.closed hgroup
    rw [parts_closed] at hclosed
    subst hclosed
    obtain ⟨rfl, htail⟩ := append_inj_of_fill hu.nonempty (List.cons.inj hinside).2 (by
      have := congrArg Group.content hgroup
      rw [parts_content] at this
      rw [hC, this])
    obtain rfl := List.append_cancel_left htail
    refine ⟨layout, hk, hbrace, ?_, ?_⟩
    · have hnext := congrArg Group.next hgroup
      rwa [fill_ofText, parts_next] at hnext
    · intro offset
      have := hsome v offset hv
      rwa [fill_ofText] at this

/-- Where one filling has no group, none has. -/
theorem read?_eq_none (hu : Inert u) (hv : Inert v) {k : Cursor} (hread : read? k = none)
    {Q : Form} (hQ : fill u Q = k.rest) (offset : Nat) : read? (cursor v offset Q) = none := by
  rcases read?_form Q with hnone | ⟨A, closed, C, R, rfl, hsome⟩
  · exact hnone v offset hv
  · have := hsome u k.offset hu
    rw [cursor, hQ] at this
    rw [show (⟨k.offset, k.rest⟩ : Cursor) = k from rfl, hread] at this
    cases this

end Group

theorem isSeparator_of_isLetter {c : Char} (hc : isLetter c = true) : isSeparator c = false := by
  have hrange : c.toNat = 64 ∨ (65 ≤ c.toNat ∧ c.toNat ≤ 90) ∨ (97 ≤ c.toNat ∧ c.toNat ≤ 122) := by
    have hletter : (decide (c.val ≥ 'A'.val ∧ c.val ≤ 'Z'.val) ||
        (decide (c.val ≥ 'a'.val) && decide (c.val ≤ 'z'.val)) || c == '@') = true := hc
    simp only [Bool.or_eq_true, Bool.and_eq_true, decide_eq_true_eq, beq_iff_eq, ge_iff_le,
      UInt32.le_iff_toNat_le] at hletter
    rcases hletter with (h | h) | rfl
    · exact Or.inr (Or.inl h)
    · exact Or.inr (Or.inr h)
    · exact Or.inl rfl
  have hne (d : Char) (hd : ¬ (d.toNat = 64 ∨ (65 ≤ d.toNat ∧ d.toNat ≤ 90) ∨
      (97 ≤ d.toNat ∧ d.toNat ≤ 122))) : c ≠ d := by
    rintro rfl
    exact hd hrange
  have hblank : isBlank c = false := by
    simp only [isBlank, Bool.or_eq_false_iff, Bool.and_eq_false_iff, decide_eq_false_iff_not,
      beq_eq_false_iff_ne]
    omega
  simp [isSeparator, hblank, hne ',' (by decide), hne '{' (by decide), hne '(' (by decide)]

/-- Letters end at one place of a guarded form: no name stands right after a letter. -/
theorem split_letters_form {F : Form} (h : Guarded false F) :
    ∃ letters Q, F = Form.ofText letters ++ Q ∧ Guarded false Q ∧ ∀ w,
      Cursor.split (startsWith (!isLetter ·)) (fill w F) = (letters, fill w Q) := by
  induction F with
  | nil => exact ⟨[], [], rfl, trivial, fun w => rfl⟩
  | cons x F ih =>
      cases x with
      | none => exact absurd h.1 Bool.false_ne_true
      | some c =>
          cases hc : isLetter c with
          | true =>
              have htail : Guarded (isSeparator c) F := h
              rw [isSeparator_of_isLetter hc] at htail
              obtain ⟨letters, Q, rfl, hQ, hsplit⟩ := ih htail
              refine ⟨c :: letters, Q, rfl, hQ, ?_⟩
              intro w
              have htail := hsplit w
              rw [fill_some, Cursor.split, htail]
              simp [startsWith, hc]
          | false =>
              refine ⟨[], some c :: F, rfl, h, ?_⟩
              intro w
              simp [Cursor.split, startsWith, hc]

theorem commandName_form {F : Form} (h : Guarded false F) :
    ∃ name Q, F = Form.ofText name ++ Q ∧ Guarded false Q ∧ ∀ w,
      commandName (fill w F) = (name, fill w Q) := by
  obtain ⟨letters, Q, rfl, hQ, hsplit⟩ := split_letters_form h
  by_cases hstar : ∃ R, Q = some '*' :: R
  · obtain ⟨R, rfl⟩ := hstar
    exact ⟨letters ++ ['*'], R, by simp [Form.ofText], hQ, fun w => commandName_star (hsplit w)⟩
  · refine ⟨letters, Q, rfl, hQ, ?_⟩
    intro w
    apply commandName_letters (hsplit w)
    intro rest hrest
    exact hstar (hQ.exists_of_fill hrest)

theorem definedName?_nothing {k : Cursor} (h : ∀ cs, k.rest ≠ '\\' :: cs) :
    Reading.definedName? k = none := by
  unfold Reading.definedName?
  split
  · rename_i cs hcs
    exact absurd hcs (h cs)
  · rfl

/-- A defined name is found right at the start of a form, or it is not there. -/
theorem definedName?_form {after : Bool} {F : Form} (h : Guarded after F) :
    (∀ w offset, Inert w → Reading.definedName? (cursor w offset F) = none) ∨
      ∃ letters Q, F = Form.ofText ('\\' :: letters) ++ Q ∧ Guarded false Q ∧
        ∀ w offset, Reading.definedName? (cursor w offset F) =
          some (⟨String.ofList letters, ⟨offset, offset + utf8Length ('\\' :: letters)⟩⟩,
            past w offset (Form.ofText ('\\' :: letters)) Q) := by
  by_cases hslash : ∃ R, F = some '\\' :: R
  · obtain ⟨R, rfl⟩ := hslash
    obtain ⟨letters, Q, rfl, hQ, hsplit⟩ := split_letters_form (show Guarded false R from h)
    cases letters with
    | nil =>
        left
        intro w offset hw
        simp only [Reading.definedName?, cursor, fill_some, hsplit w]
    | cons c letters =>
        refine Or.inr ⟨c :: letters, Q, rfl, hQ, ?_⟩
        intro w offset
        simp only [Reading.definedName?, cursor, fill_some, hsplit w]
        simp [past, Cursor.after]
  · left
    intro w offset hw
    apply definedName?_nothing
    intro cs hcs
    apply hslash
    exact hw.exists_of_fill (by decide) hcs

end Manuscript.Latex

/-
# Manuscript.Proofs.Latex.Token -- the tokens of a text

A backslash and the name behind it are one token, and so are a backslash and any other
character behind it; a character without a backslash is a token of its own (`tokens`).
This is how the analysis passes over a text whose commands take nothing.

Tokens are told from left to right, but where a text ends is known without reading it up:
a backslash begins a token if an even number of them come before it (`tokens_append`).  So
the last token is a command exactly where the text ends in such a backslash and letters
(`endsInCommand_iff_tokens`).
-/
import Manuscript.Proofs.Latex.MarkupReading
import Manuscript.Proofs.Text.Ahead
import Mathlib.Data.List.DropRight
import Mathlib.Algebra.Group.Nat.Even

namespace Manuscript.Latex

set_option autoImplicit false

open Text

/-- What the characters of a text belong to. -/
inductive Token where
  /-- A backslash and a name; none stands behind a backslash that ends the text. -/
  | command (name : List Char)
  /-- A backslash and a character that begins no name. -/
  | symbol (c : Char)
  | plain (c : Char)
deriving DecidableEq, Repr

/-- The tokens of a text. -/
def tokens : List Char → List Token
  | [] => []
  | c :: cs =>
      if c ≠ '\\' then .plain c :: tokens cs
      else match cs with
        | [] => [.command []]
        | d :: ds =>
            if isLetter d then .command (commandName (d :: ds)).1 :: tokens (commandName (d :: ds)).2
            else .symbol d :: tokens ds
termination_by text => text.length
decreasing_by
  · exact Nat.lt_succ_self _
  · have hlength := congrArg List.length (commandName_append (d :: ds))
    rw [List.length_append] at hlength
    simp only [List.length_cons] at hlength ⊢
    omega
  · simp only [List.length_cons]
    omega

/-! ## Names -/

/-- A name that begins with a letter is not empty, and no backslash is in it. -/
theorem commandName_ne_nil {c : Char} {cs : List Char} (hc : isLetter c = true) :
    (commandName (c :: cs)).1 ≠ [] := by
  have hsplit : Cursor.split (startsWith (!isLetter ·)) (c :: cs) =
      (c :: (Cursor.split (startsWith (!isLetter ·)) cs).1,
        (Cursor.split (startsWith (!isLetter ·)) cs).2) := by
    rw [Cursor.split, if_neg (by simp [startsWith, hc])]
  unfold commandName
  split
  · exact List.append_ne_nil_of_right_ne_nil _ (List.cons_ne_nil _ _)
  · rw [hsplit]
    exact List.cons_ne_nil _ _

theorem slash_notMem_commandName (cs : List Char) : '\\' ∉ (commandName cs).1 := by
  have hletters : ∀ c ∈ (Cursor.split (startsWith (!isLetter ·)) cs).1, c ≠ '\\' := by
    rintro c hc rfl
    exact absurd (Cursor.forall_mem_split (!isLetter ·) cs _ hc) (by decide)
  unfold commandName
  split
  · rename_i letters rest hsplit
    rw [hsplit] at hletters
    intro hmem
    rcases List.mem_append.1 hmem with hmem | hmem
    · exact hletters _ hmem rfl
    · exact absurd (List.mem_singleton.1 hmem) (by decide)
  · exact fun hmem => hletters _ hmem rfl

/-- A name is read alike whatever comes behind a text that ends it. -/
theorem commandName_append_of_endsName (cs : List Char) {rest : List Char}
    (hrest : Markup.EndsName rest) :
    commandName (cs ++ rest) = ((commandName cs).1, (commandName cs).2 ++ rest) := by
  obtain ⟨d, ds, rfl, hd, hstar⟩ := hrest
  have hletters := Cursor.forall_mem_split (!isLetter ·) cs
  have happend := Cursor.split_append (startsWith (!isLetter ·)) cs
  have hstop := Cursor.split_stop (startsWith (!isLetter ·)) cs
  generalize hsplit : Cursor.split (startsWith (!isLetter ·)) cs = parts
    at hletters happend hstop
  obtain ⟨letters, tail⟩ := parts
  have hwhole : Cursor.split (startsWith (!isLetter ·)) (cs ++ d :: ds) =
      (letters, tail ++ d :: ds) := by
    rw [← happend, List.append_assoc]
    refine Cursor.split_startsWith hletters (.inr ?_)
    rcases hstop with rfl | hstop
    · simp [startsWith, hd]
    · cases tail with
      | nil => cases hstop
      | cons e es => exact hstop
  by_cases htail : ∃ after, tail = '*' :: after
  · obtain ⟨after, rfl⟩ := htail
    rw [commandName_star hsplit, commandName_star hwhole]
    rfl
  · rw [commandName_letters hsplit fun after h => htail ⟨after, h⟩]
    refine commandName_letters hwhole fun after h => ?_
    cases tail with
    | nil => exact hstar (List.cons.inj h).1
    | cons e es => exact htail ⟨es, congrArg (· :: es) (List.cons.inj h).1⟩

/-! ## Tokens -/

theorem tokens_nil : tokens [] = [] := by rw [tokens]

theorem tokens_slash : tokens ['\\'] = [.command []] := by
  rw [tokens.eq_def]
  exact if_neg (not_not.2 rfl)

theorem tokens_plain {c : Char} (hc : c ≠ '\\') (cs : List Char) :
    tokens (c :: cs) = .plain c :: tokens cs := by
  rw [tokens.eq_def]
  exact if_pos hc

theorem tokens_symbol {d : Char} (hd : isLetter d = false) (ds : List Char) :
    tokens ('\\' :: d :: ds) = .symbol d :: tokens ds := by
  rw [tokens, if_neg (not_not.2 rfl)]
  simp only [hd, Bool.false_eq_true, if_false]

theorem tokens_command {d : Char} (hd : isLetter d = true) (ds : List Char) :
    tokens ('\\' :: d :: ds) =
      .command (commandName (d :: ds)).1 :: tokens (commandName (d :: ds)).2 := by
  rw [tokens, if_neg (not_not.2 rfl)]
  simp only [hd, if_true]

/-- A backslash and letters are one token. -/
theorem tokens_letters {name : List Char} (h : ∀ c ∈ name, isLetter c = true) :
    tokens ('\\' :: name) = [.command name] := by
  cases name with
  | nil => exact tokens_slash
  | cons c cs =>
      have hname := Markup.isCommandName_of_letters (List.cons_ne_nil c cs) h
      simp only [Markup.isCommandName, Bool.and_eq_true, decide_eq_true_eq] at hname
      rw [tokens_command (h c List.mem_cons_self), hname.2, tokens_nil]

theorem tokens_eq_nil_iff {text : List Char} : tokens text = [] ↔ text = [] := by
  refine ⟨fun h => ?_, fun h => h ▸ tokens_nil⟩
  cases text with
  | nil => rfl
  | cons c cs =>
      rw [tokens.eq_def] at h
      dsimp only at h
      split at h
      · cases h
      · split at h
        · cases h
        · split at h <;> cases h

/-- What comes behind a backslash and a name is not escaped. -/
theorem escapes_command {d : Char} (hd : isLetter d = true) (ds more : List Char) :
    escapes false ('\\' :: ((commandName (d :: ds)).1 ++ more)) = escapes false more := by
  rw [escapes_cons, escapes_append, escapes_eq_false (commandName_ne_nil hd)]
  exact fun hlast => slash_notMem_commandName _ (List.mem_of_getLast? hlast)

/-- **Where no character is escaped, the tokens of a text end**, unless a name goes on. -/
theorem tokens_append {text : List Char} (h : escapes false text = false) {rest : List Char}
    (hrest : Markup.EndsName rest) : tokens (text ++ rest) = tokens text ++ tokens rest := by
  induction text using tokens.induct with
  | case1 => rw [tokens_nil, List.nil_append, List.nil_append]
  | case2 c cs hc ih =>
      have hescapes : escapes false cs = false := by simpa [escapes_cons, hc] using h
      rw [List.cons_append, tokens_plain hc, tokens_plain hc, ih hescapes, List.cons_append]
  | case3 c hc =>
      obtain rfl := not_not.1 hc
      cases h
  | case4 c hc d ds hd ih =>
      obtain rfl := not_not.1 hc
      have hescapes : escapes false (commandName (d :: ds)).2 = false := by
        rw [← escapes_command hd ds, commandName_append]
        exact h
      have hname := commandName_append_of_endsName (d :: ds) hrest
      rw [List.cons_append] at hname
      rw [List.cons_append, List.cons_append, tokens_command hd, tokens_command hd, hname,
        ih hescapes, List.cons_append]
  | case5 c hc d ds hd ih =>
      obtain rfl := not_not.1 hc
      have hd : isLetter d = false := eq_false_of_ne_true hd
      have hescapes : escapes false ds = false := h
      rw [List.cons_append, List.cons_append, tokens_symbol hd, tokens_symbol hd, ih hescapes,
        List.cons_append]

/-! ## The last token -/

/-- A text ends in a command: an even number of backslashes, one more, and letters. -/
def EndsInCommand (text name : List Char) : Prop :=
  (∀ c ∈ name, isLetter c = true) ∧
    ∃ front, text = front ++ '\\' :: name ∧ Even (front.rtakeWhile (· = '\\')).length

/-- A character is not escaped behind an even number of backslashes. -/
theorem escapes_eq_false_iff {text : List Char} :
    escapes false text = false ↔ Even (text.rtakeWhile (· = '\\')).length := by
  rw [escapes_eq_odd, decide_eq_false_iff_not, List.rtakeWhile, List.length_reverse,
    Nat.even_iff]
  omega

theorem endsInCommand_iff {text name : List Char} :
    EndsInCommand text name ↔ (∀ c ∈ name, isLetter c = true) ∧
      ∃ front, text = front ++ '\\' :: name ∧ escapes false front = false := by
  simp only [EndsInCommand, escapes_eq_false_iff]

theorem EndsInCommand.append {front text name : List Char} (h : EndsInCommand text name)
    (hfront : escapes false front = false) : EndsInCommand (front ++ text) name := by
  rw [endsInCommand_iff] at h ⊢
  obtain ⟨hname, before, rfl, hbefore⟩ := h
  exact ⟨hname, front ++ before, (List.append_assoc _ _ _).symm, by
    rw [escapes_append, hfront, hbefore]⟩

/-- The last token of a list of them. -/
theorem getLast?_tokens_cons {token last : Token} {rest : List Char}
    (h : (token :: tokens rest).getLast? = some last) :
    rest = [] ∧ token = last ∨ (tokens rest).getLast? = some last := by
  by_cases hrest : rest = []
  · subst hrest
    rw [tokens_nil] at h
    exact .inl ⟨rfl, Option.some.inj h⟩
  · rw [List.getLast?_cons_of_ne_nil (mt tokens_eq_nil_iff.1 hrest)] at h
    exact .inr h

/-- **The last token is a command where the text ends in one.** -/
theorem endsInCommand_iff_tokens {text name : List Char} :
    EndsInCommand text name ↔
      (∀ c ∈ name, isLetter c = true) ∧ (tokens text).getLast? = some (.command name) := by
  constructor
  · rw [endsInCommand_iff]
    rintro ⟨hname, front, rfl, hfront⟩
    refine ⟨hname, ?_⟩
    rw [tokens_append hfront ⟨'\\', name, rfl, by decide, by decide⟩, tokens_letters hname,
      List.getLast?_concat]
  · rintro ⟨hname, hlast⟩
    have hempty : EndsInCommand ('\\' :: name) name := ⟨hname, [], rfl, by simp⟩
    induction text using tokens.induct with
    | case1 =>
        rw [tokens_nil] at hlast
        cases hlast
    | case2 c cs hc ih =>
        rw [tokens_plain hc] at hlast
        rcases getLast?_tokens_cons hlast with ⟨-, htoken⟩ | hlast
        · cases htoken
        · exact (ih hlast).append (by simp [escapes_cons, hc] : escapes false [c] = false)
    | case3 c hc =>
        obtain rfl := not_not.1 hc
        rw [tokens_slash] at hlast
        cases hlast
        exact hempty
    | case4 c hc d ds hd ih =>
        obtain rfl := not_not.1 hc
        have hsplit := commandName_append (d :: ds)
        rw [tokens_command hd] at hlast
        rcases getLast?_tokens_cons hlast with ⟨hrest, htoken⟩ | hlast
        · cases htoken
          rw [hrest, List.append_nil] at hsplit
          rw [hsplit] at hempty ⊢
          exact hempty
        · have hfront := escapes_command hd ds []
          rw [List.append_nil] at hfront
          rw [← hsplit]
          exact (ih hlast).append hfront
    | case5 c hc d ds hd ih =>
        obtain rfl := not_not.1 hc
        rw [tokens_symbol (eq_false_of_ne_true hd)] at hlast
        rcases getLast?_tokens_cons hlast with ⟨-, htoken⟩ | hlast
        · cases htoken
        · exact (ih hlast).append (rfl : escapes false ['\\', d] = false)

end Manuscript.Latex

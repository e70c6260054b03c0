/-
# Manuscript.Proofs.Completion.Command -- where a command is completed

A command is being typed where the tokens of the line end in one: behind an even number of
backslashes, one more, and letters.  The pattern of commands finds that backslash wherever it
stands (`exists_find?_command`), and no open group is found in front of it, because the keys of
an open group go up to the end of the line and have no backslash (`openGroup?_command`).

What is left is whether the backslash is escaped.  Only the one character in front of it is
asked: a backslash there is taken for the first half of a line break.  So a command is found
where the backslash comes behind no other (`openCommand?_eq_some_iff`), and one that comes
right behind a line break is not (`ofLine?_eq_command_iff`).
-/
import Manuscript.Proofs.Completion.Agreement
import Manuscript.Proofs.Latex.Token

namespace Manuscript.Completion.Context

set_option autoImplicit false

open Text Pattern
open Latex (Uncommented EndsInCommand endsInCommand_iff_tokens isLetter tokens)

/-- Letters have no backslash. -/
theorem slash_notMem {typed : List Char} (h : ∀ c ∈ typed, isLetter c = true) : '\\' ∉ typed :=
  fun hmem => absurd (h _ hmem) (by decide)

/-! ## Matches -/

/-- Characters of a set are passed one by one. -/
theorem steps_of_forall {set : CharSet} {typed : List Char}
    (h : ∀ c ∈ typed, set.contains c = true) (before : Option Char) :
    ∃ last, Steps (one set).ends ⟨before, typed, []⟩ ⟨last, [], []⟩ := by
  induction typed generalizing before with
  | nil => exact ⟨before, .refl⟩
  | cons c cs ih =>
      obtain ⟨last, hsteps⟩ := ih (List.forall_mem_cons.1 h).2 (some c)
      exact ⟨last, .head ⟨if_pos (List.forall_mem_cons.1 h).1, Nat.lt_succ_self cs.length⟩ hsteps⟩

/-- The pattern of commands matches at a backslash that letters follow up to the end. -/
theorem ends_command_ne_nil {typed : List Char} (h : ∀ c ∈ typed, isLetter c = true)
    (before : Option Char) : commandPattern.ends ⟨before, '\\' :: typed, []⟩ ≠ [] := by
  obtain ⟨last, hsteps⟩ :=
    steps_of_forall (fun c hc => contains_commandChar.2 (h c hc)) (some '\\')
  refine seq_ne_nil (q := ⟨some '\\', typed, []⟩) (List.mem_singleton_self _) ?_
  refine seq_ne_nil (List.mem_map_of_mem (mem_many_of_steps hsteps)) ?_
  exact seq_ne_nil (List.mem_singleton_self _) (List.cons_ne_nil _ _)

/-- **The last backslash of a line is found if letters follow it.** -/
theorem exists_find?_command (front : List Char) {typed : List Char}
    (h : ∀ c ∈ typed, isLetter c = true) : ∃ m,
      commandPattern.find? (front ++ '\\' :: typed) = some m ∧
        m.start.before = front.getLast? ∧ m.group? 1 = some typed := by
  cases hfind : commandPattern.find? (front ++ '\\' :: typed) with
  | none => exact absurd (ends_eq_nil_of_findFrom hfind) (ends_command_ne_nil h _)
  | some m =>
      obtain ⟨front', typed', hline, hall, hbefore, hgroup⟩ := exists_of_find?_command hfind
      obtain rfl := eq_of_last hline (slash_notMem h) (slash_notMem hall)
      rw [List.append_cancel_right hline]
      exact ⟨m, rfl, hbefore, hgroup⟩

theorem openCommand?_eq_some_iff {line typed : List Char} : openCommand? line = some typed ↔
    (∀ c ∈ typed, isLetter c = true) ∧
      ∃ front, line = front ++ '\\' :: typed ∧ front.getLast? ≠ some '\\' := by
  refine ⟨of_openCommand?, ?_⟩
  rintro ⟨hall, front, rfl, hlast⟩
  obtain ⟨m, hm, hbefore, hgroup⟩ := exists_find?_command front hall
  refine Option.bind_eq_some_iff.2 ⟨m, hm, ?_⟩
  rw [if_neg (hbefore ▸ hlast), hgroup]

/-- No group is open where a command is typed. -/
theorem openGroup?_command {front typed : List Char} (h : ∀ c ∈ typed, isLetter c = true) :
    openGroup? (front ++ '\\' :: typed) = none := by
  cases hgroup : openGroup? (front ++ '\\' :: typed) with
  | none => rfl
  | some found =>
      obtain ⟨front', command, between, keys, hopens⟩ := exists_opens hgroup
      obtain ⟨-, -, hkeys⟩ := hopens.parts hgroup
      have hcut : (front' ++ '\\' :: (command ++ between)) ++ '{' :: keys =
          front ++ '\\' :: typed := by
        rw [hopens.cut]
        simp
      -- the brace is in what is typed, or the backslash is in the keys
      rcases List.append_eq_append_iff.1 hcut with ⟨more, -, hmore⟩ | ⟨more, -, hmore⟩
      · cases more with
        | nil => cases hmore
        | cons c more =>
            obtain ⟨-, rfl⟩ := List.cons.inj hmore
            exact absurd (by simp) (hkeys.plain '\\' (by simp))
      · cases more with
        | nil => cases hmore
        | cons c more =>
            obtain ⟨-, rfl⟩ := List.cons.inj hmore
            exact absurd (h '{' (by simp)) (by decide)

/-! ## Commands -/

/-- An even number of backslashes and another one that comes behind none. -/
theorem endsInCommand_of_last {line typed : List Char} :
    (EndsInCommand line typed ∧ ¬ '\\' :: '\\' :: typed <:+ line) ↔
      (∀ c ∈ typed, isLetter c = true) ∧
        ∃ front, line = front ++ '\\' :: typed ∧ front.getLast? ≠ some '\\' := by
  constructor
  · rintro ⟨⟨hall, front, rfl, -⟩, hbreak⟩
    refine ⟨hall, front, rfl, fun hlast => hbreak ?_⟩
    obtain ⟨before, rfl⟩ := List.getLast?_eq_some_iff.1 hlast
    exact ⟨before, by simp⟩
  · rintro ⟨hall, front, rfl, hlast⟩
    have hnone : front.rtakeWhile (· = '\\') = [] := by
      rcases List.eq_nil_or_concat front with rfl | ⟨before, c, rfl⟩
      · rfl
      · rw [List.concat_eq_append] at hlast ⊢
        have hc : ¬ decide (c = '\\') = true := by simpa using hlast
        exact List.rtakeWhile_concat_neg (fun c => decide (c = '\\')) before c hc
    refine ⟨⟨hall, front, rfl, by rw [hnone]; exact Even.zero⟩, ?_⟩
    rintro ⟨before, hbefore⟩
    have hfront : before ++ ['\\'] = front :=
      List.append_cancel_right (by simpa using hbefore : _ ++ '\\' :: typed = _)
    exact hlast (by rw [← hfront, List.getLast?_concat])

/-- A topic that the command of a group takes is none of commands. -/
theorem topicOf?_ne_command {name : String} : topicOf? name ≠ some .command := by
  intro h
  rcases topicOf?_cases h with ⟨h, -⟩ | ⟨h, -⟩ | h | ⟨kind, h, -⟩ <;> cases h

/-- **A command is completed where the tokens of the line end in one**, unless the backslash
comes right behind a line break. -/
theorem ofLine?_eq_command_iff {line : List Char} (hline : Uncommented line) (typed : List Char) :
    (EndsInCommand line typed ↔ (∀ c ∈ typed, isLetter c = true) ∧
      (tokens line).getLast? = some (.command typed)) ∧
    (ofLine? line = some ⟨.command, typed⟩ ↔
      EndsInCommand line typed ∧ ¬ '\\' :: '\\' :: typed <:+ line) := by
  refine ⟨endsInCommand_iff_tokens, ?_⟩
  rw [endsInCommand_of_last, ← openCommand?_eq_some_iff]
  rw [ofLine?, if_neg (by rw [isComment_of_uncommented hline]; exact Bool.false_ne_true)]
  cases hgroup : openGroup? line with
  | none => simp
  | some found =>
      -- the group is open, so the line ends in no command
      refine iff_of_false (fun h => ?_) fun h => ?_
      · obtain ⟨topic, htopic, hcontext⟩ := Option.map_eq_some_iff.1 h
        cases hcontext
        exact topicOf?_ne_command htopic
      · obtain ⟨hall, front, rfl, -⟩ := of_openCommand? h
        rw [openGroup?_command hall] at hgroup
        cases hgroup

/-- A command in a line with a line break and an escaped percent sign. -/
theorem ofLine?_eq_command_emph :
    Uncommented "5\\% \\\\ see \\emp".toList ∧
      ofLine? "5\\% \\\\ see \\emp".toList = some ⟨.command, "emp".toList⟩ := by
  have hline : Uncommented "5\\% \\\\ see \\emp".toList :=
    uncommented_of_isComment (by decide +kernel)
  have hends : EndsInCommand "5\\% \\\\ see \\emp".toList "emp".toList :=
    ⟨by simp [isLetter], "5\\% \\\\ see ".toList, by decide +kernel, by decide +kernel⟩
  have hnobreak : ¬ '\\' :: '\\' :: "emp".toList <:+ "5\\% \\\\ see \\emp".toList := by
    decide +kernel
  exact ⟨hline, (ofLine?_eq_command_iff hline _).2.2 ⟨hends, hnobreak⟩⟩

/-- A command right behind a line break is not completed. -/
theorem ofLine?_break : Uncommented "\\\\\\foo".toList ∧
    EndsInCommand "\\\\\\foo".toList "foo".toList ∧ ofLine? "\\\\\\foo".toList = none := by
  refine ⟨uncommented_of_isComment ?_, ⟨by simp [isLetter], "\\\\".toList, ?_, ?_⟩, ?_⟩
  · decide +kernel
  · decide +kernel
  · decide +kernel
  · decide +kernel

end Manuscript.Completion.Context

/-
# Manuscript.Proofs.Latex.Comment -- where the scan begins a comment

A character that neither begins nor goes on with a name is a token of its own exactly where it
is not escaped (`plain_mem_tokens_iff`), so the tokens of a text meet a percent sign where an
even number of backslashes comes before it.

Every reader goes on behind whole tokens, or at the end of the text (`passes_at`), and so the
scan begins a comment only at a percent sign that is a token (`plain_mem_tokens_of_visits`).
It may read over one with the argument of a command; where the commands of a text take
nothing, it goes from token to token (`exists_token_at`), and comes to the first percent sign.
-/
import Manuscript.Proofs.Latex.Exposed
import Manuscript.Proofs.Latex.Token

namespace Manuscript.Latex

set_option autoImplicit false

open Text

/-! ## Tokens -/

theorem exists_of_plain_mem_tokens {c : Char} {text : List Char} (h : .plain c ∈ tokens text) :
    c ≠ '\\' ∧ ∃ before after, text = before ++ c :: after ∧ escapes false before = false := by
  induction text using tokens.induct with
  | case1 =>
      rw [tokens_nil] at h
      cases h
  | case2 d cs hd ih =>
      rw [tokens_plain hd] at h
      rcases List.mem_cons.1 h with heq | h
      · cases heq
        exact ⟨hd, [], cs, rfl, rfl⟩
      · obtain ⟨hc, before, after, rfl, hbefore⟩ := ih h
        refine ⟨hc, d :: before, after, rfl, ?_⟩
        rw [escapes_cons, decide_eq_false hd, Bool.and_false, hbefore]
  | case3 d hd =>
      obtain rfl := not_not.1 hd
      rw [tokens_slash] at h
      cases List.mem_singleton.1 h
  | case4 d hd e es he ih =>
      obtain rfl := not_not.1 hd
      rw [tokens_command he] at h
      obtain ⟨hc, before, after, hsplit, hbefore⟩ :=
        ih ((List.mem_cons.1 h).resolve_left Token.noConfusion)
      refine ⟨hc, '\\' :: ((commandName (e :: es)).1 ++ before), after, ?_, ?_⟩
      · rw [List.cons_append, List.append_assoc, ← hsplit, commandName_append]
      · rw [escapes_command he, hbefore]
  | case5 d hd e es he ih =>
      obtain rfl := not_not.1 hd
      rw [tokens_symbol (eq_false_of_ne_true he)] at h
      obtain ⟨hc, before, after, rfl, hbefore⟩ :=
        ih ((List.mem_cons.1 h).resolve_left Token.noConfusion)
      exact ⟨hc, '\\' :: e :: before, after, rfl, hbefore⟩

/-- **A character that is in no name is a token of its own exactly where it is not escaped.** -/
theorem plain_mem_tokens_iff {c : Char} (hletter : isLetter c = false)
    (hother : c ∉ ['*', '\\']) {text : List Char} : .plain c ∈ tokens text ↔
      ∃ before after, text = before ++ c :: after ∧ escapes false before = false := by
  simp only [List.mem_cons, List.not_mem_nil, or_false, not_or] at hother
  refine ⟨fun h => (exists_of_plain_mem_tokens h).2, ?_⟩
  rintro ⟨before, after, rfl, hbefore⟩
  rw [tokens_append hbefore ⟨c, after, rfl, hletter, hother.1⟩, tokens_plain hother.2]
  exact List.mem_append_right _ List.mem_cons_self

/-! ## Readers -/

/-- The other place is behind whole tokens, or at the end of the text. -/
def Passes (k k' : Cursor) : Prop :=
  k'.rest = [] ∨ ∃ read, k.rest = read ++ k'.rest ∧ escapes false read = false

theorem Passes.refl (k : Cursor) : Passes k k := .inr ⟨[], rfl, rfl⟩

theorem Passes.trans {a b c : Cursor} (hab : Passes a b) (hbc : Passes b c) : Passes a c := by
  rcases hbc with hend | ⟨read', hread', hescapes'⟩
  · exact .inl hend
  rcases hab with hend | ⟨read, hread, hescapes⟩
  · rw [hend] at hread'
    exact .inl (List.append_eq_nil_iff.1 hread'.symm).2
  · refine .inr ⟨read ++ read', by rw [hread, hread', List.append_assoc], ?_⟩
    rw [escapes_append, hescapes, hescapes']

/-- What is read ends with a character that escapes none. -/
theorem Passes.of_last {k k' : Cursor} (read : List Char) {c : Char} (hc : c ≠ '\\')
    (h : k.rest = read ++ c :: k'.rest) : Passes k k' := by
  refine .inr ⟨read ++ [c], by rw [h, List.append_assoc]; rfl, ?_⟩
  exact escapes_eq_false (by simp) (by simpa using hc) false

theorem passes_skipLayout (k : Cursor) : Passes k (skipLayout k) := by
  obtain ⟨o, w⟩ := k
  rw [skipLayout]
  dsimp only
  cases ahead_afterLayout false w with
  | failed hnone => exact absurd (hnone [] trivial) (Option.some_ne_none _)
  | @found read rest hw hread hfound =>
      have hcut := Option.some.inj (hfound [] trivial)
      rw [List.append_nil, List.append_nil] at hcut
      rw [hcut]
      exact .inr ⟨read, hw, hread.2 false (.inr rfl)⟩
  | onward hg honward =>
      obtain ⟨comment, rfl, -⟩ := hg
      have hcut := Option.some.inj (honward [] trivial)
      rw [List.append_nil] at hcut
      rw [hcut]
      exact .inl rfl

theorem passes_option? {k k' : Cursor} (h : option? k = some k') : Passes k k' := by
  refine (passes_skipLayout k).trans ?_
  simp only [option?] at h
  split at h
  · rename_i inside hinside
    obtain ⟨⟨read, rest⟩, hread, rfl⟩ := Option.map_eq_some_iff.1 h
    obtain ⟨before, rfl⟩ := List.getLast?_eq_some_iff.1 (of_untilBracket? hread).1
    refine .of_last ('[' :: before) (by decide : ']' ≠ '\\') ?_
    rw [hinside, ← untilBracket?_append hread, List.append_assoc]
    rfl
  · cases h

theorem passes_skipOptions (k : Cursor) : Passes k (skipOptions k) := by
  induction k using skipOptions.induct with
  | case1 k k' hoption ih =>
      rw [skipOptions_of_some hoption]
      exact (passes_option? hoption).trans ih
  | case2 k hnone =>
      rw [skipOptions_of_none hnone]
      exact .refl k

/-- A group ends with its brace, or has no backslash. -/
theorem passes_read? {k : Cursor} {g : Group} (h : Group.read? k = some g) :
    Passes k g.next := by
  refine (passes_skipLayout k).trans ?_
  simp only [Group.read?] at h
  split at h
  · rename_i body hbody
    cases h
    generalize (skipLayout k).offset = brace
    obtain ⟨-, hcontent, -⟩ := Group.takes_ofBody brace body
    have hquiet := @Faces.quiet_of_open brace body
    generalize Group.ofBody brace body = g at *
    cases hclosed : g.closed with
    | true =>
        rw [Group.closing, hclosed, if_pos rfl] at hcontent
        refine .of_last ('{' :: g.content) (by decide : '}' ≠ '\\') ?_
        rw [hbody, hcontent]
        rfl
    | false =>
        rw [Group.closing, hclosed, if_neg Bool.false_ne_true] at hcontent
        refine .inr ⟨'{' :: g.content, by rw [hbody, hcontent]; rfl, ?_⟩
        refine escapes_of_not_mem fun hmem => ?_
        rcases List.mem_cons.1 hmem with heq | hmem
        · revert heq
          decide
        · exact hquiet hclosed _ hmem (by simp)
  · cases h

namespace Reading

theorem passes_group {names : Nat → List Char → List Event}
    {f : List Char → Nat → Cursor → Reading} (start : Nat) (k : Cursor)
    (hf : ∀ content k', Passes k' (f content start k').next) :
    Passes k (group names f start k).next := by
  cases hread : Group.read? k with
  | none =>
      rw [group_of_none hread]
      exact .refl k
  | some g =>
      rw [group_of_read? hread]
      exact (passes_read? hread).trans (hf _ _)

theorem passes_keys (event : Symbol → Event) (k : Cursor) : Passes k (keys event k).next := by
  rw [keys_eq event 0]
  exact passes_group 0 k fun _ k' => .refl k'

theorem passes_label (k : Cursor) : Passes k (label k).next := by
  rw [label_eq 0]
  exact passes_group 0 k fun _ k' => .refl k'

theorem passes_references (isRange : Bool) (k : Cursor) :
    Passes k (references isRange k).next := by
  rw [references_eq isRange 0]
  refine passes_group 0 k fun _ k' => ?_
  cases isRange with
  | true => exact passes_keys _ k'
  | false => exact .refl k'

theorem passes_citations (k : Cursor) : Passes k (citations k).next := by
  rw [citations_eq 0]
  exact (passes_skipOptions k).trans (passes_group 0 _ fun _ k' => .refl k')

theorem passes_includes (kind : IncludeKind) (k : Cursor) : Passes k (includes kind k).next :=
  (passes_skipOptions k).trans (passes_keys _ _)

theorem passes_verbatim (name : String) (opening : Span) (k : Cursor) :
    Passes k (verbatim name opening k).next := by
  have happend := Cursor.split_append (terminator name).isPrefixOf k.rest
  cases hsplit : Cursor.split (terminator name).isPrefixOf k.rest with
  | mk body after =>
      cases after with
      | nil =>
          rw [verbatim_of_nil hsplit]
          exact .inl rfl
      | cons d ds =>
          obtain ⟨after, hafter⟩ := List.isPrefixOf_iff_prefix.1 (isPrefixOf_of_split hsplit)
          rw [hsplit, ← hafter] at happend
          rw [← hafter] at hsplit
          rw [verbatim_of_found hsplit]
          refine .of_last (body ++ ("\\end\x7b".toList ++ name.toList))
            (by decide : '}' ≠ '\\') ?_
          rw [← happend, terminator]
          simp

theorem passes_opening (start : Nat) (k : Cursor) : Passes k (opening start k).next := by
  rw [opening_eq]
  refine passes_group start k fun content k' => ?_
  unfold opened
  split
  · exact .refl k'
  · split
    · exact passes_verbatim _ _ k'
    · exact .refl k'

theorem passes_closing (start : Nat) (k : Cursor) : Passes k (closing start k).next := by
  rw [closing_eq]
  refine passes_group start k fun content k' => ?_
  unfold closed
  split <;> exact .refl k'

theorem passes_heading (start level : Nat) (k : Cursor) :
    Passes k (heading start level k).next := by
  simp only [heading]
  split
  · exact (passes_skipOptions k).trans (passes_skipLayout _)
  · exact passes_skipOptions k

/-- A name has no backslash but its first character. -/
theorem passes_definedName? {k k' : Cursor} {name : Symbol}
    (h : definedName? k = some (name, k')) : Passes k k' := by
  unfold definedName? at h
  split at h
  · rename_i cs hcs
    have happend := Cursor.split_append (startsWith (!isLetter ·)) cs
    have hletters := Cursor.forall_mem_split (!isLetter ·) cs
    split at h
    · cases h
    · rename_i letters rest hne hsplit
      cases h
      rw [hsplit] at happend hletters
      obtain ⟨before, c, rfl⟩ := (List.eq_nil_or_concat letters).resolve_left hne
      have hc : c ≠ '\\' := by
        rintro rfl
        exact absurd (hletters '\\' (by simp)) (by decide)
      refine .of_last ('\\' :: before) hc ?_
      rw [hcs, ← happend]
      simp [Cursor.after]
  · cases h

theorem passes_definition (k : Cursor) : Passes k (definition k).next := by
  by_cases hbrace : ∃ body, (skipLayout k).rest = '{' :: body
  · obtain ⟨body, hbody⟩ := hbrace
    rw [definition_brace hbody]
    exact .refl k
  rw [definition_plain fun body hbody => hbrace ⟨body, hbody⟩]
  split
  · rename_i name k' hname
    exact (passes_skipLayout k).trans (passes_definedName? hname)
  · exact .refl k

theorem passes_arguments (start : Nat) (name : String) (k : Cursor) :
    Passes k (arguments start name k).next := by
  unfold arguments
  repeat' split
  · exact passes_opening start k
  · exact passes_closing start k
  · exact passes_label k
  · exact passes_includes _ k
  · exact passes_references _ k
  · exact passes_citations k
  · exact passes_heading start _ k
  · exact passes_definition k
  · exact .refl k

/-- **The scan goes on behind whole tokens**, unless it is in front of a comment. -/
theorem passes_at (offset : Nat) {c : Char} (cs : List Char) (hpercent : c ≠ '%') :
    Passes ⟨offset, c :: cs⟩ (Reading.at offset c cs).next := by
  by_cases hslash : c = '\\'
  · subst hslash
    cases cs with
    | nil => exact .inl rfl
    | cons d ds =>
        by_cases hletter : isLetter d = true
        · have hname : commandName (d :: ds) =
              ((commandName (d :: ds)).1, (commandName (d :: ds)).2) := rfl
          rw [at_letters hletter hname]
          refine Passes.trans (.inr ⟨'\\' :: (commandName (d :: ds)).1, ?_, ?_⟩)
            (passes_arguments _ _ _)
          · exact congrArg ('\\' :: ·) (commandName_append (d :: ds)).symm
          · simpa using escapes_command hletter ds []
        · rw [at_symbol hletter]
          exact .inr ⟨['\\', d], rfl, rfl⟩
  have hpassed (o : Nat) : Passes ⟨offset, c :: cs⟩ ⟨o, cs⟩ := .of_last [] hslash rfl
  by_cases hopen : c = '{'
  · subst hopen
    exact hpassed _
  by_cases hclose : c = '}'
  · subst hclose
    exact hpassed _
  · rw [at_other (by simp [hslash, hpercent, hopen, hclose])]
    exact hpassed _

end Reading

/-! ## The scan -/

/-- **The scan begins a comment only at a percent sign that is a token.** -/
theorem plain_mem_tokens_of_visits {k : Cursor} {o : Nat} {after : List Char}
    (h : Visits k ⟨o, '%' :: after⟩) : .plain '%' ∈ tokens k.rest := by
  rw [plain_mem_tokens_iff (by decide) (by decide)]
  generalize hthere : (⟨o, '%' :: after⟩ : Cursor) = there at h
  induction h with
  | here k =>
      subst hthere
      exact ⟨[], after, rfl, rfl⟩
  | @next offset c cs k _ ih =>
      by_cases hpercent : c = '%'
      · subst hpercent
        exact ⟨[], cs, rfl, rfl⟩
      obtain ⟨before, after, hrest, hbefore⟩ := ih hthere
      rcases Reading.passes_at offset cs hpercent with hend | ⟨read, hread, hescapes⟩
      · rw [hend] at hrest
        cases before <;> cases hrest
      · refine ⟨read ++ before, after, by rw [hread, hrest, List.append_assoc], ?_⟩
        rw [escapes_append, hescapes, hbefore]

/-- A command that is in no table. -/
def Command.takesNothing (name : String) : Bool :=
  name ∉ ["begin", "end", "label"] && !takesOptions name && !isLabelReference name &&
    !isDefinition name

theorem Reading.arguments_of_takesNothing {name : String}
    (h : Command.takesNothing name = true) (start : Nat) (k : Cursor) :
    arguments start name k = .nothing k := by
  simp only [Command.takesNothing, Command.takesOptions, Bool.and_eq_true, Bool.not_eq_true',
    Bool.or_eq_false_iff, decide_eq_true_eq, List.mem_cons, List.not_mem_nil, or_false, not_or,
    Option.isSome_eq_false_iff, Option.isNone_iff_eq_none] at h
  obtain ⟨⟨⟨⟨hbegin, hend, hlabel⟩, ⟨hkind, hcitation⟩, hlevel⟩, hreference⟩, hdefinition⟩ := h
  simp [arguments, hbegin, hend, hlabel, hkind, hreference, hcitation, hlevel, hdefinition]

/-- The commands of a text take nothing. -/
def TakesNothing (text : List Char) : Prop :=
  ∀ name, .command name ∈ tokens text → Command.takesNothing (String.ofList name) = true

/-- **Where commands take nothing, the scan goes on behind one token.** -/
theorem exists_token_at (offset : Nat) {c : Char} {cs : List Char}
    (hnothing : TakesNothing (c :: cs)) (hpercent : c ≠ '%') : ∃ token, token ≠ .plain '%' ∧
      tokens (c :: cs) = token :: tokens (Reading.at offset c cs).next.rest := by
  by_cases hslash : c = '\\'
  · subst hslash
    cases cs with
    | nil =>
        refine ⟨.command [], Token.noConfusion, ?_⟩
        rw [tokens_slash]
        exact (congrArg _ tokens_nil).symm
    | cons d ds =>
        by_cases hletter : isLetter d = true
        · have hname : commandName (d :: ds) =
              ((commandName (d :: ds)).1, (commandName (d :: ds)).2) := rfl
          have htokens := tokens_command hletter ds
          have htakes := hnothing (commandName (d :: ds)).1 (by rw [htokens]; exact .head _)
          rw [Reading.at_letters hletter hname, Reading.arguments_of_takesNothing htakes]
          exact ⟨_, Token.noConfusion, htokens⟩
        · rw [Reading.at_symbol hletter]
          exact ⟨_, Token.noConfusion, tokens_symbol (eq_false_of_ne_true hletter) ds⟩
  have hplain : Token.plain c ≠ .plain '%' := fun heq => hpercent (Token.plain.inj heq)
  refine ⟨.plain c, hplain, ?_⟩
  rw [tokens_plain hslash]
  by_cases hopen : c = '{'
  · subst hopen
    rfl
  by_cases hclose : c = '}'
  · subst hclose
    rfl
  · rw [Reading.at_other (by simp [hslash, hpercent, hopen, hclose])]
    rfl

/-- **Where commands take nothing, the scan comes to a percent sign that is a token.** -/
theorem visits_of_plain_mem_tokens {k : Cursor} (hnothing : TakesNothing k.rest)
    (h : .plain '%' ∈ tokens k.rest) : ∃ o after, Visits k ⟨o, '%' :: after⟩ := by
  induction k using scan_induction with
  | nil offset =>
      rw [tokens_nil] at h
      cases h
  | cons offset c cs ih =>
      by_cases hpercent : c = '%'
      · subst hpercent
        exact ⟨offset, cs, .here _⟩
      obtain ⟨token, hother, htokens⟩ := exists_token_at offset hnothing hpercent
      have hrest : TakesNothing (Reading.at offset c cs).next.rest := fun name hname =>
        hnothing name (by rw [htokens]; exact .tail _ hname)
      rw [htokens] at h
      obtain ⟨o, after, hvisits⟩ := ih hrest ((List.mem_cons.1 h).resolve_left hother.symm)
      exact ⟨o, after, .next hvisits⟩

end Manuscript.Latex

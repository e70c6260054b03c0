/-
# Manuscript.Proofs.Completion.Context -- what the pattern of an open group says

A line with an open group is cut in four: what stands before the backslash of the command,
its name, what stands between the name and the open brace, and the keys behind it (`Opens`).
The pattern says what a name is and what the keys end with, the key that is typed
(`OpensWith`); what stands between them may be more than the command takes, and is not told
apart here.

A line is also tried for a comment.  That no match is found tells that there is none: an
unescaped percent sign stands behind pairs of backslashes, and the pattern goes from pair to
pair (`uncommented_of_isComment`), and over nothing else (`isComment_of_uncommented`).
-/
import Manuscript.Completion.Context
import Manuscript.Proofs.Latex.Exposed
import Manuscript.Proofs.Latex.MarkupReading
import Manuscript.Proofs.Pattern.Reading

namespace Manuscript.Completion.Context

set_option autoImplicit false

open Text Pattern
open Latex (IncludeKind Uncommented isLetter)
open Latex.Markup (isCommandName)

/-! ## Comments -/

/-- The pattern of comments goes over pairs of backslashes. -/
theorem exists_steps_pairs (n : Nat) (before : Option Char) (rest : List Char) :
    ∃ before', Steps (seq (char '\\') (char '\\')).ends
      ⟨before, List.replicate (2 * n) '\\' ++ rest, []⟩ ⟨before', rest, []⟩ := by
  induction n generalizing before with
  | zero => exact ⟨before, .refl⟩
  | succ n ih =>
      obtain ⟨before', hsteps⟩ := ih (some '\\')
      refine ⟨before', .head ⟨rfl, ?_⟩ hsteps⟩
      show (List.replicate (2 * n) '\\' ++ rest).length < _
      simp [Place.left, Nat.mul_add]

/-- Text whose end is not escaped ends with pairs of backslashes. -/
theorem exists_pairs {before : List Char} (h : escapes false before = false) :
    ∃ start n, before = start ++ List.replicate (2 * n) '\\' ∧ start.getLast? ≠ some '\\' := by
  rw [escapes_eq_odd, decide_eq_false_iff_not] at h
  have hslashes : before.reverse.takeWhile (· = '\\') =
      List.replicate (before.reverse.takeWhile (· = '\\')).length '\\' :=
    List.eq_replicate_of_mem fun c hc => by simpa using List.mem_takeWhile_imp hc
  have hsplit := congrArg List.reverse
    (List.takeWhile_append_dropWhile (p := fun c => decide (c = '\\')) (l := before.reverse))
  rw [hslashes, List.reverse_append, List.reverse_replicate, List.reverse_reverse] at hsplit
  obtain ⟨n, hn⟩ : ∃ n, (before.reverse.takeWhile (· = '\\')).length = 2 * n :=
    ⟨(before.reverse.takeWhile (· = '\\')).length / 2, by omega⟩
  rw [hn] at hsplit
  refine ⟨_, n, hsplit.symm, fun hlast => ?_⟩
  have hhead := List.head?_dropWhile_not (fun c => decide (c = '\\')) before.reverse
  rw [List.getLast?_reverse] at hlast
  rw [hlast] at hhead
  exact absurd hhead (by decide)

theorem ends_pairs_ne_nil (n : Nat) (before : Option Char) (after : List Char) :
    (sequence [many (seq (char '\\') (char '\\')), char '%']).ends
      ⟨before, List.replicate (2 * n) '\\' ++ '%' :: after, []⟩ ≠ [] := by
  obtain ⟨before', hsteps⟩ := exists_steps_pairs n before ('%' :: after)
  exact seq_ne_nil (mem_many_of_steps hsteps) (List.cons_ne_nil _ _)

/-- The start of the text may stand in front of the backslashes. -/
theorem mem_ends_start (rest : List Char) :
    ⟨none, rest, []⟩ ∈ (either (assert .textStart) (noneOf ['\\'])).ends ⟨none, rest, []⟩ := by
  show _ ∈ Place.distinctFrom [] (_ :: _)
  rw [Place.distinctFrom, if_neg List.not_mem_nil]
  exact List.mem_cons_self

/-- So may a character that is no backslash. -/
theorem mem_ends_other {c : Char} (hc : c ≠ '\\') (before : Option Char) (rest : List Char) :
    ⟨some c, rest, []⟩ ∈
      (either (assert .textStart) (noneOf ['\\'])).ends ⟨before, c :: rest, []⟩ := by
  have hone : (noneOf ['\\']).ends ⟨before, c :: rest, []⟩ = [⟨some c, rest, []⟩] :=
    if_pos (CharSet.contains_complement.2 fun h =>
      hc (List.mem_singleton.1 (CharSet.contains_ofList.1 h)))
  refine mem_distinct_of_unique (List.mem_append_right _ (hone ▸ List.mem_cons_self)) ?_
  intro q hq hleft
  rcases List.mem_append.1 hq with hq | hq
  · rw [(mem_ends_assert hq).1] at hleft
    exact absurd hleft (Nat.succ_ne_self rest.length)
  · rw [hone] at hq
    exact List.mem_singleton.1 hq

/-- **A line that is no comment has no unescaped percent sign.** -/
theorem uncommented_of_isComment {line : List Char} (h : isComment line = false) :
    Uncommented line := by
  rintro before after rfl
  by_contra hescapes
  obtain ⟨start, n, rfl, hstart⟩ := exists_pairs (Bool.not_eq_true _ ▸ hescapes)
  have hnone (read rest : List Char) (hline : start ++ List.replicate (2 * n) '\\' ++ '%' :: after =
      read ++ rest) : commentPattern.ends ⟨read.getLast?.or none, rest, []⟩ = [] :=
    ends_eq_nil_of_findFrom (by simpa [isComment, isMatch, find?, ← hline] using h)
  rcases List.eq_nil_or_concat start with rfl | ⟨start, c, rfl⟩
  · exact seq_ne_nil (mem_ends_start _) (ends_pairs_ne_nil n none after) (hnone [] _ rfl)
  · have hc : c ≠ '\\' := by simpa using hstart
    refine seq_ne_nil (mem_ends_other hc _ _) (ends_pairs_ne_nil n _ after) (hnone start _ ?_)
    simp

/-- Rounds of the pattern of comments are pairs of backslashes. -/
theorem exists_pairs_of_rounds {p q : Place}
    (h : Rounds (seq (char '\\') (char '\\')).ends p q) :
    ∃ n, p.rest = List.replicate (2 * n) '\\' ++ q.rest := by
  induction h with
  | refl => exact ⟨0, rfl⟩
  | tail _ hlast ih =>
      obtain ⟨n, hn⟩ := ih
      obtain ⟨r, hfirst, hsecond⟩ := mem_ends_seq hlast
      refine ⟨n + 1, ?_⟩
      rw [hn, (mem_ends_char hfirst).1, (mem_ends_char hsecond).1, Nat.mul_succ,
        List.replicate_add, List.append_assoc]
      rfl

theorem escapes_pairs (n : Nat) : escapes false (List.replicate (2 * n) '\\') = false := by
  induction n with
  | zero => rfl
  | succ n ih =>
      rw [Nat.mul_succ, List.replicate_add, escapes_append, ih]
      rfl

/-- **A line without an unescaped percent sign is no comment.** -/
theorem isComment_of_uncommented {line : List Char} (h : Uncommented line) :
    isComment line = false := by
  rw [isComment, isMatch, Option.isSome_eq_false_iff, Option.isNone_iff_eq_none]
  cases hfind : commentPattern.find? line with
  | none => rfl
  | some m =>
      obtain ⟨front, rest, rfl, hstart, hstop⟩ := exists_of_findFrom hfind
      obtain ⟨p, hfirst, hstop⟩ := mem_ends_seq hstop
      obtain ⟨q, hpairs, hstop⟩ := mem_ends_seq hstop
      obtain ⟨r, hpercent, -⟩ := mem_ends_seq hstop
      obtain ⟨n, hn⟩ := exists_pairs_of_rounds (rounds_of_mem_many hpairs)
      rw [(mem_ends_char hpercent).1] at hn
      -- what comes before the pairs does not end with a backslash
      obtain ⟨before, hbefore, hlast⟩ : ∃ before, front ++ rest = before ++ p.rest ∧
          escapes false before = false := by
        rw [hstart] at hfirst
        rcases mem_ends_either hfirst with hfirst | hfirst
        · obtain ⟨rfl, hnone⟩ := mem_ends_assert hfirst
          have hnil : front = [] := by simpa [Assertion.holds] using hnone
          exact ⟨[], by rw [hnil], rfl⟩
        · obtain ⟨c, hrest, hc, -⟩ := mem_ends_one hfirst
          have hslash : c ≠ '\\' := by
            rintro rfl
            exact CharSet.contains_complement.1 hc
              (CharSet.contains_ofList.2 List.mem_cons_self)
          refine ⟨front ++ [c], by rw [show rest = _ from hrest]; simp, ?_⟩
          exact escapes_eq_false (by simp) (by simpa using hslash) false
      have hescapes := h (before ++ List.replicate (2 * n) '\\') r.rest (by rw [hbefore, hn]; simp)
      rw [escapes_append, hlast, escapes_pairs] at hescapes
      cases hescapes

/-! ## Open groups -/

theorem contains_commandChar {c : Char} : commandChar.contains c = true ↔ isLetter c = true := by
  have hupper : CharSet.asciiUpper.contains c = true ↔ c.isUpper = true := by
    show _ ↔ decide (c.val ≥ 'A'.val ∧ c.val ≤ 'Z'.val) = true
    simp only [CharSet.asciiUpper, CharSet.contains, Bool.and_eq_true, decide_eq_true_eq]
    exact Iff.rfl
  have hlower : CharSet.asciiLower.contains c = true ↔ c.isLower = true := by
    show _ ↔ (decide (c.val ≥ 'a'.val) && decide (c.val ≤ 'z'.val)) = true
    simp only [CharSet.asciiLower, CharSet.contains, Bool.and_eq_true, decide_eq_true_eq]
    exact Iff.rfl
  have halpha : CharSet.asciiAlpha.contains c = true ↔ c.isAlpha = true := by
    show _ ↔ (c.isUpper || c.isLower) = true
    rw [CharSet.asciiAlpha, CharSet.contains, Bool.or_eq_true, Bool.or_eq_true, hupper, hlower]
  rw [commandChar, CharSet.contains, isLetter, Bool.or_eq_true, Bool.or_eq_true, halpha,
    CharSet.contains_single, beq_iff_eq]

/-- What an open group ends with: the key that is typed, behind a comma if it is not the first. -/
structure EndsWith (keys typed : List Char) : Prop where
  plain : ∀ c ∈ keys, c ∉ ['{', '}', '\\']
  name : ∀ c ∈ typed, c ≠ ',' ∧ isBlank c = false
  last : ∃ pad, AllBlank isBlank pad ∧
    (keys = pad ++ typed ∨ ∃ earlier, keys = earlier ++ ',' :: (pad ++ typed))

theorem isCommandName_star {letters : List Char} (hne : letters ≠ [])
    (h : ∀ c ∈ letters, isLetter c = true) : isCommandName (letters ++ ['*']) = true := by
  simp only [isCommandName, Bool.and_eq_true, decide_eq_true_eq]
  refine ⟨?_, Latex.commandName_star (Latex.Markup.split_letters h (.inr rfl))⟩
  obtain ⟨c, cs, rfl⟩ := List.exists_cons_of_ne_nil hne
  exact h c List.mem_cons_self

/-- The name of a command: letters and at most one star. -/
theorem exists_of_mem_ends_name {p q : Place}
    (h : q ∈ (group 1 (seq (manyOne (one commandChar)) (optional (char '*')))).ends p) :
    ∃ command, isCommandName command = true ∧ p.rest = command ++ q.rest ∧
      q.groups.lookup 1 = some command := by
  obtain ⟨r, hr, hrest, hgroups⟩ := mem_ends_group h
  obtain ⟨s, hs, hstar⟩ := mem_ends_seq hr
  obtain ⟨letters, hne, hletters, hall, -⟩ := mem_ends_manyOne_one hs
  replace hall : ∀ c ∈ letters, isLetter c = true := fun c hc =>
    contains_commandChar.1 (hall c hc)
  obtain ⟨command, hcommand, hread⟩ : ∃ command, isCommandName command = true ∧
      p.rest = command ++ r.rest := by
    rcases mem_ends_optional hstar with rfl | hstar
    · exact ⟨letters, Latex.Markup.isCommandName_of_letters hne hall, hletters⟩
    · refine ⟨letters ++ ['*'], isCommandName_star hne hall, ?_⟩
      rw [hletters, (mem_ends_char hstar).1, List.append_assoc]
      rfl
  refine ⟨command, hcommand, by rw [hread, hrest], ?_⟩
  rw [hgroups, read_eq hread, List.lookup_cons_self]

/-- What stands in front of the last key ends with a comma. -/
theorem exists_of_mem_ends_earlier {p q : Place}
    (h : q ∈ (optional (seq (many (noneOf ['{', '}', '\\'])) (char ','))).ends p) :
    q = p ∨ ∃ earlier, p.rest = earlier ++ ',' :: q.rest ∧ ∀ c ∈ earlier, c ∉ ['{', '}', '\\'] := by
  refine (mem_ends_optional h).imp_right fun h => ?_
  obtain ⟨r, hr, hcomma⟩ := mem_ends_seq h
  obtain ⟨earlier, hearlier, hall, -⟩ := mem_ends_many_one hr
  refine ⟨earlier, by rw [hearlier, (mem_ends_char hcomma).1], fun c hc hmem => ?_⟩
  exact CharSet.contains_complement.1 (hall c hc) (CharSet.contains_ofList.2 hmem)

/-- The characters that a key in an open group may have. -/
theorem of_contains_keyChar {c : Char} (h : (CharSet.complement
    (.union (.ofList ['{', '}', ',', '\\']) .blank)).contains c = true) :
    c ∉ ['{', '}', ',', '\\'] ∧ isBlank c = false := by
  have hnone := CharSet.contains_complement.1 h
  rw [CharSet.contains, Bool.or_eq_true, CharSet.contains_ofList, not_or] at hnone
  exact ⟨hnone.1, eq_false_of_ne_true hnone.2⟩

/-- A last group of characters reads all that is left. -/
theorem lookup_of_mem_ends_last {i : Nat} {set : CharSet} {p q : Place}
    (h : q ∈ (sequence [group i (many (one set)), assert .textEnd]).ends p) :
    q.groups.lookup i = some p.rest ∧ ∀ c ∈ p.rest, set.contains c = true := by
  obtain ⟨p₁, hname, h⟩ := mem_ends_seq h
  obtain ⟨p₂, hend, h⟩ := mem_ends_seq h
  obtain rfl := List.mem_singleton.1 h
  obtain ⟨rfl, hend⟩ := mem_ends_assert hend
  obtain ⟨r, hr, hrest, hgroups⟩ := mem_ends_group hname
  obtain ⟨typed, htyped, hall, -⟩ := mem_ends_many_one hr
  have hnil : r.rest = [] := by
    rw [← hrest]
    simpa [Assertion.holds] using hend
  have hlookup : q.groups.lookup i = some typed := by
    rw [hgroups, read_eq htyped, List.lookup_cons_self]
  rw [hnil, List.append_nil] at htyped
  rw [htyped]
  exact ⟨hlookup, hall⟩

/-- The keys of an open group, up to the end of the text. -/
theorem exists_of_mem_ends_keys {p q : Place}
    (h : q ∈ (sequence [optional (seq (many (noneOf ['{', '}', '\\'])) (char ',')), blanks,
      group 3 (many (one (.complement (.union (.ofList ['{', '}', ',', '\\']) .blank)))),
      assert .textEnd]).ends p) :
    ∃ typed, q.groups.lookup 3 = some typed ∧ EndsWith p.rest typed := by
  obtain ⟨p₁, hearlier, h⟩ := mem_ends_seq h
  obtain ⟨p₂, hblanks, h⟩ := mem_ends_seq h
  obtain ⟨pad, hpad, hblank, -⟩ := mem_ends_many_one hblanks
  obtain ⟨hlookup, hall⟩ := lookup_of_mem_ends_last h
  generalize p₂.rest = typed at hpad hlookup hall
  have hname : ∀ c ∈ typed, c ∉ ['{', '}', ',', '\\'] ∧ isBlank c = false :=
    fun c hc => of_contains_keyChar (hall c hc)
  have hlast : ∀ c ∈ p₁.rest, c ∉ ['{', '}', '\\'] := by
    rw [hpad]
    refine List.forall_mem_append.2 ⟨fun c hc hmem => ?_, fun c hc hmem => (hname c hc).1 ?_⟩
    · have hno : ['{', '}', '\\'].all (!isBlank ·) = true := by decide
      have hc : isBlank c = true := hblank c hc
      simpa [hc] using List.all_eq_true.1 hno c hmem
    · have hsub : ∀ d ∈ ['{', '}', '\\'], d ∈ ['{', '}', ',', '\\'] := by simp
      exact hsub c hmem
  have hplain : ∀ c ∈ typed, c ≠ ',' ∧ isBlank c = false := fun c hc =>
    ⟨fun heq => (hname c hc).1 (by simp [heq]), (hname c hc).2⟩
  rcases exists_of_mem_ends_earlier hearlier with rfl | ⟨earlier, hrest, hall⟩
  · exact ⟨typed, hlookup, hlast, hplain, pad, hblank, .inl hpad⟩
  · refine ⟨typed, hlookup, ?_, hplain, pad, hblank, .inr ⟨earlier, by rw [hrest, hpad]⟩⟩
    rw [hrest]
    exact List.forall_mem_append.2 ⟨hall, List.forall_mem_cons.2 ⟨by decide, hlast⟩⟩

/-- **A match of the pattern, cut behind the name of the command and at the open brace.** -/
theorem exists_of_mem_ends {p q : Place} (h : q ∈ groupPattern.ends p) :
    ∃ command between keys typed, p.rest = '\\' :: (command ++ (between ++ '{' :: keys)) ∧
      q.groups.lookup 1 = some command ∧ q.groups.lookup 3 = some typed ∧
      isCommandName command = true ∧ EndsWith keys typed := by
  obtain ⟨p₁, hslash, h⟩ := mem_ends_seq h
  obtain ⟨p₂, hname, h⟩ := mem_ends_seq h
  have hkept := lookup_of_mem_ends _ (i := 1) (by decide) h
  obtain ⟨p₃, hoptions, h⟩ := mem_ends_seq h
  obtain ⟨p₄, hfirst, h⟩ := mem_ends_seq h
  obtain ⟨p₅, hblanks, h⟩ := mem_ends_seq h
  obtain ⟨p₆, hbrace, h⟩ := mem_ends_seq h
  obtain ⟨command, hcommand, hrest, hlookup⟩ := exists_of_mem_ends_name hname
  obtain ⟨typed, htyped, hkeys⟩ := exists_of_mem_ends_keys h
  obtain ⟨options, hoptions⟩ := exists_read_of_mem_ends hoptions
  obtain ⟨first, hfirst⟩ := exists_read_of_mem_ends hfirst
  obtain ⟨pad, hpad⟩ := exists_read_of_mem_ends hblanks
  refine ⟨command, options ++ (first ++ pad), p₆.rest, typed, ?_, hkept.trans hlookup, htyped,
    hcommand, hkeys⟩
  rw [(mem_ends_char hslash).1, hrest, hoptions, hfirst, hpad, (mem_ends_char hbrace).1]
  simp

/-! ## Lines -/

/-- A line that ends in an open group, cut where the match of the pattern begins, behind the name
of the command, and at the last brace. -/
structure Opens (line front command between keys : List Char) : Prop where
  cut : line = front ++ '\\' :: (command ++ (between ++ '{' :: keys))
  found : ∃ m, groupPattern.find? line = some m ∧ m.group? 1 = some command ∧
    m.start.rest = '\\' :: (command ++ (between ++ '{' :: keys))
  keys : '{' ∉ keys

/-- What stands behind the last of some characters. -/
theorem eq_of_last {d : Char} {before before' after after' : List Char}
    (h : before ++ d :: after = before' ++ d :: after') (hafter : d ∉ after)
    (hafter' : d ∉ after') : after = after' := by
  have hlast {more ds ds' : List Char} (heq : d :: ds = more ++ d :: ds') (hds : d ∉ ds) :
      ds = ds' := by
    cases more with
    | nil => exact (List.cons.inj heq).2
    | cons c more => exact absurd (by simp [(List.cons.inj heq).2]) hds
  rcases List.append_eq_append_iff.1 h with ⟨more, -, hmore⟩ | ⟨more, -, hmore⟩
  · exact hlast hmore hafter
  · exact (hlast hmore hafter').symm

theorem of_openGroup? {line typed : List Char} {name : String}
    (h : openGroup? line = some (name, typed)) : ∃ m, groupPattern.find? line = some m ∧
      ∃ command, m.group? 1 = some command ∧ name = String.ofList command ∧
        m.group? 3 = some typed := by
  obtain ⟨m, hm, h⟩ := Option.bind_eq_some_iff.1 h
  obtain ⟨command, hcommand, h⟩ := Option.bind_eq_some_iff.1 h
  refine ⟨m, hm, command, hcommand, ?_⟩
  dsimp only at h
  split at h
  · cases h
  · obtain ⟨typed', htyped, h⟩ := Option.bind_eq_some_iff.1 h
    cases h
    exact ⟨rfl, htyped⟩

/-- **Every line with an open group can be cut.** -/
theorem exists_opens {line typed : List Char} {name : String}
    (h : openGroup? line = some (name, typed)) :
    ∃ front command between keys, Opens line front command between keys := by
  obtain ⟨m, hm, -⟩ := of_openGroup? h
  obtain ⟨front, rest, hline, hstart, hstop⟩ := exists_of_findFrom hm
  obtain ⟨command, between, keys, typed', hrest, hname, -, -, hkeys⟩ := exists_of_mem_ends hstop
  refine ⟨front, command, between, keys, ?_, ⟨m, hm, hname, hrest⟩, fun hmem => ?_⟩
  · rw [hline, ← hrest, hstart]
  · exact hkeys.plain _ hmem List.mem_cons_self

/-- What the cut of a line says about the command and the keys. -/
theorem Opens.parts {line front command between keys typed : List Char} {name : String}
    (hopens : Opens line front command between keys)
    (h : openGroup? line = some (name, typed)) :
    name = String.ofList command ∧ isCommandName command = true ∧ EndsWith keys typed := by
  obtain ⟨m, hm, hcommand, hrest⟩ := hopens.found
  obtain ⟨m', hm', command', hcommand', hname, htyped⟩ := of_openGroup? h
  cases hm.symm.trans hm'
  cases hcommand.symm.trans hcommand'
  obtain ⟨-, -, -, -, hstop⟩ := exists_of_findFrom hm
  obtain ⟨command', between', keys', typed', hrest', hlookup, hlookup', hisname, hkeys⟩ :=
    exists_of_mem_ends hstop
  cases hcommand.symm.trans hlookup
  cases htyped.symm.trans hlookup'
  have hsame := List.append_cancel_left (List.cons.inj (hrest.symm.trans hrest')).2
  obtain rfl := eq_of_last hsame hopens.keys fun hmem =>
    hkeys.plain _ hmem List.mem_cons_self
  exact ⟨hname, hisname, hkeys⟩

/-- A line with a topic other than a command has an open group, and is no comment. -/
theorem of_ofLine? {line : List Char} {context : Context} (h : ofLine? line = some context)
    (htopic : context.topic ≠ .command) : isComment line = false ∧
      ∃ name, openGroup? line = some (name, context.typed) ∧
        topicOf? name = some context.topic := by
  unfold ofLine? at h
  split at h
  · cases h
  · rename_i hcomment
    refine ⟨eq_false_of_ne_true hcomment, ?_⟩
    split at h
    · rename_i name typed hgroup
      obtain ⟨topic, hname, rfl⟩ := Option.map_eq_some_iff.1 h
      exact ⟨name, hgroup, hname⟩
    · obtain ⟨typed, -, rfl⟩ := Option.map_eq_some_iff.1 h
      exact absurd rfl htopic

/-! ## What is typed -/

theorem EndsWith.suffix {keys typed : List Char} (h : EndsWith keys typed) : typed <:+ keys := by
  obtain ⟨pad, -, rfl | ⟨earlier, rfl⟩⟩ := h.last
  · exact List.suffix_append pad typed
  · exact ⟨earlier ++ ',' :: pad, by simp⟩

/-- A match of the pattern of commands: a backslash and the letters behind it. -/
theorem exists_of_find?_command {line : List Char} {m : Match}
    (h : commandPattern.find? line = some m) :
    ∃ front typed, line = front ++ '\\' :: typed ∧ (∀ c ∈ typed, isLetter c = true) ∧
      m.start.before = front.getLast? ∧ m.group? 1 = some typed := by
  obtain ⟨front, rest, rfl, hstart, hstop⟩ := exists_of_findFrom h
  obtain ⟨p, hslash, hname⟩ := mem_ends_seq hstop
  obtain ⟨hgroup, hall⟩ := lookup_of_mem_ends_last hname
  have hread := (mem_ends_char hslash).1
  rw [hstart] at hread
  refine ⟨front, p.rest, congrArg (front ++ ·) hread,
    fun c hc => contains_commandChar.1 (hall c hc), ?_, hgroup⟩
  rw [hstart, Option.or_none]

/-- The command at the end of a line begins with a backslash that comes behind no other. -/
theorem of_openCommand? {line typed : List Char} (h : openCommand? line = some typed) :
    (∀ c ∈ typed, isLetter c = true) ∧
      ∃ front, line = front ++ '\\' :: typed ∧ front.getLast? ≠ some '\\' := by
  obtain ⟨m, hm, h⟩ := Option.bind_eq_some_iff.1 h
  obtain ⟨front, typed', hline, hall, hbefore, hgroup⟩ := exists_of_find?_command hm
  split at h
  · cases h
  · rename_i hslash
    cases hgroup.symm.trans h
    exact ⟨hall, front, hline, hbefore ▸ hslash⟩

/-- The command at the end of a line is typed there. -/
theorem suffix_of_openCommand? {line typed : List Char} (h : openCommand? line = some typed) :
    typed <:+ line := by
  obtain ⟨-, front, rfl, -⟩ := of_openCommand? h
  exact ⟨front ++ ['\\'], by simp⟩

/-- The key in an open group at the end of a line is typed there. -/
theorem suffix_of_openGroup? {line typed : List Char} {name : String}
    (h : openGroup? line = some (name, typed)) : typed <:+ line := by
  obtain ⟨front, command, between, keys, hopens⟩ := exists_opens h
  obtain ⟨-, -, hkeys⟩ := hopens.parts h
  rw [hopens.cut]
  exact hkeys.suffix.trans ⟨front ++ '\\' :: (command ++ (between ++ ['{'])), by simp⟩

/-- **What is typed stands at the end of the line.** -/
theorem suffix_of_ofLine? {line : List Char} {context : Context}
    (h : ofLine? line = some context) : context.typed <:+ line := by
  unfold ofLine? at h
  split at h
  · cases h
  · split at h
    · rename_i command typed hgroup
      obtain ⟨topic, -, rfl⟩ := Option.map_eq_some_iff.1 h
      exact suffix_of_openGroup? hgroup
    · obtain ⟨typed, hcommand, rfl⟩ := Option.map_eq_some_iff.1 h
      exact suffix_of_openCommand? hcommand

end Manuscript.Completion.Context

/-
# Manuscript.Proofs.Latex.Regrouping -- what was in a group can be written in one again

A name is what was in a group, without the blanks around it.  Whatever the group was, its
content tells how it would be read in a group of its own (`Groupable`): it breaks off at no
blank line, and it is plain up to its end or up to a group or a command, from where on the
groups in it are balanced (`groupable_name`).

Written between braces again, such a name is the content of the group (`Groupable.ofBody`).
The exception is a name that takes the closing brace away: the blanks that stood behind it in
the first group may have ended a comment or followed a backslash (`Closable`).
-/
import Manuscript.Proofs.Latex.Ahead
import Manuscript.Proofs.Latex.Recovery

namespace Manuscript.Latex

set_option autoImplicit false

open Text Markup

/-! ## The closing brace -/

theorem groupBraces_append (mode : Mode) (as bs : List Char) :
    groupBraces mode (as ++ bs) = groupBraces mode as ++ groupBraces (as.foldl Mode.next mode) bs := by
  induction as generalizing mode with
  | nil => rfl
  | cons c as ih =>
      rw [List.cons_append, groupBraces, groupBraces, List.foldl_cons]
      split
      · rw [ih, List.cons_append]
      · exact ih _

/-- A brace closes a group behind what is balanced, where it is neither escaped nor in a
comment. -/
theorem untilClosing?_brace_iff {depth : Nat} {mode : Mode} {content rest : List Char} :
    untilClosing? depth mode (content ++ '}' :: rest) = some (content, '}' :: rest) ↔
      depth? depth (groupBraces mode content) = some 0 ∧ content.foldl Mode.next mode = .plain := by
  induction content generalizing depth mode with
  | nil =>
      cases mode with
      | plain => cases depth <;> simp [untilClosing?, groupBraces]
      | escaped => simp [untilClosing?, groupBraces]
      | comment => simp [untilClosing?, groupBraces]
  | cons c content ih =>
      rw [List.cons_append, List.foldl_cons, groupBraces]
      unfold untilClosing?
      by_cases hopen : mode = .plain ∧ c = '{'
      · obtain ⟨rfl, rfl⟩ := hopen
        simpa [depth?] using ih
      by_cases hclose : mode = .plain ∧ c = '}'
      · obtain ⟨rfl, rfl⟩ := hclose
        cases depth with
        | zero => simp [depth?]
        | succ depth => simpa [depth?] using ih
      · have hneither : ¬ (mode = .plain ∧ (c = '{' ∨ c = '}')) := by tauto
        simpa [hopen, hclose, hneither] using ih

/-- What has no group and no command has no brace that opens or closes. -/
theorem groupBraces_quiet {cs : List Char} (h : Quiet cs) (mode : Mode) :
    groupBraces mode cs = [] := by
  induction cs generalizing mode with
  | nil => rfl
  | cons c cs ih =>
      have hc : ¬ (c = '{' ∨ c = '}') := by
        have := h c List.mem_cons_self
        simp only [List.mem_cons, List.not_mem_nil, or_false, not_or] at this
        tauto
      rw [groupBraces, if_neg fun hbrace => hc hbrace.2]
      exact ih (fun d hd => h d (List.mem_cons_of_mem c hd)) _

theorem quiet_blanks {blanks : List Char} (h : AllBlank isBlank blanks) : Quiet blanks := by
  intro c hc hmem
  have hno : ['\\', '{', '}'].all (!isBlank ·) = true := by decide
  have hblank := List.all_eq_true.1 hno c hmem
  rw [h c hc] at hblank
  cases hblank

theorem foldl_next_blanks {blanks : List Char} (h : AllBlank isBlank blanks) :
    blanks.foldl Mode.next .plain = .plain := by
  induction blanks with
  | nil => rfl
  | cons c cs ih =>
      have hc : Mode.next .plain c = .plain := by
        unfold Mode.next
        split
        · exact absurd (h '\\' List.mem_cons_self) (by decide)
        · exact absurd (h '%' List.mem_cons_self) (by decide)
        all_goals simp_all
      rw [List.foldl_cons, hc]
      exact ih fun d hd => h d (List.mem_cons_of_mem c hd)

/-! ## Blank lines -/

theorem hasBlankLine_append (n : Nat) (front cs : List Char) :
    hasBlankLine (front.length + n) (front ++ cs) =
      (hasBlankLine front.length (front ++ cs) || hasBlankLine n cs) := by
  induction front with
  | nil => simp [hasBlankLine]
  | cons c front ih =>
      rw [List.length_cons, Nat.succ_add, List.cons_append, hasBlankLine, hasBlankLine, ih,
        Bool.or_assoc]

/-- A plain key group goes over no blank line. -/
theorem hasBlankLine_split (cs : List Char) :
    hasBlankLine (Cursor.split endsPlain cs).1.length cs = false := by
  induction cs with
  | nil => rfl
  | cons c cs ih =>
      unfold Cursor.split
      split
      · rfl
      · rename_i hstop
        simp only [endsPlain, Bool.or_eq_true, not_or, Bool.not_eq_true] at hstop
        rw [List.length_cons, hasBlankLine, hstop.2, ih]
        rfl

/-- Whether a line of a solid text is blank does not depend on what follows. -/
theorem hasBlankLine_solid {name : List Char} (h : Solid isBlank name) (as bs : List Char) :
    hasBlankLine name.length (name ++ as) = hasBlankLine name.length (name ++ bs) := by
  obtain ⟨front, c, rfl⟩ := (List.eq_nil_or_concat name).resolve_left h.nonempty
  rw [List.concat_eq_append] at h ⊢
  have hc : isBlank c = false := h.last c List.getLast?_concat
  have hbreak : (c == '\n') = false := by
    rw [beq_eq_false_iff_ne]
    rintro rfl
    exact absurd hc (by decide)
  obtain ⟨b, hb⟩ := hasBlankLine_ahead front.length front (Nat.le_refl _)
  have hend (t : List Char) : hasBlankLine (front ++ [c]).length (front ++ [c] ++ t) = b := by
    rw [List.length_append, List.length_singleton, List.append_assoc, List.singleton_append,
      hasBlankLine_append, hb _ ⟨c, t, rfl, hc⟩, hasBlankLine, hbreak]
    simp [hasBlankLine]
  rw [hend, hend]

/-! ## Names -/

/-- A text that could stand in a group. -/
structure Groupable (name : List Char) : Prop where
  solid : Solid isBlank name
  /-- No line of it is blank, whatever follows. -/
  unbroken : ∀ more, hasBlankLine name.length (name ++ more) = false
  balanced : depth? 0 (groupBraces .plain name) = some 0
  /-- A group or a command comes before any closing brace. -/
  opens : ∀ front rest, name = front ++ '}' :: rest → ∃ c ∈ front, c = '{' ∨ c = '\\'

namespace Group

/-- The content of a group is plain, or it goes from a group or a command on to the brace that
balances it. -/
theorem content_cases (brace : Nat) (body : List Char) :
    (ofBody brace body).content = (Cursor.split endsPlain body).1 ∨
      ∃ c cs rest, (c = '{' ∨ c = '\\') ∧ (Cursor.split endsPlain body).2 = c :: cs ∧
        untilClosing? 0 .plain body = some ((ofBody brace body).content, '}' :: rest) ∧
        hasBlankLine (ofBody brace body).content.length body = false := by
  have hstop := Cursor.split_stop endsPlain body
  simp only [ofBody]
  split
  · exact .inl rfl
  · exact .inl rfl
  · exact .inl rfl
  · rename_i hclose hline hnil
    cases hbalanced : balanced? brace body with
    | none => exact .inl rfl
    | some g =>
        right
        unfold balanced? at hbalanced
        split at hbalanced
        · rename_i content c' rest hfound
          obtain ⟨after, hafter⟩ := untilClosing?_rest hfound
          cases hafter
          split at hbalanced
          · cases hbalanced
          · rename_i hblank
            cases hbalanced
            obtain ⟨c, cs, hrest⟩ := List.exists_cons_of_ne_nil hnil
            rw [hrest] at hstop hclose hline
            have hc : c ≠ '}' := fun heq => hclose cs (by rw [heq])
            have hbreak : c ≠ '\n' := fun heq => hline cs (by rw [heq])
            refine ⟨c, cs, rest, ?_, hrest, hfound, eq_false_of_ne_true hblank⟩
            simpa [endsPlain, hc, hbreak] using hstop
        · cases hbalanced

section Content

variable (brace : Nat) (body : List Char)

theorem hasBlankLine_content : hasBlankLine (ofBody brace body).content.length body = false := by
  rcases content_cases brace body with hplain | ⟨-, -, -, -, -, -, hblank⟩
  · rw [hplain]
    exact hasBlankLine_split body
  · exact hblank

theorem balanced_content : depth? 0 (groupBraces .plain (ofBody brace body).content) = some 0 := by
  rcases content_cases brace body with hplain | ⟨-, -, rest, -, -, hfound, -⟩
  · rw [hplain, groupBraces_quiet (quiet_of_mem_split body), depth?_nil]
  · have hbody := (untilClosing?_append hfound).symm
    generalize (ofBody brace body).content = content at hbody hfound
    subst hbody
    exact (untilClosing?_brace_iff.1 hfound).1

/-- A group or a command is what the plain part of the content ends at. -/
theorem opens_content {front rest : List Char}
    (h : (ofBody brace body).content = front ++ '}' :: rest) :
    ∃ c ∈ front, c = '{' ∨ c = '\\' := by
  obtain ⟨after, hbody⟩ : ∃ after, body = (ofBody brace body).content ++ after :=
    ⟨_, (takes_ofBody brace body).body_eq⟩
  have hquiet : Quiet (Cursor.split endsPlain body).1 := quiet_of_mem_split body
  rcases content_cases brace body with hplain | ⟨c, cs, -, hc, hrest, -, -⟩
  · rw [← hplain, h] at hquiet
    exact absurd (by simp) (hquiet '}' (by simp))
  · have hsplit := Cursor.split_append endsPlain body
    rw [hrest] at hsplit
    have hsame : (Cursor.split endsPlain body).1 ++ c :: cs = front ++ '}' :: (rest ++ after) := by
      rw [hsplit, ← List.cons_append, ← List.append_assoc, ← h]
      exact hbody
    rcases List.append_eq_append_iff.1 hsame with ⟨more, hmore, htail⟩ | ⟨more, hmore, htail⟩
    · cases more with
      | nil => rcases hc with rfl | rfl <;> cases htail
      | cons d more =>
          obtain ⟨rfl, -⟩ := List.cons.inj htail
          exact ⟨c, by rw [hmore]; simp, hc⟩
    · cases more with
      | nil => rcases hc with rfl | rfl <;> cases htail
      | cons d more =>
          obtain ⟨rfl, -⟩ := List.cons.inj htail
          exact absurd (by simp) (hquiet '}' (by rw [hmore]; simp))

end Content

/-- **A name that is read from a group could stand in one.** -/
theorem groupable_name {brace : Nat} {body : List Char} {s : Symbol}
    (h : (ofBody brace body).name? = some s) : Groupable s.name.toList := by
  have hbody := (takes_ofBody brace body).body_eq
  have hunbroken := hasBlankLine_content brace body
  have hbalanced := balanced_content brace body
  have hopens := @opens_content brace body
  unfold name? Symbol.trimmed? at h
  generalize (ofBody brace body).content = content at h hbody hunbroken hbalanced hopens
  obtain ⟨right, hcontent, hleft, hright, hsolid⟩ := exists_trim content
  have hname : trim content ≠ [] ∧ s.name.toList = trim content := by
    split at h
    · cases h
    · rename_i hne
      cases h
      exact ⟨hne, String.toList_ofList⟩
  replace hsolid := hsolid hname.1
  rw [hname.2]
  generalize trim content = name at hcontent hsolid
  generalize content.takeWhile isBlank = left at hcontent hleft
  refine ⟨hsolid, fun more => ?_, ?_, fun front rest hclose => ?_⟩
  · rw [hbody, hcontent, List.length_append, List.append_assoc, hasBlankLine_append,
      List.length_append, List.append_assoc, hasBlankLine_append] at hunbroken
    rw [hasBlankLine_solid hsolid more]
    exact (Bool.or_eq_false_iff.1 (Bool.or_eq_false_iff.1 hunbroken).2).1
  · rw [hcontent, groupBraces_append, groupBraces_append, groupBraces_quiet (quiet_blanks hleft),
      groupBraces_quiet (quiet_blanks hright), foldl_next_blanks hleft, List.nil_append,
      List.append_nil] at hbalanced
    exact hbalanced
  · obtain ⟨c, hmem, hc⟩ := @hopens (left ++ front) (rest ++ right)
      (by rw [hcontent, hclose]; simp)
    refine ⟨c, (List.mem_append.1 hmem).resolve_left fun hblank => ?_, hc⟩
    have := hleft c hblank
    rcases hc with rfl | rfl <;> exact absurd this (by decide)

end Group

/-! ## Names between braces -/

/-- A brace behind the text closes the group that it stands in: no group and no command comes
before it, or it is neither escaped nor in a comment. -/
def Closable (name : List Char) : Prop :=
  (∀ c ∈ name, c ≠ '{' ∧ c ≠ '\\') ∨ name.foldl Mode.next .plain = .plain

instance (name : List Char) : Decidable (Closable name) :=
  @instDecidableOr _ _ (List.decidableBAll _ name) inferInstance

/-- A plain key group goes over what has no group, no command and no blank line. -/
theorem split_endsPlain {front rest : List Char} (hquiet : Quiet front)
    (hunbroken : hasBlankLine front.length (front ++ rest) = false)
    (hrest : endsPlain rest = true) :
    Cursor.split endsPlain (front ++ rest) = (front, rest) := by
  refine Cursor.split_of_forall (fun c cs hsuffix => ?_) (.inr hrest)
  obtain ⟨before, rfl⟩ := hsuffix
  have hc := hquiet c (by simp)
  simp only [List.mem_cons, List.not_mem_nil, or_false, not_or] at hc
  rw [List.length_append, List.append_assoc, hasBlankLine_append, List.length_cons,
    List.cons_append, hasBlankLine] at hunbroken
  have hline := (Bool.or_eq_false_iff.1 (Bool.or_eq_false_iff.1 hunbroken).2).1
  simp [endsPlain, hc, hline]

/-- What is not plain is plain up to a group or a command. -/
theorem Groupable.exists_opening {name : List Char} (h : Groupable name) (hquiet : ¬ Quiet name) :
    ∃ front c cs, name = front ++ c :: cs ∧ Quiet front ∧ (c = '{' ∨ c = '\\') := by
  have hsplit := List.takeWhile_append_dropWhile (p := (· ∉ ['\\', '{', '}'])) (l := name)
  have hfront : Quiet (name.takeWhile (· ∉ ['\\', '{', '}'])) := by
    intro c hc
    simpa using List.mem_takeWhile_imp hc
  have hhead := List.head?_dropWhile_not (· ∉ ['\\', '{', '}']) name
  generalize name.takeWhile (· ∉ ['\\', '{', '}']) = front at hsplit hfront
  generalize name.dropWhile (· ∉ ['\\', '{', '}']) = rest at hsplit hhead
  cases rest with
  | nil =>
      rw [List.append_nil] at hsplit
      exact absurd (hsplit ▸ hfront) hquiet
  | cons c cs =>
      refine ⟨front, c, cs, hsplit.symm, hfront, ?_⟩
      have hspecial : c ∈ ['\\', '{', '}'] := not_not.1 (of_decide_eq_false hhead)
      simp only [List.mem_cons, List.not_mem_nil, or_false] at hspecial
      rcases hspecial with hc | hc | rfl
      · exact .inr hc
      · exact .inl hc
      · obtain ⟨d, hd, hspecial⟩ := h.opens front cs hsplit.symm
        exact absurd (by rcases hspecial with rfl | rfl <;> simp) (hfront d hd)

/-- The brace behind a name that could stand in a group balances the one in front of it. -/
theorem Groupable.balanced? {name : List Char} (h : Groupable name)
    (hmode : name.foldl Mode.next .plain = .plain) (brace : Nat) (more : List Char) :
    Group.balanced? brace (name ++ '}' :: more) = some (.closedBy brace name more) := by
  have hfound : untilClosing? 0 .plain (name ++ '}' :: more) = _ :=
    untilClosing?_brace_iff.2 ⟨h.balanced, hmode⟩
  rw [Group.balanced?_some hfound, h.unbroken, if_neg Bool.false_ne_true]

/-- **A name that could stand in a group is read from one**, if the brace behind it closes it. -/
theorem Groupable.ofBody {name : List Char} (h : Groupable name) (hclosable : Closable name)
    (brace : Nat) (more : List Char) :
    Group.ofBody brace (name ++ '}' :: more) = .closedBy brace name more := by
  have hunbroken := h.unbroken ('}' :: more)
  by_cases hquiet : Quiet name
  · rw [Group.ofBody, split_endsPlain hquiet hunbroken (by simp [endsPlain])]
    rfl
  · obtain ⟨front, c, cs, rfl, hfront, hc⟩ := h.exists_opening hquiet
    have hmode : (front ++ c :: cs).foldl Mode.next .plain = .plain := by
      refine hclosable.resolve_left fun hnone => ?_
      have := hnone c (by simp)
      tauto
    have hbalanced := h.balanced? hmode brace more
    rw [List.append_assoc, List.cons_append] at hbalanced ⊢
    have hplain : Cursor.split endsPlain (front ++ c :: (cs ++ '}' :: more)) =
        (front, c :: (cs ++ '}' :: more)) := by
      refine split_endsPlain hfront ?_ (by rcases hc with rfl | rfl <;> simp [endsPlain])
      rw [List.length_append, List.append_assoc, hasBlankLine_append] at hunbroken
      exact (Bool.or_eq_false_iff.1 hunbroken).1
    rw [Group.ofBody, hplain]
    rcases hc with rfl | rfl
    · rw [hbalanced]
      rfl
    · rw [hbalanced]
      rfl

/-! ## The labels of a text -/

namespace Reading

theorem notMem_of_key? {events : List Event} (h : events.filterMap Event.key? = []) {s : Symbol} :
    .label s ∉ events := fun hs =>
  Option.some_ne_none s (List.filterMap_eq_nil_iff.1 h (.label s) hs)

theorem label_notMem_keys {event : Symbol → Event} (hevent : ∀ t s, event t ≠ .label s) (k : Cursor)
    (s : Symbol) : .label s ∉ (keys event k).events := by
  unfold keys
  split
  · rename_i g hg
    rw [List.mem_append, not_or]
    refine ⟨notMem_of_key? (key?_faults g), fun hs => ?_⟩
    obtain ⟨t, -, ht⟩ := List.mem_map.1 hs
    exact hevent t s ht
  · exact List.not_mem_nil

/-- A label is the name of the group behind its command. -/
theorem exists_group_of_mem_arguments {start : Nat} {name : String} {k : Cursor} {s : Symbol}
    (h : .label s ∈ (arguments start name k).events) :
    ∃ g, Group.read? k = some g ∧ g.name? = some s := by
  unfold arguments at h
  repeat' split at h
  · exact absurd h (notMem_of_key? (key?_opening start k))
  · exact absurd h (notMem_of_key? (key?_closing start k))
  · unfold label at h
    split at h
    · rename_i g hg
      rcases List.mem_append.1 h with h | h
      · exact absurd h (notMem_of_key? (key?_faults g))
      · obtain ⟨t, ht, hs⟩ := Option.map_eq_some_iff.1 (Option.mem_toList.1 h)
        cases hs
        exact ⟨g, hg, ht⟩
    · cases h
  · exact absurd h (label_notMem_keys (fun _ _ => by simp) _ s)
  · unfold references at h
    split at h
    · rename_i g hg
      rcases List.mem_append.1 h with h | h
      · rcases List.mem_append.1 h with h | h
        · exact absurd h (notMem_of_key? (key?_faults g))
        · obtain ⟨t, -, ht⟩ := List.mem_map.1 h
          cases ht
      · split at h
        · exact absurd h (label_notMem_keys (fun _ _ => by simp) _ s)
        · cases h
    · cases h
  · unfold citations at h
    split at h
    · rename_i g hg
      rcases List.mem_append.1 h with h | h
      · exact absurd h (notMem_of_key? (key?_faults g))
      · obtain ⟨t, -, ht⟩ := List.mem_map.1 h
        cases ht
    · cases h
  · exact absurd h (notMem_of_key? (key?_heading start _ k))
  · exact absurd h (notMem_of_key? (key?_definition k))
  · cases h

end Reading

/-- **The labels of a text could stand in groups.** -/
theorem groupable_of_mem_scan {k : Cursor} {s : Symbol} (h : .label s ∈ scan k) :
    Groupable s.name.toList := by
  induction k using scan_induction with
  | nil offset =>
      rw [scan_nil] at h
      cases h
  | cons offset c cs ih =>
      rw [scan_cons] at h
      rcases List.mem_append.1 h with h | h
      · rcases Reading.at_cases offset c cs with ⟨-, name, rest, -, -, hread⟩ | ⟨-, hread⟩ | ⟨-, hread⟩ |
          hread
        · rw [hread] at h
          rcases List.mem_cons.1 h with h | h
          · cases h
          · obtain ⟨g, hg, hname⟩ := Reading.exists_group_of_mem_arguments h
            obtain ⟨layout, body, -, rfl, -⟩ := Group.exists_of_read? hg
            exact Group.groupable_name hname
        all_goals
          rw [hread] at h
          simp at h
      · exact ih h

theorem groupable_of_mem_labelDefinitions {text : String} {s : Symbol}
    (h : s ∈ (analyze text).labelDefinitions) : Groupable s.name.toList := by
  obtain ⟨e, he, hlabel⟩ := List.mem_filterMap.1 h
  cases e <;> cases hlabel
  exact groupable_of_mem_scan he

/-! ## Referring to a name -/

/-- A name without commas is the one key of its group. -/
theorem namesFrom_name {name : List Char} (h : Solid isBlank name) (hcomma : ',' ∉ name)
    (offset : Nat) : namesFrom offset (betweenCommas name) = [Symbol.ofText offset name] := by
  have hno : AllBlank isBlank [] := List.forall_mem_nil _
  have htrim := trimmed?_of_solid hno h hno offset
  rw [List.nil_append, List.append_nil] at htrim
  rw [betweenCommas_last hcomma, namesFrom, htrim]
  rfl

/-- **A reference to a name, and then the text**, which is read as before. -/
theorem scan_reference {name : List Char} (h : Groupable name) (hclosable : Closable name)
    (hcomma : ',' ∉ name) (rest : List Char) :
    scan ⟨0, called "ref" ++ '{' :: (name ++ '}' :: '\n' :: rest)⟩ =
      .command "ref" :: .reference (Symbol.ofText 5 name) ::
        (scan ⟨0, rest⟩).map (Event.shift (utf8Length name + 7)) := by
  have hread : ∀ start offset body, Reading.arguments start "ref" ⟨offset, '{' :: body⟩ =
      .group (fun offset content => (namesFrom offset (betweenCommas content)).map .reference)
        (fun _ _ k => .nothing k) start ⟨offset, '{' :: body⟩ := by
    intro start offset body
    rw [arguments_reference (by decide), show Command.isLabelRange "ref" = false by decide]
    exact Reading.references_eq false start _
  have hnext : scan ⟨4 + 1 + utf8Length name + 1, '\n' :: rest⟩ =
      (scan ⟨0, rest⟩).map (Event.shift (utf8Length name + 7)) := by
    rw [scan_prose (by decide), ← shift_scan]
    congr 2
    show 4 + 1 + utf8Length name + 1 + 1 = utf8Length name + 7 + 0
    omega
  rw [scan_keyGroup (by decide) hread (h.ofBody hclosable _ ('\n' :: rest))]
  show _ :: ([] ++ ((namesFrom 5 (betweenCommas name)).map Event.reference ++
    scan ⟨4 + 1 + utf8Length name + 1, '\n' :: rest⟩)) = _
  rw [namesFrom_name h.solid hcomma, hnext]
  rfl

/-- What a reference in front of a text adds to the labels of the text. -/
theorem analyze_reference {name : String} (h : Groupable name.toList)
    (hclosable : Closable name.toList) (hcomma : ',' ∉ name.toList) (text : String) :
    let s := analyze ("\\ref\x7b" ++ name ++ "\x7d\n" ++ text)
    let n := utf8Length name.toList + 7
    s.labelReferences =
        ⟨name, ⟨5, 5 + utf8Length name.toList⟩⟩ :: (analyze text).labelReferences.map (.shift n) ∧
      s.labelDefinitions = (analyze text).labelDefinitions.map (.shift n) := by
  have htext : ("\\ref\x7b" ++ name ++ "\x7d\n" ++ text).toList =
      called "ref" ++ '{' :: (name.toList ++ '}' :: '\n' :: text.toList) := by
    simp [called]
  have hshift : Structure.ofEvents ((scan ⟨0, text.toList⟩).map
      (Event.shift (utf8Length name.toList + 7))) =
        (analyze text).shift (utf8Length name.toList + 7) := Structure.shift_ofEvents _ _
  have hreferences := congrArg Structure.labelReferences hshift
  have hdefinitions := congrArg Structure.labelDefinitions hshift
  dsimp only
  rw [analyze, Cursor.ofString, htext, scan_reference h hclosable hcomma]
  refine ⟨?_, hdefinitions⟩
  rw [← String.ofList_toList (s := name), String.toList_ofList]
  exact congrArg (Symbol.ofText 5 name.toList :: ·) hreferences

end Manuscript.Latex

/-
# Manuscript.Proofs.Latex.Exposed -- what the scan does not read over

The scan comes to a command unless something before the command reads over it: a key group,
an optional argument, a verbatim body, or a definition that takes the command for the name
it defines (`Exposed`).  A backslash in front of the command, and a comment, read over it
too; that is told by the text before the command alone.

The scan is followed up to the command.  It stands in front of it (`Faces`), and every
reader either goes on in front of it or is one of the four (`faces_arguments`).  So a
command that is exposed is visited (`visits_of_exposed`).  The first command of a text always
is (`exposed_of_not_mem`).
-/
import Manuscript.Proofs.Latex.Outline

namespace Manuscript.Latex

set_option autoImplicit false

open Text

/-! ## Text without comments -/

/-- No percent sign begins a comment. -/
def Uncommented (w : List Char) : Prop :=
  ∀ before after, w = before ++ '%' :: after → escapes false before = true

theorem Uncommented.right {read w : List Char} (h : Uncommented (read ++ w))
    (hread : escapes false read = false) : Uncommented w := by
  rintro before after rfl
  have hescapes := h (read ++ before) after (List.append_assoc _ _ _).symm
  rwa [escapes_append, hread] at hescapes

theorem Uncommented.mode {w : List Char} (h : Uncommented w) (hescapes : escapes false w = false) :
    w.foldl Mode.next .plain = .plain := by
  -- a percent sign behind a backslash is escaped, so no mode is that of a comment
  have hmode : ∀ (w : List Char) (escaped : Bool),
      (∀ before after, w = before ++ '%' :: after → escapes escaped before = true) →
      w.foldl Mode.next (if escaped then .escaped else .plain) =
        if escapes escaped w then .escaped else .plain := by
    intro w
    induction w with
    | nil => intro escaped _; rfl
    | cons c w ih =>
        intro escaped h
        rw [escapes_cons, ← ih _ fun before after heq => ?_, List.foldl_cons]
        · cases escaped with
          | true => rfl
          | false =>
              by_cases hslash : c = '\\'
              · subst hslash
                rfl
              have hpercent : c ≠ '%' := by
                rintro rfl
                cases h [] w rfl
              simp only [Bool.false_eq_true, if_false, Mode.next_plain hslash hpercent, hslash,
                decide_false, Bool.and_false]
        · rw [← escapes_cons]
          exact h (c :: before) after (by rw [heq]; rfl)
  have hplain := hmode w false h
  rwa [hescapes] at hplain

/-! ## In front of a place -/

/-- A place in front of another, with whole tokens and no comment between them. -/
inductive Faces (there : Cursor) : Cursor → Prop where
  | mk {o : Nat} {w : List Char} : Uncommented w → escapes false w = false →
      o + utf8Length w = there.offset → Faces there ⟨o, w ++ there.rest⟩

theorem utf8Length_eq_zero {w : List Char} (h : utf8Length w = 0) : w = [] := by
  cases w with
  | nil => rfl
  | cons c w =>
      have hpos := c.utf8Size_pos
      rw [utf8Length_cons] at h
      omega

/-- What a text without backslashes reads ends in front of a backslash. -/
theorem exists_append_of_not_mem {w read rest cs : List Char} (hread : '\\' ∉ read)
    (h : w ++ '\\' :: cs = read ++ rest) : ∃ w', w = read ++ w' := by
  rcases List.append_eq_append_iff.1 h with ⟨more, hmore, hcs⟩ | ⟨w', hw, -⟩
  · cases more with
    | nil => exact ⟨[], by rw [hmore, List.append_nil, List.append_nil]⟩
    | cons c more =>
        obtain ⟨rfl, -⟩ := List.cons.inj hcs
        exact absurd (by simp [hmore]) hread
  · exact ⟨w', hw⟩

/-- An optional argument ends with its bracket, whatever follows. -/
theorem of_untilBracket? {depth : Nat} {escaped : Bool} {cs read rest : List Char}
    (h : untilBracket? depth escaped cs = some (read, rest)) : read.getLast? = some ']' ∧
      ∀ more, untilBracket? depth escaped (cs ++ more) = some (read, rest ++ more) := by
  cases ahead_untilBracket? depth escaped cs with
  | failed hnone =>
      have hnil := hnone [] trivial
      rw [List.append_nil, h] at hnil
      cases hnil
  | found hcs hlast hfound =>
      have hnil := hfound [] trivial
      rw [List.append_nil, List.append_nil, h] at hnil
      cases hnil
      exact ⟨hlast, fun more => hfound more trivial⟩
  | onward hg honward =>
      obtain ⟨depth', rfl⟩ := hg
      have hnil := honward [] trivial
      rw [List.append_nil, h] at hnil
      cases hnil

namespace Faces

variable {there k k' : Cursor} {cs read : List Char}

theorem offset_le (h : Faces there k) : k.offset ≤ there.offset := by
  cases h with
  | mk _ _ ho => exact Nat.le.intro ho

/-- **Whole tokens are read up to a place that is not behind the other.** -/
theorem on (read : List Char) (h : Faces there k) (hk : k.rest = read ++ k'.rest)
    (ho : k'.offset = k.offset + utf8Length read) (hescapes : escapes false read = false)
    (hle : k'.offset ≤ there.offset) : Faces there k' := by
  cases h with
  | @mk o w hcomment hw hedge =>
      obtain ⟨offset, rest⟩ := k'
      dsimp only at hk ho hle
      have hend : ∃ w', w = read ++ w' ∧ rest = w' ++ there.rest := by
        rcases List.append_eq_append_iff.1 hk with ⟨more, hmore, hrest⟩ | ⟨w', hw', hrest⟩
        · rw [hmore, utf8Length_append] at ho
          obtain rfl := utf8Length_eq_zero (show utf8Length more = 0 by omega)
          exact ⟨[], by rw [hmore, List.append_nil, List.append_nil], hrest.symm⟩
        · exact ⟨w', hw', hrest⟩
      obtain ⟨w', rfl, rfl⟩ := hend
      rw [escapes_append, hescapes] at hw
      rw [utf8Length_append, ← Nat.add_assoc] at hedge
      exact .mk (hcomment.right hescapes) hw (by rw [ho]; exact hedge)

theorem eq_of_offset (h : Faces there k) (hoffset : k.offset = there.offset) : k = there := by
  cases h with
  | @mk o w _ _ hedge =>
      dsimp only at hoffset
      obtain rfl := utf8Length_eq_zero (show utf8Length w = 0 by omega)
      rw [List.nil_append, hoffset]

/-- A character in front of the place. -/
theorem exists_cons {o : Nat} {c : Char} {rest : List Char} (h : Faces there ⟨o, c :: rest⟩)
    (ho : o ≠ there.offset) : ∃ w, Uncommented (c :: w) ∧ escapes false (c :: w) = false ∧
      o + c.utf8Size + utf8Length w = there.offset ∧ rest = w ++ there.rest := by
  generalize hk : (⟨o, c :: rest⟩ : Cursor) = k at h
  cases h with
  | @mk o' w hcomment hw hedge =>
      obtain ⟨rfl, hrest⟩ := Cursor.mk.inj hk
      cases w with
      | nil => exact absurd hedge ho
      | cons d w =>
          obtain ⟨rfl, htail⟩ := List.cons.inj hrest
          rw [utf8Length_cons, ← Nat.add_assoc] at hedge
          exact ⟨w, hcomment, hw, hedge, htail⟩

/-- The place is not at the end of the text. -/
theorem lt_end (hthere : there.rest = '\\' :: cs) (h : Faces there k) :
    there.offset < k.offset + utf8Length k.rest := by
  cases h with
  | mk _ _ hedge =>
      have hpos := ('\\').utf8Size_pos
      rw [hthere]
      dsimp only
      rw [utf8Length_append, utf8Length_cons]
      omega

/-- Another command ends in front of the place. -/
theorem command (hthere : there.rest = '\\' :: cs) {o : Nat} {rest : List Char}
    (h : Faces there ⟨o, '\\' :: (read ++ rest)⟩) (ho : o ≠ there.offset) (hne : read ≠ [])
    (hread : '\\' ∉ read) : Faces there ⟨o + 1 + utf8Length read, rest⟩ := by
  obtain ⟨w, -, -, hedge, hrest⟩ := h.exists_cons ho
  have hescapes : escapes false ('\\' :: read) = false := by
    obtain ⟨c, more, rfl⟩ := List.exists_cons_of_ne_nil hne
    rw [List.mem_cons, not_or] at hread
    simpa [escapes_cons] using escapes_of_not_mem hread.2
  have hsize : Char.utf8Size '\\' = 1 := rfl
  rw [hthere] at hrest
  obtain ⟨w', rfl⟩ := exists_append_of_not_mem hread hrest.symm
  rw [hsize, utf8Length_append] at hedge
  refine h.on ('\\' :: read) rfl ?_ hescapes ?_
  · rw [utf8Length_cons, hsize, ← Nat.add_assoc]
  · dsimp only
    omega

/-! ### Readers -/

theorem skipLayout (hthere : there.rest = '\\' :: cs) (h : Faces there k) :
    Faces there (skipLayout k) := by
  cases h with
  | @mk o w hcomment hw hedge =>
      obtain ⟨read, w', rfl, hlayout, hread⟩ : ∃ read w', w = read ++ w' ∧
          afterLayout false (w ++ there.rest) = (read, w' ++ there.rest) ∧
          escapes false read = false := by
        cases ahead_afterLayout false w with
        | failed hnone => exact absurd (hnone [] trivial) (Option.some_ne_none _)
        | found hw' hread hfound =>
            exact ⟨_, _, hw', Option.some.inj (hfound _ trivial), hread.2 false (.inr rfl)⟩
        | onward hg honward =>
            obtain ⟨comment, rfl, hmode⟩ := hg
            have hplain : comment = false := by
              rw [show Mode.ofComment false = .plain from rfl, hcomment.mode hw] at hmode
              cases comment with
              | false => rfl
              | true => cases hmode
            subst hplain
            have hstop : afterLayout false there.rest = ([], there.rest) := by
              rw [hthere]
              rfl
            refine ⟨w, [], (List.append_nil w).symm, ?_, hw⟩
            rw [Option.some.inj (honward _ trivial), hstop]
            simp
      have hgoes : Latex.skipLayout ⟨o, read ++ w' ++ there.rest⟩ =
          ⟨o + utf8Length read, w' ++ there.rest⟩ := by
        rw [Latex.skipLayout, hlayout]
        rfl
      rw [hgoes]
      refine (Faces.mk hcomment hw hedge).on read (List.append_assoc _ _ _) rfl hread ?_
      rw [← hedge, utf8Length_append]
      dsimp only
      omega

theorem option? (hthere : there.rest = '\\' :: cs) (h : Faces there k)
    (hoption : Latex.option? k = some k')
    (hhas : ¬ Span.Has ⟨(Latex.skipLayout k).offset, k'.offset⟩ there.offset) : Faces there k' := by
  have hhere := h.skipLayout hthere
  have hle := hhere.offset_le
  simp only [Latex.option?] at hoption
  split at hoption
  · rename_i inside hinside
    obtain ⟨⟨read, rest⟩, hread, rfl⟩ := Option.map_eq_some_iff.1 hoption
    refine hhere.on ('[' :: read) ?_ rfl (escapes_eq_false (List.cons_ne_nil _ _) ?_ false) ?_
    · rw [hinside, ← untilBracket?_append hread]
      rfl
    · rw [List.getLast?_cons, (of_untilBracket? hread).1]
      simp
    · by_contra hlt
      exact hhas ⟨hle, Nat.lt_of_not_le hlt⟩
  · cases hoption

theorem skipOptions (hthere : there.rest = '\\' :: cs) (h : Faces there k)
    (hspares : Spares k there.offset) : Faces there (Latex.skipOptions k) := by
  induction k using Latex.skipOptions.induct with
  | case1 k k' hoption ih =>
      rw [skipOptions_of_some hoption]
      exact ih (h.option? hthere hoption (hspares _ (.first hoption)))
        fun s hs => hspares s (.later hoption hs)
  | case2 k hnone => rwa [skipOptions_of_none hnone]

/-- A group that is given up holds no command. -/
theorem quiet_of_open {brace : Nat} {body : List Char}
    (h : (Group.ofBody brace body).closed = false) : Quiet (Group.ofBody brace body).content := by
  have hquiet : Quiet (Cursor.split endsPlain body).1 := quiet_of_mem_split body
  revert h
  simp only [Group.ofBody]
  split
  · intro h
    cases h
  · exact fun _ => hquiet
  · exact fun _ => hquiet
  · cases hbalanced : Group.balanced? brace body with
    | none => exact fun _ => hquiet
    | some g =>
        obtain ⟨content, rest, -, rfl⟩ := Group.exists_of_balanced? hbalanced
        intro h
        cases h

/-- A group that does not hold the command does not end behind it: the command is no brace. -/
theorem next_le (hthere : there.rest = '\\' :: cs) {brace : Nat} {body : List Char}
    (h : Faces there ⟨brace, '{' :: body⟩) {g : Group} (htakes : g.Takes brace body)
    (hhas : ¬ g.Has there.offset) : g.next.offset ≤ there.offset := by
  obtain ⟨hbrace, hcontent, hnext⟩ := htakes
  have hne : brace ≠ there.offset := by
    intro heq
    have hplace := congrArg Cursor.rest (h.eq_of_offset heq)
    rw [hthere] at hplace
    cases hplace
  obtain ⟨w, -, -, hedge, hbody⟩ := h.exists_cons hne
  have hinside : g.inside = brace + 1 := by rw [Group.inside, hbrace]
  have hsize : Char.utf8Size '{' = 1 := rfl
  rw [hsize] at hedge
  by_contra hlt
  have hcover : ¬ there.offset < g.inside + utf8Length g.content := fun hcover =>
    hhas ⟨by rw [hinside, ← hedge]; exact Nat.le_add_right _ _, hcover⟩
  rw [hinside] at hcover
  rw [hnext] at hlt
  cases hclosed : g.closed with
  | false =>
      have hclosing : g.closing = [] := by rw [Group.closing, hclosed, if_neg Bool.false_ne_true]
      rw [hclosing, utf8Length_nil] at hlt
      omega
  | true =>
      have hclosing : g.closing = ['}'] := by rw [Group.closing, hclosed, if_pos rfl]
      rw [hclosing] at hlt hcontent
      have hlength : utf8Length ['}'] = 1 := rfl
      rw [hlength] at hlt
      have hsplit := append_inj_of_utf8Length (hbody.symm.trans hcontent) (by omega)
      rw [hthere] at hsplit
      cases hsplit.2

/-- A group that does not hold the command ends in front of it. -/
theorem read? (hthere : there.rest = '\\' :: cs) (h : Faces there k) {g : Group}
    (hread : Group.read? k = some g) (hhas : ¬ g.Has there.offset) : Faces there g.next := by
  have hhere := h.skipLayout hthere
  simp only [Group.read?] at hread
  split at hread
  · rename_i body hbody
    cases hread
    generalize hbrace : (Latex.skipLayout k).offset = brace at hhas ⊢
    have hquiet := @quiet_of_open brace body
    obtain ⟨hbrace', hcontent, hnext⟩ := Group.takes_ofBody brace body
    generalize Group.ofBody brace body = g at *
    have hescapes : escapes false ('{' :: (g.content ++ g.closing)) = false := by
      unfold Group.closing
      cases hclosed : g.closed with
      | true =>
          rw [if_pos rfl, ← List.cons_append]
          exact escapes_eq_false (by simp) (by rw [List.getLast?_concat]; simp) false
      | false =>
          refine escapes_of_not_mem fun hmem => ?_
          rw [if_neg Bool.false_ne_true, List.append_nil] at hmem
          rcases List.mem_cons.1 hmem with heq | hmem
          · revert heq
            decide
          · exact hquiet hclosed _ hmem (by simp)
    refine hhere.on ('{' :: (g.content ++ g.closing)) ?_ ?_ hescapes ?_
    · rw [hbody, hcontent]
      simp
    · rw [hnext, hbrace, utf8Length_cons, utf8Length_append, show Char.utf8Size '{' = 1 from rfl]
      omega
    · have hhere' : Faces there ⟨brace, '{' :: body⟩ := by
        rw [← hbrace, ← hbody]
        exact hhere
      exact next_le hthere hhere' ⟨hbrace', hcontent, hnext⟩ hhas
  · cases hread

end Faces

/-! ## Commands -/

/-- The offset is in a verbatim body, or in what ends it. -/
def InVerbatim (k : Cursor) (offset : Nat) : Prop :=
  ∃ here g symbol start, Comes k "begin" here ∧ Group.named? here = some (g, symbol) ∧
    Command.isVerbatim symbol.name = true ∧
    Span.Has ⟨g.next.offset, (Reading.opening start here).next.offset⟩ offset

/-- A definition takes what stands at the offset for the name that it defines. -/
def Defines (k : Cursor) (offset : Nat) : Prop :=
  ∃ name here, Comes k name here ∧ Command.isDefinition name = true ∧
    (skipLayout here).offset = offset

/-- Nothing that the scan comes to reads over the offset. -/
structure Exposed (k : Cursor) (offset : Nat) : Prop where
  keys : ¬ InKeys k offset
  option : ¬ InOption k offset
  verbatim : ¬ InVerbatim k offset
  defined : ¬ Defines k offset

theorem Exposed.next {offset n : Nat} {d : Char} {cs : List Char}
    (h : Exposed ⟨offset, d :: cs⟩ n) : Exposed (Reading.at offset d cs).next n where
  keys := fun hkeys => h.keys hkeys.next
  option := fun hoption => h.option hoption.next
  verbatim := fun ⟨here, g, symbol, start, hcomes, hverbatim⟩ =>
    h.verbatim ⟨here, g, symbol, start, hcomes.next, hverbatim⟩
  defined := fun ⟨name, here, hcomes, hdefines⟩ => h.defined ⟨name, here, hcomes.next, hdefines⟩

namespace Reading

variable {there k : Cursor} {cs : List Char} {start : Nat}

theorem faces_group (hthere : there.rest = '\\' :: cs) (h : Faces there k)
    {names : Nat → List Char → List Event} {f : List Char → Nat → Cursor → Reading}
    (hhas : ∀ g ∈ Group.read? k, ¬ g.Has there.offset)
    (hf : ∀ g, Group.read? k = some g → Faces there g.next →
      Faces there (f g.content start g.next).next) : Faces there (group names f start k).next := by
  cases hread : Group.read? k with
  | none => rwa [group_of_none hread]
  | some g =>
      rw [group_of_read? hread]
      exact hf g hread (h.read? hthere hread (hhas g hread))

theorem faces_keys (hthere : there.rest = '\\' :: cs) (h : Faces there k) (event : Symbol → Event)
    (hhas : ∀ g ∈ Group.read? k, ¬ g.Has there.offset) : Faces there (keys event k).next := by
  rw [keys_eq event 0]
  exact faces_group hthere h hhas fun _ _ hnext => hnext

theorem faces_label (hthere : there.rest = '\\' :: cs) (h : Faces there k)
    (hhas : ∀ g ∈ Group.read? k, ¬ g.Has there.offset) : Faces there (label k).next := by
  rw [label_eq 0]
  exact faces_group hthere h hhas fun _ _ hnext => hnext

theorem faces_citations (hthere : there.rest = '\\' :: cs) (h : Faces there (skipOptions k))
    (hhas : ∀ g ∈ Group.read? (skipOptions k), ¬ g.Has there.offset) :
    Faces there (citations k).next := by
  rw [citations_eq 0]
  exact faces_group hthere h hhas fun _ _ hnext => hnext

theorem faces_references (hthere : there.rest = '\\' :: cs) (h : Faces there k) {isRange : Bool}
    (hhas : ∀ g ∈ Group.read? k, ¬ g.Has there.offset ∧
      (isRange = true → ∀ g₂ ∈ Group.read? g.next, ¬ g₂.Has there.offset)) :
    Faces there (references isRange k).next := by
  rw [references_eq isRange 0]
  refine faces_group hthere h (fun g hg => (hhas g hg).1) fun g hg hnext => ?_
  cases isRange with
  | true => exact faces_keys hthere hnext _ ((hhas g hg).2 rfl)
  | false => exact hnext

theorem faces_verbatim (hthere : there.rest = '\\' :: cs) (h : Faces there k) {name : String}
    {opening : Span}
    (hhas : ¬ Span.Has ⟨k.offset, (verbatim name opening k).next.offset⟩ there.offset) :
    Faces there (verbatim name opening k).next := by
  have hle : (verbatim name opening k).next.offset ≤ there.offset := by
    by_contra hlt
    exact hhas ⟨h.offset_le, Nat.lt_of_not_le hlt⟩
  cases hsplit : Cursor.split (terminator name).isPrefixOf k.rest with
  | mk body after =>
      have happend := Cursor.split_append (terminator name).isPrefixOf k.rest
      rw [hsplit] at happend
      cases after with
      | nil =>
          have hbody : body = k.rest := (List.append_nil body).symm.trans happend
          rw [verbatim_of_nil hsplit, hbody] at hle
          exact absurd (h.lt_end hthere) (Nat.not_lt_of_le hle)
      | cons d ds =>
          obtain ⟨after, hafter⟩ := List.isPrefixOf_iff_prefix.1 (isPrefixOf_of_split hsplit)
          rw [← hafter] at hsplit happend
          rw [verbatim_of_found hsplit] at hle ⊢
          refine h.on (body ++ terminator name) ?_ ?_ ?_ hle
          · rw [← happend, List.append_assoc]
          · rw [utf8Length_append, ← Nat.add_assoc]
          · refine escapes_eq_false (by simp [terminator]) ?_ false
            rw [terminator, ← List.append_assoc, List.getLast?_concat]
            simp

theorem faces_opening (hthere : there.rest = '\\' :: cs) (h : Faces there k)
    (hhas : ∀ g ∈ Group.read? k, ¬ g.Has there.offset)
    (hbody : ∀ g symbol, Group.named? k = some (g, symbol) →
      Command.isVerbatim symbol.name = true →
      ¬ Span.Has ⟨g.next.offset, (opening start k).next.offset⟩ there.offset) :
    Faces there (opening start k).next := by
  rw [opening_eq] at hbody ⊢
  refine faces_group hthere h hhas fun g hg hnext => ?_
  rw [group_of_read? hg] at hbody
  have hnamed : ∀ symbol, g.name? = some symbol → Group.named? k = some (g, symbol) :=
    fun symbol hsymbol => Group.named?_eq_some.2 ⟨hg, hsymbol⟩
  unfold Group.name? Symbol.trimmed? at hnamed
  unfold opened at hbody ⊢
  cases hname : trim g.content with
  | nil => exact hnext
  | cons d word =>
      rw [hname] at hnamed
      by_cases hverbatim : Command.isVerbatim (String.ofList (d :: word)) = true
      · simp only [hverbatim, if_true]
        refine faces_verbatim hthere hnext ?_
        have hspares := hbody g _ (hnamed _ rfl) hverbatim
        simpa only [hname, hverbatim, if_true] using hspares
      · simp only [hverbatim]
        exact hnext

theorem faces_closing (hthere : there.rest = '\\' :: cs) (h : Faces there k)
    (hhas : ∀ g ∈ Group.read? k, ¬ g.Has there.offset) : Faces there (closing start k).next := by
  rw [closing_eq]
  refine faces_group hthere h hhas fun g _ hnext => ?_
  unfold closed
  cases trim g.content with
  | nil => exact hnext
  | cons d word => exact hnext

theorem faces_heading (hthere : there.rest = '\\' :: cs) {level : Nat}
    (h : Faces there (skipOptions k)) : Faces there (heading start level k).next := by
  simp only [heading]
  split
  · exact h.skipLayout hthere
  · exact h

/-- A name that is defined ends in front of the place, unless it stands there. -/
theorem faces_definedName? (hthere : there.rest = '\\' :: cs) (h : Faces there k)
    (hk : k.offset ≠ there.offset) {name : Symbol} {k' : Cursor}
    (hname : definedName? k = some (name, k')) : Faces there k' := by
  obtain ⟨o, rest⟩ := k
  by_cases hslash : ∃ ds, rest = '\\' :: ds
  · obtain ⟨ds, rfl⟩ := hslash
    have happend := Cursor.split_append (startsWith (!isLetter ·)) ds
    have hletters := Cursor.forall_mem_split (!isLetter ·) ds
    rw [definedName?_upTo rfl rfl] at hname
    split at hname
    · cases hname
    · rename_i hne
      cases hname
      rw [← happend] at h
      exact h.command hthere hk hne fun hmem => absurd (hletters _ hmem) (by decide)
  · rw [definedName?_nothing fun ds hds => hslash ⟨ds, hds⟩] at hname
    cases hname

theorem faces_definition (hthere : there.rest = '\\' :: cs) (h : Faces there k)
    (hdefined : (skipLayout k).offset ≠ there.offset) : Faces there (definition k).next := by
  by_cases hbrace : ∃ body, (skipLayout k).rest = '{' :: body
  · obtain ⟨body, hbody⟩ := hbrace
    rwa [definition_brace hbody]
  rw [definition_plain fun body hbody => hbrace ⟨body, hbody⟩]
  split
  · rename_i name k' hname
    exact faces_definedName? hthere (h.skipLayout hthere) hdefined hname
  · exact h

/-- **What follows a command name ends in front of the place**, unless it reads over it. -/
theorem faces_arguments {name : String} (hthere : there.rest = '\\' :: cs) (h : Faces there k)
    (hkeys : ∀ g ∈ keyGroups name k, ¬ g.Has there.offset)
    (hoption : Command.takesOptions name = true → Spares k there.offset)
    (hbody : name = "begin" → ∀ g symbol, Group.named? k = some (g, symbol) →
      Command.isVerbatim symbol.name = true →
      ¬ Span.Has ⟨g.next.offset, (opening start k).next.offset⟩ there.offset)
    (hdefined : Command.isDefinition name = true → (skipLayout k).offset ≠ there.offset) :
    Faces there (arguments start name k).next := by
  have hskip (htakes : Command.takesOptions name = true) : Faces there (skipOptions k) :=
    h.skipOptions hthere (hoption htakes)
  unfold keyGroups at hkeys
  unfold arguments
  by_cases hbegin : name = "begin"
  · simp only [hbegin, true_or, if_true, Option.mem_toList] at hkeys ⊢
    exact faces_opening hthere h hkeys (hbody hbegin)
  by_cases hend : name = "end"
  · simp only [hend, true_or, or_true, if_true, Option.mem_toList] at hkeys ⊢
    exact faces_closing hthere h hkeys
  by_cases hlabel : name = "label"
  · simp only [hlabel, or_true, if_true, Option.mem_toList] at hkeys ⊢
    exact faces_label hthere h hkeys
  simp only [hbegin, hend, hlabel, or_self, if_false] at hkeys ⊢
  cases hkind : Command.includeKind? name with
  | some kind =>
      simp only [hkind, Option.isSome_some, if_true, Option.mem_toList] at hkeys ⊢
      exact faces_keys hthere (hskip (by simp [Command.takesOptions, hkind])) _ hkeys
  | none =>
  simp only [hkind, Option.isSome_none, Bool.false_eq_true, if_false] at hkeys ⊢
  by_cases hreference : Command.isLabelReference name = true
  · simp only [hreference, if_true] at hkeys ⊢
    refine faces_references hthere h fun g hg => ?_
    rw [Option.mem_def.1 hg] at hkeys
    refine ⟨hkeys g List.mem_cons_self, fun hrange g₂ hg₂ => hkeys g₂ ?_⟩
    simp [hrange, Option.mem_def.1 hg₂]
  simp only [hreference, Bool.false_eq_true, if_false] at hkeys ⊢
  by_cases hcitation : Command.isCitation name = true
  · simp only [hcitation, if_true, Option.mem_toList] at hkeys ⊢
    exact faces_citations hthere (hskip (by simp [Command.takesOptions, hcitation])) hkeys
  simp only [hcitation, Bool.false_eq_true, if_false]
  cases hlevel : Command.sectionLevel? name with
  | some level => exact faces_heading hthere (hskip (by simp [Command.takesOptions, hlevel]))
  | none =>
  by_cases hdefinition : Command.isDefinition name = true
  · simp only [hdefinition, if_true]
    exact faces_definition hthere h (hdefined hdefinition)
  · simp only [hdefinition]
    exact h

/-! ## The scan -/

/-- A command in front of the place. -/
theorem faces_letters (hthere : there.rest = '\\' :: cs) {offset : Nat} {d : Char}
    {ds : List Char} (hletter : isLetter d = true) (h : Faces there ⟨offset, '\\' :: d :: ds⟩)
    (hoffset : offset ≠ there.offset) (hexposed : Exposed ⟨offset, '\\' :: d :: ds⟩ there.offset) :
    Faces there (Reading.at offset '\\' (d :: ds)).next := by
  cases hname : commandName (d :: ds) with
  | mk name rest =>
      obtain ⟨more, rfl, rfl, hquiet⟩ := exists_of_commandName hletter hname
      have hslash : '\\' ∉ d :: more := by
        rw [List.mem_cons, not_or]
        refine ⟨?_, fun hmem => hquiet _ hmem (by simp)⟩
        rintro rfl
        revert hletter
        decide
      rw [at_letters hletter hname]
      have hcomes : Comes ⟨offset, '\\' :: d :: (more ++ rest)⟩ (String.ofList (d :: more))
          ⟨offset + 1 + utf8Length (d :: more), rest⟩ :=
        ⟨offset, _, rest, .here _, by rwa [String.toList_ofList], by rw [String.toList_ofList]⟩
      refine faces_arguments hthere (h.command hthere hoffset (List.cons_ne_nil d more) hslash)
        (fun g hg hhas => hexposed.keys ⟨_, _, hcomes, g, hg, hhas⟩)
        (fun htakes s hs hhas => hexposed.option ⟨_, _, hcomes, htakes, s, hs, hhas⟩) ?_
        fun hdefinition heq => hexposed.defined ⟨_, _, hcomes, hdefinition, heq⟩
      intro hbegin g symbol hnamed hverbatim hhas
      rw [hbegin] at hcomes
      exact hexposed.verbatim ⟨_, g, symbol, offset, hcomes, hnamed, hverbatim, hhas⟩

/-- **A reading in front of the place ends there too.** -/
theorem faces_at (hthere : there.rest = '\\' :: cs) {offset : Nat} {c : Char} {rest : List Char}
    (h : Faces there ⟨offset, c :: rest⟩) (hoffset : offset ≠ there.offset)
    (hexposed : Exposed ⟨offset, c :: rest⟩ there.offset) :
    Faces there (Reading.at offset c rest).next := by
  obtain ⟨w, hcomment, hescapes, hedge, rfl⟩ := h.exists_cons hoffset
  by_cases hslash : c = '\\'
  · subst hslash
    cases w with
    | nil => cases hescapes
    | cons d w =>
        by_cases hletter : isLetter d = true
        · exact faces_letters hthere hletter h hoffset hexposed
        · rw [List.cons_append, at_symbol hletter]
          have hsymbol : escapes false ['\\', d] = false := by simp [escapes_cons]
          refine h.on ['\\', d] rfl ?_ hsymbol ?_
          · rw [utf8Length_cons, utf8Length_cons, utf8Length_nil, Nat.add_zero, ← Nat.add_assoc]
            rfl
          · rw [utf8Length_cons, ← Nat.add_assoc] at hedge
            exact Nat.le.intro hedge
  have hpercent : c ≠ '%' := by
    rintro rfl
    cases hcomment [] w rfl
  have hpassed : Faces there ⟨offset + c.utf8Size, w ++ there.rest⟩ :=
    h.on [c] rfl rfl (by simp [escapes_cons, hslash]) (Nat.le.intro hedge)
  by_cases hopen : c = '{'
  · subst hopen
    exact hpassed
  by_cases hclose : c = '}'
  · subst hclose
    exact hpassed
  · rw [at_other (by simp [hslash, hpercent, hopen, hclose])]
    exact hpassed

end Reading

/-- **The scan comes to a command that it does not read over.** -/
theorem visits_of_exposed {there k : Cursor} {cs : List Char} (hthere : there.rest = '\\' :: cs)
    (h : Faces there k) (hexposed : Exposed k there.offset) : Visits k there := by
  induction k using scan_induction with
  | nil offset => exact absurd (h.lt_end hthere) (Nat.not_lt_of_le h.offset_le)
  | cons offset c cs ih =>
      by_cases hoffset : offset = there.offset
      · rw [h.eq_of_offset hoffset]
        exact .here there
      · exact .next (ih (Reading.faces_at hthere h hoffset hexposed) hexposed.next)

/-! ## The first command of a text -/

theorem Visits.reaches {k k' : Cursor} (h : Visits k k') : k.Reaches k' := by
  induction h with
  | here k => exact .refl k
  | next _ ih => exact (Reading.reaches_at _ _ _).trans ih

/-- No command comes before the first backslash. -/
theorem Comes.lt_offset {o : Nat} {front rest : List Char} {name : String} {here : Cursor}
    (hfront : '\\' ∉ front) (h : Comes ⟨o, front ++ rest⟩ name here) :
    o + utf8Length front < here.offset := by
  obtain ⟨start, cs, rest', hvisits, -, rfl⟩ := h
  obtain ⟨read, hread, hstart⟩ := hvisits.reaches
  obtain ⟨more, rfl⟩ := exists_append_of_not_mem hfront hread.symm
  rw [utf8Length_append] at hstart
  dsimp only at hstart ⊢
  omega

theorem Group.offset_le_brace {k : Cursor} {g : Group} (h : Group.read? k = some g) :
    k.offset ≤ g.brace := by
  simp only [Group.read?] at h
  split at h
  · rename_i body _
    cases h
    rw [(Group.takes_ofBody _ body).1]
    exact (reaches_skipLayout k).offset_le
  · cases h

theorem Reading.offset_le_brace {name : String} {k : Cursor} {g : Group}
    (h : g ∈ keyGroups name k) : k.offset ≤ g.brace := by
  have hoptions (h : g ∈ (Group.read? (skipOptions k)).toList) : k.offset ≤ g.brace :=
    (reaches_skipOptions k).offset_le.trans (Group.offset_le_brace (Option.mem_toList.1 h))
  unfold keyGroups at h
  split at h
  · exact Group.offset_le_brace (Option.mem_toList.1 h)
  split at h
  · exact hoptions h
  split at h
  · split at h
    · rename_i first hfirst
      rcases List.mem_cons.1 h with rfl | h
      · exact Group.offset_le_brace hfirst
      split at h
      · exact (Group.reaches_read? hfirst).offset_le.trans
          (Group.offset_le_brace (Option.mem_toList.1 h))
      · cases h
    · cases h
  split at h
  · exact hoptions h
  · cases h

theorem Optional.offset_le {k : Cursor} {s : Span} (h : Optional k s) : k.offset ≤ s.start := by
  induction h with
  | first _ => exact (reaches_skipLayout _).offset_le
  | later hoption _ ih => exact (reaches_option? hoption).1.offset_le.trans ih

/-- **Nothing reads over the first command of a text.** -/
theorem exposed_of_not_mem {o : Nat} {front rest : List Char} (hfront : '\\' ∉ front) :
    Exposed ⟨o, front ++ rest⟩ (o + utf8Length front) where
  keys := by
    rintro ⟨name, here, hcomes, g, hg, hhas, -⟩
    have hlt := hcomes.lt_offset hfront
    have hle := Reading.offset_le_brace hg
    dsimp only [Group.inside] at hhas
    omega
  option := by
    rintro ⟨name, here, hcomes, -, s, hs, hhas, -⟩
    have hlt := hcomes.lt_offset hfront
    have hle := hs.offset_le
    omega
  verbatim := by
    rintro ⟨here, g, symbol, start, hcomes, hnamed, -, hhas, -⟩
    have hlt := hcomes.lt_offset hfront
    have hle := (Group.reaches_named? hnamed).offset_le
    dsimp only at hhas
    omega
  defined := by
    rintro ⟨name, here, hcomes, -, hhas⟩
    have hlt := hcomes.lt_offset hfront
    have hle := (reaches_skipLayout here).offset_le
    omega

end Manuscript.Latex

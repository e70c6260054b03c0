/-
# Manuscript.Proofs.Latex.Remark -- two texts that differ in a comment

Two texts that differ in a comment are read side by side.  The readers stand in the same
place (`Twin`): before the comment, with the same text up to it, or behind it, with the
same text left.  A comment counts as a blank, so what goes over blanks takes twins to twins
(`Twin.skipLayout`), and so does what stops at a percent sign (`Twin.upTo`).

Two readers take what they read as it stands, percent signs too.  An optional argument
counts its brackets and braces, so it is the same in both texts if the comments have none,
or if they are in no argument (`Twin.option?`).  A key group makes names of what is in it,
so the comments may not stand there (`Group.twin_read?`).
-/
import Manuscript.Proofs.Latex.Ahead
import Manuscript.Proofs.Latex.Balance
import Manuscript.Proofs.Latex.RespeltStructure

namespace Manuscript.Latex

set_option autoImplicit false

open Text Text.Form

/-! ## A comment -/

/-- A comment of one line and what follows it. -/
def remark (c rest : List Char) : List Char := '%' :: (c ++ '\n' :: rest)

/-- A percent sign behind `w` begins a comment: none in the last line begins one before, and no
backslash stands in front of it. -/
structure Trails (w : List Char) : Prop where
  line : ∀ w', '%' :: w' <:+ w → '\n' ∈ w'
  slashes : escapes false w = false

/-- What the last line says. -/
theorem trails_of_lastLine {u : List Char} (hline : '%' ∉ u.reverse.takeWhile (· ≠ '\n'))
    (hslashes : (u.reverse.takeWhile (· = '\\')).length % 2 = 0) : Trails u where
  line := by
    rintro w' ⟨before, rfl⟩
    by_contra hbreak
    refine hline ?_
    rw [List.reverse_append, List.reverse_cons, List.append_assoc, List.takeWhile_append_of_pos]
    · simp
    · intro c hc
      have hmem := List.mem_reverse.1 hc
      exact decide_eq_true fun heq => hbreak (heq ▸ hmem)
  slashes := by
    rw [escapes_eq_odd, hslashes]
    rfl

namespace Trails

variable {w read rest : List Char}

/-- Reading on up to the end of a token. -/
theorem right (h : Trails (read ++ rest)) (hread : escapes false read = false) : Trails rest where
  line := fun w' hw' => h.line w' (hw'.trans (List.suffix_append read rest))
  slashes := by
    have hslashes := h.slashes
    rwa [escapes_append, hread] at hslashes

/-- Behind a character that is no backslash a token has ended. -/
theorem tail {c : Char} (h : Trails (read ++ c :: rest)) (hc : c ≠ '\\') : Trails rest := by
  have happend : read ++ c :: rest = (read ++ [c]) ++ rest := by simp
  rw [happend] at h
  exact h.right (escapes_eq_false (by simp) (by simpa using hc) false)

/-- Behind `w` the text is neither escaped nor in a comment. -/
theorem mode (h : Trails w) : w.foldl Mode.next .plain = .plain := by
  -- a comment in `w` ends in `w`
  have hmode : ∀ (w : List Char) (mode : Mode), (∀ w', '%' :: w' <:+ w → '\n' ∈ w') →
      escapes (mode = .escaped) w = false → (mode = .comment → '\n' ∈ w) →
      w.foldl Mode.next mode = .plain := by
    intro w
    induction w with
    | nil =>
        intro mode _ hescapes hbreak
        cases mode with
        | plain => rfl
        | escaped => cases hescapes
        | comment => cases hbreak rfl
    | cons c w ih =>
        intro mode hline hescapes hbreak
        have hline' : ∀ w', '%' :: w' <:+ w → '\n' ∈ w' :=
          fun w' hw' => hline w' (hw'.trans (List.suffix_cons c w))
        rw [escapes_cons] at hescapes
        rw [List.foldl_cons]
        cases mode with
        | escaped => exact ih .plain hline' (by simpa using hescapes) (by simp)
        | plain =>
            by_cases hslash : c = '\\'
            · subst hslash
              exact ih .escaped hline' (by simpa using hescapes) (by simp)
            by_cases hpercent : c = '%'
            · subst hpercent
              exact ih .comment hline' (by simpa using hescapes) fun _ =>
                hline w (List.suffix_refl _)
            · rw [Mode.next_plain hslash hpercent]
              exact ih .plain hline' (by simpa [hslash] using hescapes) (by simp)
        | comment =>
            by_cases hfeed : c = '\n'
            · subst hfeed
              exact ih .plain hline' (by simpa using hescapes) (by simp)
            · have hbreak' : '\n' ∈ w :=
                (List.mem_cons.1 (hbreak rfl)).resolve_left (Ne.symm hfeed)
              rw [Mode.next.eq_6 c hfeed]
              refine ih .comment hline' ?_ fun _ => hbreak'
              rw [escapes_of_break hbreak'] at hescapes ⊢
              exact hescapes
  exact hmode w .plain h.line h.slashes (by simp)

end Trails

theorem solidly_remark (c rest : List Char) : Solidly (remark c rest) :=
  ⟨'%', _, rfl, by decide⟩

/-- Blanks go on behind the comment. -/
theorem afterLayout_remark {c : List Char} (hc : '\n' ∉ c) (rest : List Char) :
    afterLayout false (remark c rest) =
      ('%' :: (c ++ '\n' :: (afterLayout false rest).1), (afterLayout false rest).2) := by
  have hcomment : ∀ c, '\n' ∉ c → afterLayout true (c ++ '\n' :: rest) =
      (c ++ '\n' :: (afterLayout false rest).1, (afterLayout false rest).2) := by
    intro c
    induction c with
    | nil => intro _; simp [afterLayout]
    | cons d c ih =>
        intro hc
        rw [List.mem_cons, not_or] at hc
        have hd : (d != '\n') = true := bne_iff_ne.2 (Ne.symm hc.1)
        simp [afterLayout, hd, ih hc.2]
  simp [remark, afterLayout, show isLayout '%' = false by decide, hcomment c hc]

/-- Neither a bracket nor a brace nor a backslash. -/
def Harmless (c : List Char) : Prop := ∀ d ∈ c, d ∉ ['[', ']', '{', '}', '\\']

/-- An optional argument goes on behind a comment without brackets. -/
theorem untilBracket?_remark {c : List Char} (hc : Harmless c) (depth : Nat)
    (rest : List Char) : untilBracket? depth false (remark c rest) =
      (untilBracket? depth false rest).map fun cut => ('%' :: (c ++ '\n' :: cut.1), cut.2) := by
  have hpass : ∀ c, Harmless c → untilBracket? depth false (c ++ rest) =
      (untilBracket? depth false rest).map fun cut => (c ++ cut.1, cut.2) := by
    intro c
    induction c with
    | nil => intro _; simp
    | cons d c ih =>
        intro hc
        have hd := hc d List.mem_cons_self
        simp only [List.mem_cons, List.not_mem_nil, or_false, not_or] at hd
        simp [untilBracket?, hd, ih fun e he => hc e (List.mem_cons_of_mem d he),
          Option.map_map, Function.comp_def]
  have hall : Harmless ('%' :: (c ++ ['\n'])) := by
    refine List.forall_mem_cons.2 ⟨by decide, List.forall_mem_append.2 ⟨hc, by simp⟩⟩
  have h := hpass _ hall
  simpa [remark] using h

/-! ## The same place in both texts -/

/-- An offset before the comments `c` and `c'`, which are at `edge`, or the same distance behind
them. -/
def Shifted (c c' : List Char) (edge : Nat) (o o' : Nat) : Prop :=
  o = o' ∧ o ≤ edge ∨
    ∃ d, o = edge + 1 + utf8Length c + d ∧ o' = edge + 1 + utf8Length c' + d

/-- The same place of two texts that differ in a comment. -/
inductive Twin (c c' v : List Char) (edge : Nat) : Cursor → Cursor → Prop where
  | before {o : Nat} {w : List Char} : Trails w → o + utf8Length w = edge →
      Twin c c' v edge ⟨o, w ++ remark c v⟩ ⟨o, w ++ remark c' v⟩
  | behind (d : Nat) (rest : List Char) :
      Twin c c' v edge ⟨edge + 1 + utf8Length c + d, rest⟩ ⟨edge + 1 + utf8Length c' + d, rest⟩

namespace Twin

variable {c c' v : List Char} {edge : Nat} {k k' : Cursor}

/-- The same distance behind the comment. -/
theorem behind_of {o o' : Nat} (d : Nat) (ho : o = edge + 1 + utf8Length c + d)
    (ho' : o' = edge + 1 + utf8Length c' + d) (rest : List Char) :
    Twin c c' v edge ⟨o, rest⟩ ⟨o', rest⟩ := by
  subst ho ho'
  exact .behind d rest

theorem shifted (h : Twin c c' v edge k k') : Shifted c c' edge k.offset k'.offset := by
  cases h with
  | before _ ho => exact .inl ⟨rfl, by simp only; omega⟩
  | behind d _ => exact .inr ⟨d, rfl, rfl⟩

/-- The same character stands at both places, before the comment or behind it. -/
inductive At (c c' v : List Char) (edge : Nat) (d : Char) : Cursor → Cursor → Prop where
  | before {o : Nat} {w : List Char} : Trails (d :: w) → o + d.utf8Size + utf8Length w = edge →
      At c c' v edge d ⟨o, d :: (w ++ remark c v)⟩ ⟨o, d :: (w ++ remark c' v)⟩
  | behind (n : Nat) (rest : List Char) : At c c' v edge d
      ⟨edge + 1 + utf8Length c + n, d :: rest⟩ ⟨edge + 1 + utf8Length c' + n, d :: rest⟩

theorem At.shifted {d : Char} (h : At c c' v edge d k k') (hsize : d.utf8Size = 1) :
    Shifted c c' edge k.offset k'.offset ∧ Shifted c c' edge (k.offset + 1) (k'.offset + 1) := by
  cases h with
  | @before o w _ ho =>
      refine ⟨.inl ⟨rfl, ?_⟩, .inl ⟨rfl, ?_⟩⟩ <;> dsimp only <;> omega
  | behind n rest => exact ⟨.inr ⟨n, rfl, rfl⟩, .inr ⟨n + 1, rfl, rfl⟩⟩

theorem At.exists_rest {d : Char} (h : At c c' v edge d k k') :
    ∃ cs cs', k.rest = d :: cs ∧ k'.rest = d :: cs' := by
  cases h with
  | before _ _ => exact ⟨_, _, rfl, rfl⟩
  | behind _ _ => exact ⟨_, _, rfl, rfl⟩

/-- A backslash and the character behind it stand in front of the comment, or behind it. -/
theorem At.escape (h : At c c' v edge '\\' k k') :
    ∃ cs cs', k.rest = '\\' :: cs ∧ k'.rest = '\\' :: cs' ∧
      (cs = [] ∧ cs' = [] ∧ Twin c c' v edge ⟨k.offset + 1, []⟩ ⟨k'.offset + 1, []⟩ ∨
        ∃ d ds ds', cs = d :: ds ∧ cs' = d :: ds' ∧
          Twin c c' v edge ⟨k.offset + 1 + d.utf8Size, ds⟩ ⟨k'.offset + 1 + d.utf8Size, ds'⟩ ∧
          (d ≠ '\\' → Twin c c' v edge ⟨k.offset + 1, cs⟩ ⟨k'.offset + 1, cs'⟩)) := by
  cases h with
  | behind n rest =>
      refine ⟨rest, rest, rfl, rfl, ?_⟩
      cases rest with
      | nil => exact .inl ⟨rfl, rfl, .behind (n + 1) []⟩
      | cons d ds =>
          refine .inr ⟨d, ds, ds, rfl, rfl, ?_, fun _ => .behind (n + 1) (d :: ds)⟩
          exact behind_of (n + 1 + d.utf8Size) (by dsimp only; omega) (by dsimp only; omega) ds
  | @before o w hw ho =>
      refine ⟨w ++ remark c v, w ++ remark c' v, rfl, rfl, ?_⟩
      cases w with
      | nil => cases hw.slashes
      | cons d w =>
          rw [utf8Length_cons, ← Nat.add_assoc] at ho
          refine .inr ⟨d, _, _, rfl, rfl, .before ?_ ho, fun hd => .before ?_ ?_⟩
          · have hpair : Trails (['\\', d] ++ w) := hw
            exact hpair.right rfl
          · refine ⟨fun w' hw' => hw.line w' (hw'.trans (List.suffix_cons _ _)), ?_⟩
            have hslashes := hw.slashes
            rw [escapes_cons, escapes_cons] at hslashes
            rw [escapes_cons]
            simpa [hd] using hslashes
          · rw [utf8Length_cons, ← Nat.add_assoc]
            exact ho

/-- A character that is no backslash is passed. -/
theorem At.passed {d : Char} (h : At c c' v edge d k k') (hd : d ≠ '\\') {cs cs' : List Char}
    (hk : k.rest = d :: cs) (hk' : k'.rest = d :: cs') :
    Twin c c' v edge ⟨k.offset + d.utf8Size, cs⟩ ⟨k'.offset + d.utf8Size, cs'⟩ := by
  cases h with
  | @before o w hw ho =>
      cases hk
      cases hk'
      have hw' : Trails ([] ++ d :: _) := hw
      exact .before (hw'.tail hd) ho
  | behind n rest =>
      cases hk
      cases hk'
      exact behind_of (n + d.utf8Size) (Nat.add_assoc _ _ _) (Nat.add_assoc _ _ _) cs

theorem at_or (h : Twin c c' v edge k k') {d : Char} (hd : d ≠ '%') :
    At c c' v edge d k k' ∨ (∀ cs, k.rest ≠ d :: cs) ∧ ∀ cs, k'.rest ≠ d :: cs := by
  cases h with
  | @before o w hw ho =>
      cases w with
      | nil =>
          right
          constructor <;> intro cs hcs <;> exact hd (List.cons.inj hcs).1.symm
      | cons e w =>
          by_cases he : e = d
          · subst he
            refine .inl (.before hw ?_)
            rw [← ho, utf8Length_cons, Nat.add_assoc]
          · right
            constructor <;> intro cs hcs <;> exact he (List.cons.inj hcs).1
  | behind n rest =>
      by_cases hrest : ∃ cs, rest = d :: cs
      · obtain ⟨cs, rfl⟩ := hrest
        exact .inl (.behind n cs)
      · exact .inr ⟨fun cs h => hrest ⟨cs, h⟩, fun cs h => hrest ⟨cs, h⟩⟩

/-- Reading on behind the comment. -/
theorem behind_after (d : Nat) (read rest : List Char) :
    Twin c c' v edge ⟨edge + 1 + utf8Length c + d + utf8Length read, rest⟩
      ⟨edge + 1 + utf8Length c' + d + utf8Length read, rest⟩ :=
  behind_of (d + utf8Length read) (Nat.add_assoc _ _ _) (Nat.add_assoc _ _ _) rest

/-- Reading over the comment. -/
theorem behind_remark {o : Nat} {w : List Char} (ho : o + utf8Length w = edge)
    (read rest : List Char) :
    Twin c c' v edge ⟨o + utf8Length (w ++ '%' :: (c ++ '\n' :: read)), rest⟩
      ⟨o + utf8Length (w ++ '%' :: (c' ++ '\n' :: read)), rest⟩ := by
  have hoffset : ∀ c : List Char, o + utf8Length (w ++ '%' :: (c ++ '\n' :: read)) =
      edge + 1 + utf8Length c + utf8Length ('\n' :: read) := by
    intro c
    simp only [utf8Length_append, utf8Length_cons, show Char.utf8Size '%' = 1 from rfl]
    omega
  rw [hoffset, hoffset]
  exact .behind _ _

theorem skipLayout (hc : '\n' ∉ c) (hc' : '\n' ∉ c') (h : Twin c c' v edge k k') :
    Twin c c' v edge (skipLayout k) (skipLayout k') := by
  cases h with
  | behind d rest => exact behind_after d _ _
  | @before o w hw ho =>
      have hgoes : ∀ t : List Char, Latex.skipLayout ⟨o, w ++ t⟩ =
          ⟨o + utf8Length (afterLayout false (w ++ t)).1, (afterLayout false (w ++ t)).2⟩ :=
        fun _ => rfl
      rw [hgoes, hgoes]
      cases ahead_afterLayout false w with
      | failed hnone => exact absurd (hnone [] trivial) (Option.some_ne_none _)
      | found hw' hread hfound =>
          rename_i read rest
          subst hw'
          rw [Option.some.inj (hfound _ trivial), Option.some.inj (hfound _ trivial)]
          refine .before (hw.right (hread.2 false (.inr rfl))) ?_
          rw [utf8Length_append] at ho
          show o + utf8Length read + utf8Length rest = edge
          omega
      | onward hg hlater =>
          obtain ⟨comment, rfl, hmode⟩ := hg
          have hplain : comment = false := by
            rw [show Mode.ofComment false = .plain from rfl, hw.mode] at hmode
            cases comment with
            | false => rfl
            | true => cases hmode
          subst hplain
          rw [Option.some.inj (hlater _ trivial), Option.some.inj (hlater _ trivial)]
          dsimp only
          rw [afterLayout_remark hc, afterLayout_remark hc']
          exact behind_remark ho _ _

/-- What stops at a comment and at a backslash stops at the same place. -/
theorem upTo {p : Char → Bool} (hpercent : p '%' = true) (hslash : p '\\' = true)
    (h : Twin c c' v edge k k') : ∃ read there there', Twin c c' v edge there there' ∧
      k.upTo (startsWith p) = (read, there) ∧ k'.upTo (startsWith p) = (read, there') := by
  cases h with
  | behind n rest => exact ⟨_, _, _, behind_after n _ _, rfl, rfl⟩
  | @before o w hw ho =>
      have happend := Cursor.split_append (startsWith p) w
      have hread := Cursor.forall_mem_split p w
      have hstop := Cursor.split_stop (startsWith p) w
      generalize Cursor.split (startsWith p) w = parts at happend hread hstop
      obtain ⟨read, rest⟩ := parts
      dsimp only at happend hread hstop
      subst happend
      have hsplit (d : List Char) : Cursor.split (startsWith p) (read ++ rest ++ remark d v) =
          (read, rest ++ remark d v) := by
        rw [List.append_assoc]
        refine Cursor.split_startsWith hread (.inr ?_)
        rcases hstop with rfl | hrest
        · exact hpercent
        · cases rest with
          | nil => cases hrest
          | cons e rest => exact hrest
      refine ⟨read, _, _, .before (hw.right (escapes_of_not_mem fun hmem => ?_)) ?_,
        by rw [Cursor.upTo, hsplit]; rfl, by rw [Cursor.upTo, hsplit]; rfl⟩
      · rw [hread _ hmem] at hslash
        cases hslash
      · rw [utf8Length_append, ← Nat.add_assoc] at ho
        exact ho

end Twin

/-! ## Optional arguments -/

/-- An offset of a stretch of text. -/
def Span.Has (s : Span) (offset : Nat) : Prop := s.start ≤ offset ∧ offset < s.stop

/-- The optional arguments at a place, from bracket to bracket. -/
inductive Optional : Cursor → Span → Prop where
  | first {k k' : Cursor} : option? k = some k' → Optional k ⟨(skipLayout k).offset, k'.offset⟩
  | later {k k' : Cursor} {s : Span} : option? k = some k' → Optional k' s → Optional k s

/-- The optional arguments at a place do not show a comment at `edge`. -/
def Spares (k : Cursor) (edge : Nat) : Prop := ∀ s, Optional k s → ¬ Span.Has s edge

namespace Twin

variable {c c' v : List Char} {edge : Nat} {k k' : Cursor}

/-- An optional argument that is open at the comment has the comment in it. -/
theorem has_remark {depth : Nat} {read rest : List Char}
    (h : untilBracket? depth false (remark c v) = some (read, rest)) {o : Nat} {w : List Char}
    (ho : o + 1 + utf8Length w = edge) :
    Span.Has ⟨o, o + utf8Length ('[' :: (w ++ read))⟩ edge := by
  obtain ⟨⟨more, rest'⟩, -, heq⟩ := Option.map_eq_some_iff.1
    (show (untilBracket? depth false (c ++ '\n' :: v)).map _ = _ from h)
  cases heq
  have hpos := ('%').utf8Size_pos
  constructor
  · show o ≤ edge
    omega
  · show edge < o + utf8Length ('[' :: (w ++ '%' :: more))
    simp only [utf8Length_cons, utf8Length_append, show Char.utf8Size '[' = 1 from rfl]
    omega

/-- An optional argument that is open at the comment is none, if the comment is in none. -/
theorem option?_eq_none {o depth : Nat} {w : List Char}
    (hhere : Latex.skipLayout k = ⟨o, '[' :: (w ++ remark c v)⟩) (ho : o + 1 + utf8Length w = edge)
    (honward : untilBracket? 0 false (w ++ remark c v) =
      (untilBracket? depth false (remark c v)).map fun cut => (w ++ cut.1, cut.2))
    (hspares : Spares k edge) : Latex.option? k = none := by
  have hoption := option?_bracket (congrArg Cursor.rest hhere)
  rw [honward] at hoption
  cases hcut : untilBracket? depth false (remark c v) with
  | none => rw [hoption, hcut]; rfl
  | some cut =>
      rw [hcut] at hoption
      refine absurd ?_ (hspares _ (.first hoption))
      rw [hhere]
      exact has_remark hcut ho

/-- One optional argument is read in both texts, or in neither. -/
theorem option? (hc : '\n' ∉ c) (hc' : '\n' ∉ c') (h : Twin c c' v edge k k')
    (hspares : (Harmless c ∧ Harmless c') ∨ (Spares k edge ∧ Spares k' edge)) :
    Option.Rel (Twin c c' v edge) (Latex.option? k) (Latex.option? k') := by
  rcases (h.skipLayout hc hc').at_or (show '[' ≠ '%' by decide) with hat | ⟨hk, hk'⟩
  · generalize hhere : Latex.skipLayout k = here at hat
    generalize hhere' : Latex.skipLayout k' = here' at hat
    cases hat with
    | behind n rest =>
        rw [option?_bracket (congrArg Cursor.rest hhere),
          option?_bracket (congrArg Cursor.rest hhere'), hhere, hhere']
        cases untilBracket? 0 false rest with
        | none => exact .none
        | some cut => exact .some (behind_after n _ _)
    | @before o w hw ho =>
        have hedge : o + utf8Length ('[' :: w) = edge := by
          rw [utf8Length_cons, ← Nat.add_assoc]
          exact ho
        have hoption := option?_bracket (congrArg Cursor.rest hhere)
        have hoption' := option?_bracket (congrArg Cursor.rest hhere')
        rw [hhere] at hoption
        rw [hhere'] at hoption'
        cases ahead_untilBracket? 0 false w with
        | failed hnone =>
            rw [hoption, hoption', hnone _ trivial, hnone _ trivial]
            exact .none
        | found hw' hlast hfound =>
            rename_i read rest
            subst hw'
            rw [hoption, hoption', hfound _ trivial, hfound _ trivial]
            have hread : escapes false ('[' :: read) = false := by
              refine escapes_eq_false (List.cons_ne_nil _ _) ?_ false
              rw [List.getLast?_cons, hlast]
              simp
            have htrails : Trails (('[' :: read) ++ rest) := hw
            refine .some (.before (htrails.right hread) ?_)
            rw [← hedge, Nat.add_assoc, ← utf8Length_append]
            rfl
        | onward hg honward =>
            obtain ⟨depth, rfl⟩ := hg
            have hslashes : escapes false w = false := hw.slashes
            rw [hslashes] at honward
            rcases hspares with ⟨hharmless, hharmless'⟩ | ⟨hspares, hspares'⟩
            · rw [hoption, hoption', honward _ trivial, honward _ trivial,
                untilBracket?_remark hharmless, untilBracket?_remark hharmless']
              cases untilBracket? depth false v with
              | none => exact .none
              | some cut => exact .some (behind_remark hedge _ _)
            · rw [option?_eq_none hhere ho (honward _ trivial) hspares,
                option?_eq_none hhere' ho (honward _ trivial) hspares']
              exact .none
  · rw [option?_nothing hk, option?_nothing hk']
    exact .none

theorem skipOptions (hc : '\n' ∉ c) (hc' : '\n' ∉ c') (h : Twin c c' v edge k k')
    (hspares : (Harmless c ∧ Harmless c') ∨ (Spares k edge ∧ Spares k' edge)) :
    Twin c c' v edge (Latex.skipOptions k) (Latex.skipOptions k') := by
  induction k using Latex.skipOptions.induct generalizing k' with
  | case1 k k₁ hoption ih =>
      have hrel := h.option? hc hc' hspares
      rw [hoption] at hrel
      cases hoption' : Latex.option? k' with
      | none =>
          rw [hoption'] at hrel
          cases hrel
      | some k₁' =>
          rw [hoption'] at hrel
          rw [skipOptions_of_some hoption, skipOptions_of_some hoption']
          cases hrel with
          | some htwin =>
              exact ih htwin (hspares.imp_right fun hspares =>
                ⟨fun s hs => hspares.1 s (.later hoption hs),
                  fun s hs => hspares.2 s (.later hoption' hs)⟩)
  | case2 k hnone =>
      have hrel := h.option? hc hc' hspares
      rw [hnone] at hrel
      cases hoption' : Latex.option? k' with
      | none => rwa [skipOptions_of_none hnone, skipOptions_of_none hoption']
      | some _ =>
          rw [hoption'] at hrel
          cases hrel

end Twin

/-! ## Key groups -/

/-- The content of the group has the comment in it. -/
def Group.Has (g : Group) (offset : Nat) : Prop :=
  Span.Has ⟨g.inside, g.inside + utf8Length g.content⟩ offset

/-- The same group in both texts. -/
structure Group.Twin (c c' v : List Char) (edge : Nat) (g g' : Group) : Prop where
  content : g.content = g'.content
  closed : g.closed = g'.closed
  brace : Shifted c c' edge g.brace g'.brace
  inside : Shifted c c' edge (g.brace + 1) (g'.brace + 1)
  next : Latex.Twin c c' v edge g.next g'.next

namespace Group

variable {c c' v : List Char} {edge : Nat}

theorem exists_of_balanced? {brace : Nat} {body : List Char} {g : Group}
    (h : balanced? brace body = some g) : ∃ content rest,
      untilClosing? 0 .plain body = some (content, '}' :: rest) ∧ g = closedBy brace content rest := by
  unfold balanced? at h
  split at h
  · rename_i content c rest hfound
    obtain ⟨after, hafter⟩ := untilClosing?_rest hfound
    cases hafter
    split at h
    · cases h
    · cases h
      exact ⟨content, rest, hfound, rfl⟩
  · cases h

theorem twin_behind (n : Nat) (body : List Char) :
    Group.Twin c c' v edge (ofBody (edge + 1 + utf8Length c + n) body)
      (ofBody (edge + 1 + utf8Length c' + n) body) := by
  obtain ⟨closed, content, rest, hparts⟩ := ofBody_parts body
  rw [hparts, hparts]
  refine ⟨?_, ?_, ?_, ?_, ?_⟩
  · rw [parts_content, parts_content]
  · rw [parts_closed, parts_closed]
  · rw [parts_brace, parts_brace]
    exact .inr ⟨n, rfl, rfl⟩
  · rw [parts_brace, parts_brace]
    exact .inr ⟨n + 1, rfl, rfl⟩
  · cases closed with
    | true =>
        have hnext := @Twin.behind c c' v edge (n + 1 + utf8Length content + 1) rest
        simpa only [← Nat.add_assoc, parts, if_true, closedBy] using hnext
    | false =>
        have hnext := @Twin.behind c c' v edge (n + 1 + utf8Length content) rest
        simpa only [← Nat.add_assoc, parts, Bool.false_eq_true, if_false, abandoned] using hnext

theorem twin_closedBy {brace : Nat} {content rest : List Char}
    (htrails : Trails (content ++ '}' :: rest))
    (hedge : brace + 1 + utf8Length (content ++ '}' :: rest) = edge) :
    Group.Twin c c' v edge (closedBy brace content (rest ++ remark c v))
      (closedBy brace content (rest ++ remark c' v)) := by
  rw [utf8Length_append, utf8Length_cons, show Char.utf8Size '}' = 1 from rfl] at hedge
  refine ⟨rfl, rfl, .inl ⟨rfl, ?_⟩, .inl ⟨rfl, ?_⟩, .before (htrails.tail (by decide)) ?_⟩
  · show brace ≤ edge
    omega
  · show brace + 1 ≤ edge
    omega
  · omega

theorem twin_abandoned {brace : Nat} {content rest : List Char} (hquiet : Quiet content)
    (htrails : Trails (content ++ rest))
    (hedge : brace + 1 + utf8Length (content ++ rest) = edge) :
    Group.Twin c c' v edge (abandoned brace content (rest ++ remark c v))
      (abandoned brace content (rest ++ remark c' v)) := by
  rw [utf8Length_append] at hedge
  refine ⟨rfl, rfl, .inl ⟨rfl, ?_⟩, .inl ⟨rfl, ?_⟩, .before (htrails.right ?_) ?_⟩
  · show brace ≤ edge
    omega
  · show brace + 1 ≤ edge
    omega
  · exact escapes_of_not_mem fun hmem => hquiet _ hmem (by simp)
  · omega

/-- A group that begins before the comment and covers it. -/
theorem has_of_content {brace : Nat} {w more : List Char} {g : Group} (hbrace : g.brace = brace)
    (hedge : brace + 1 + utf8Length w = edge) (hcontent : g.content = w ++ '%' :: more) :
    g.Has edge := by
  have hpos := ('%').utf8Size_pos
  constructor
  · show g.brace + 1 ≤ edge
    omega
  · show edge < g.brace + 1 + utf8Length g.content
    rw [hcontent, utf8Length_append, utf8Length_cons]
    omega

/-- What is plain at the start of a body is in the group. -/
theorem plain_prefix_content (brace : Nat) (body : List Char) :
    (Cursor.split endsPlain body).1 <+: (ofBody brace body).content := by
  have hquiet : Quiet (Cursor.split endsPlain body).1 := quiet_of_mem_split body
  have happend := Cursor.split_append endsPlain body
  simp only [ofBody]
  generalize Cursor.split endsPlain body = parts at hquiet happend
  obtain ⟨plain, after⟩ := parts
  dsimp only at hquiet happend ⊢
  split
  · exact List.prefix_refl _
  · exact List.prefix_refl _
  · exact List.prefix_refl _
  · cases hbalanced : balanced? brace body with
    | none => exact List.prefix_refl _
    | some g =>
        obtain ⟨content, rest, hfound, rfl⟩ := exists_of_balanced? hbalanced
        rw [← untilClosing?_append hfound] at happend
        rcases List.append_eq_append_iff.1 happend with ⟨more, hcontent, -⟩ | ⟨more, hplain, hrest⟩
        · exact ⟨more, hcontent.symm⟩
        · cases more with
          | nil => exact ⟨[], by simpa [closedBy] using hplain⟩
          | cons d more =>
              -- the brace that closes the group is not plain
              obtain ⟨rfl, -⟩ := List.cons.inj hrest
              exact absurd (by simp) (hquiet '}' (by simp [hplain]))

/-- **A group that does not show the comment is the same in both texts.** -/
theorem twin_ofBody {brace : Nat} {w : List Char} (htrails : Trails w)
    (hedge : brace + 1 + utf8Length w = edge)
    (hhas : ¬ (ofBody brace (w ++ remark c v)).Has edge)
    (hhas' : ¬ (ofBody brace (w ++ remark c' v)).Has edge) :
    Group.Twin c c' v edge (ofBody brace (w ++ remark c v)) (ofBody brace (w ++ remark c' v)) := by
  cases ahead_ofBody brace w with
  | closed hw hbody =>
      subst hw
      rw [hbody _ (solidly_remark c v), hbody _ (solidly_remark c' v)]
      exact twin_closedBy htrails hedge
  | abandoned hw hquiet hbody =>
      subst hw
      rw [hbody _ (solidly_remark c v), hbody _ (solidly_remark c' v)]
      exact twin_abandoned hquiet htrails hedge
  | nested depth hw hquiet hbody hclosing =>
      rename_i content rest
      rw [htrails.mode] at hclosing
      -- a brace that closes the group is behind the comment
      have hgiven (d : List Char) (hhas : ¬ (ofBody brace (w ++ remark d v)).Has edge) :
          ofBody brace (w ++ remark d v) = .abandoned brace content (rest ++ remark d v) := by
        have hgroup := hbody _ (solidly_remark d v)
        cases hbalanced : balanced? brace (w ++ remark d v) with
        | none => rw [hgroup, hbalanced]; rfl
        | some g =>
            obtain ⟨content, rest, hfound, rfl⟩ := exists_of_balanced? hbalanced
            rw [hclosing] at hfound
            obtain ⟨⟨read, rest'⟩, hread, heq⟩ := Option.map_eq_some_iff.1 hfound
            obtain ⟨⟨more, rest''⟩, -, heq'⟩ := Option.map_eq_some_iff.1
              (show (untilClosing? depth .comment (d ++ '\n' :: v)).map _ = _ from hread)
            cases heq'
            cases heq
            rw [hgroup, hbalanced] at hhas
            exact absurd (has_of_content rfl hedge rfl) hhas
      rw [hgiven c hhas, hgiven c' hhas']
      subst hw
      exact twin_abandoned hquiet htrails hedge
  | plain hquiet hsplit =>
      have hcontent := plain_prefix_content brace (w ++ remark c v)
      rw [hsplit _ (solidly_remark c v)] at hcontent
      obtain ⟨more, hmore⟩ := hcontent
      have hremark : (Cursor.split endsPlain (remark c v)).1 =
          '%' :: (Cursor.split endsPlain (c ++ '\n' :: v)).1 := rfl
      rw [hremark, List.append_assoc] at hmore
      exact absurd (has_of_content (takes_ofBody _ _).brace_eq hedge hmore.symm) hhas

theorem twin_read? {k k' : Cursor} (hc : '\n' ∉ c) (hc' : '\n' ∉ c')
    (h : Latex.Twin c c' v edge k k') (hhas : ∀ g ∈ read? k, ¬ g.Has edge)
    (hhas' : ∀ g ∈ read? k', ¬ g.Has edge) :
    Option.Rel (Group.Twin c c' v edge) (read? k) (read? k') := by
  rcases (h.skipLayout hc hc').at_or (show '{' ≠ '%' by decide) with hat | ⟨hk, hk'⟩
  · generalize hhere : skipLayout k = here at hat
    generalize hhere' : skipLayout k' = here' at hat
    cases hat with
    | behind n body =>
        rw [read?_brace (congrArg Cursor.rest hhere), read?_brace (congrArg Cursor.rest hhere'),
          hhere, hhere']
        exact .some (twin_behind n body)
    | @before o w hw ho =>
        have hread := read?_brace (congrArg Cursor.rest hhere)
        have hread' := read?_brace (congrArg Cursor.rest hhere')
        rw [hhere] at hread
        rw [hhere'] at hread'
        rw [hread, hread']
        have hw' : Trails ([] ++ '{' :: w) := hw
        exact .some (twin_ofBody (hw'.tail (by decide)) ho (hhas _ hread) (hhas' _ hread'))
  · rw [read?_nothing hk, read?_nothing hk']
    exact .none

end Group

end Manuscript.Latex

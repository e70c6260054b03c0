/-
# Manuscript.Proofs.Latex.Balance -- braces that do not match are reported

The braces of a text are read in four ways: as events of the scan, as the end of a plain
key group, inside a key group with groups in it, and inside an optional argument.  The
first three count groups.  The last counts brackets and braces alike, so the braces that
it skips may not match, and no problem says so (`not_balanced_option`).

That is the only way.  `depth?` follows how many groups are open.  Every reading changes
it as its events do (`Reading.accounts_at`): a key group that is closed leaves it as it
was, and so does a skipped argument whose own braces match.  The pending state follows it
too, and with no problem of braces nothing is open at the end (`Pending.depth?_of_silent`).
So a text without comments and verbatim bodies whose optional arguments match, matches
when no problem of braces is reported (`balanced_of_silent`).
-/
import Manuscript.Proofs.Latex.Nesting

namespace Manuscript.Latex

set_option autoImplicit false

open Text

/-! ## The braces of a text -/

/-- The braces of a text.  A backslash and the character behind it are one token; `escaped`
says that the text starts behind a backslash. -/
def braces (escaped : Bool) : List Char → List Char
  | [] => []
  | c :: cs =>
      if escaped then braces false cs
      else if c = '\\' then braces true cs
      else if c = '{' ∨ c = '}' then c :: braces false cs
      else braces false cs

/-- No brace closes a group that is not open, and no group stays open. -/
structure Balanced (bs : List Char) : Prop where
  front_le : ∀ front, front <+: bs → front.count '}' ≤ front.count '{'
  count_eq : bs.count '{' = bs.count '}'

/-- How many groups are open behind some braces when `n` are open in front of them, unless one
is closed that is not open. -/
def depth? : Nat → List Char → Option Nat
  | n, [] => some n
  | n, b :: bs =>
      if b = '{' then depth? (n + 1) bs
      else if b = '}' then if n = 0 then none else depth? (n - 1) bs
      else depth? n bs

@[simp] theorem depth?_nil (n : Nat) : depth? n [] = some n := rfl

@[simp] theorem depth?_open (n : Nat) (bs : List Char) :
    depth? n ('{' :: bs) = depth? (n + 1) bs := rfl

@[simp] theorem depth?_close (n : Nat) (bs : List Char) :
    depth? (n + 1) ('}' :: bs) = depth? n bs := rfl

theorem depth?_append (n : Nat) (as bs : List Char) :
    depth? n (as ++ bs) = (depth? n as).bind (depth? · bs) := by
  induction as generalizing n with
  | nil => rfl
  | cons a as ih =>
      rw [List.cons_append, depth?, depth?]
      split
      · exact ih (n + 1)
      split
      · split
        · rfl
        · exact ih (n - 1)
      · exact ih n

/-- The depth is the difference of the two counts. -/
theorem depth?_eq_some {n m : Nat} {bs : List Char} : depth? n bs = some m ↔
    (∀ front, front <+: bs → front.count '}' ≤ n + front.count '{') ∧
      n + bs.count '{' = m + bs.count '}' := by
  induction bs generalizing n with
  | nil => simp [List.prefix_nil]
  | cons b bs ih =>
      have hfront : (∀ front, front <+: b :: bs → front.count '}' ≤ n + front.count '{') ↔
          ∀ front, front <+: bs → (b :: front).count '}' ≤ n + (b :: front).count '{' := by
        simp only [List.prefix_cons_iff]
        constructor
        · exact fun h front hfront => h _ (.inr ⟨front, rfl, hfront⟩)
        · rintro h _ (rfl | ⟨front, rfl, hfront⟩)
          · exact Nat.zero_le _
          · exact h front hfront
      rw [hfront, depth?]
      by_cases hopen : b = '{'
      · subst hopen
        simp only [if_true, ih, List.count_cons_self, List.count_cons_of_ne
          (show ('{' : Char) ≠ '}' by decide), Nat.add_right_comm n, Nat.add_assoc n]
      rw [if_neg hopen]
      by_cases hclose : b = '}'
      · subst hclose
        simp only [if_true, List.count_cons_self, List.count_cons_of_ne
          (show ('}' : Char) ≠ '{' by decide)]
        by_cases hzero : n = 0
        · subst hzero
          simp only [if_true, reduceCtorEq, false_iff, not_and]
          intro h
          simpa using h [] List.nil_prefix
        · rw [if_neg hzero, ih]
          constructor
          · exact fun h => ⟨fun front hfront => by have := h.1 front hfront; omega, by omega⟩
          · exact fun h => ⟨fun front hfront => by have := h.1 front hfront; omega, by omega⟩
      · simp only [if_neg hclose, ih, List.count_cons_of_ne hopen, List.count_cons_of_ne hclose]

theorem balanced_iff {bs : List Char} : Balanced bs ↔ depth? 0 bs = some 0 := by
  rw [depth?_eq_some]
  constructor
  · exact fun h => ⟨by simpa using h.front_le, by simpa using h.count_eq⟩
  · exact fun h => ⟨by simpa using h.1, by simpa using h.2⟩

instance (bs : List Char) : Decidable (Balanced bs) := decidable_of_iff _ balanced_iff.symm

/-- No brace closes a group that is not open. -/
def Unclosing (bs : List Char) : Prop :=
  ∀ front, front <+: bs → front.count '}' ≤ front.count '{'

theorem unclosing_iff {bs : List Char} : Unclosing bs ↔ (depth? 0 bs).isSome := by
  rw [Option.isSome_iff_exists]
  simp only [depth?_eq_some, Nat.zero_add]
  refine ⟨fun h => ⟨_, h, (Nat.sub_add_cancel (h _ (List.prefix_refl _))).symm⟩, ?_⟩
  rintro ⟨_, h, -⟩
  exact h

instance (bs : List Char) : Decidable (Unclosing bs) := decidable_of_iff _ unclosing_iff.symm

/-- Braces that match leave the depth as it was. -/
theorem Balanced.depth?_append {bs : List Char} (h : Balanced bs) (n : Nat) (rest : List Char) :
    depth? n (bs ++ rest) = depth? n rest := by
  have hdepth : depth? n bs = some n := by
    rw [depth?_eq_some]
    exact ⟨fun front hfront => Nat.le_trans (h.front_le front hfront) (Nat.le_add_left _ _), by
      rw [h.count_eq]⟩
  rw [Latex.depth?_append, hdepth, Option.bind_some]

/-- Characters without a backslash and without braces have no braces. -/
theorem braces_quiet {read : List Char} (h : ∀ c ∈ read, c ∉ ['\\', '{', '}'])
    (rest : List Char) : braces false (read ++ rest) = braces false rest := by
  induction read with
  | nil => rfl
  | cons c read ih =>
      have hc := h c List.mem_cons_self
      simp only [List.mem_cons, List.not_mem_nil, or_false, not_or] at hc
      simp only [List.cons_append, braces, hc.1, hc.2, or_self, if_false, Bool.false_eq_true]
      exact ih fun d hd => h d (List.mem_cons_of_mem c hd)

/-! ## The braces that are met -/

/-- The brace that an event is about. -/
def Event.brace? : Event → Option Char
  | .braceOpened _ => some '{'
  | .braceClosed _ => some '}'
  | _ => none

/-- None of these problems is one of braces. -/
def Silent (diagnostics : List Diagnostic) : Prop :=
  ∀ d ∈ diagnostics, d.code ≠ some "TEX001" ∧ d.code ≠ some "TEX002"

namespace Pending

/-- A problem that is found stays. -/
theorem mem_diagnostics_foldl {p : Pending} {d : Diagnostic} (h : d ∈ p.diagnostics)
    (events : List Event) : d ∈ (events.foldl Pending.step p).finish := by
  have hstep : ∀ (p : Pending) (e : Event), d ∈ p.diagnostics → d ∈ (p.step e).diagnostics := by
    intro p e hd
    cases e with
    | braceClosed offset =>
        obtain ⟨braces, environments, matched, diagnostics⟩ := p
        cases braces with
        | nil => exact List.mem_append_left _ hd
        | cons _ _ => exact hd
    | environmentClosed name span =>
        rcases close_cases p name span with ⟨inner, opening, outer, -, hclose⟩ | hclose <;>
          simp only [Pending.step, hclose] <;> exact List.mem_append_left _ hd
    | fault _ => exact List.mem_append_left _ hd
    | _ => exact hd
  have hfold : d ∈ (events.foldl Pending.step p).diagnostics :=
    List.foldlRecOn events Pending.step (motive := fun p => d ∈ p.diagnostics) h
      fun p hp e _ => hstep p e hp
  exact List.mem_append_left _ (List.mem_append_left _ hfold)

theorem braces_step_of_none {e : Event} (h : e.brace? = none) (p : Pending) :
    (p.step e).braces = p.braces := by
  cases e with
  | braceOpened _ => cases h
  | braceClosed _ => cases h
  | environmentClosed name span =>
      rcases close_cases p name span with ⟨inner, opening, outer, -, hclose⟩ | hclose <;>
        simp only [Pending.step, hclose]
  | _ => rfl

/-- **Without a problem of braces the braces that are met match**: none is left open by a key
group, and the others close each other. -/
theorem depth?_of_silent {events : List Event} {p : Pending}
    (h : Silent (events.foldl Pending.step p).finish) :
    (∀ brace, .fault (missingBrace brace) ∉ events) ∧
      depth? p.braces.length (events.filterMap Event.brace?) = some 0 := by
  induction events generalizing p with
  | nil =>
      refine ⟨fun _ => List.not_mem_nil, ?_⟩
      cases hbraces : p.braces with
      | nil => rfl
      | cons offset outer =>
          have hmem : missingBrace offset ∈ p.finish :=
            List.mem_append_left _ (List.mem_append_right _
              (List.mem_map_of_mem (List.mem_reverse.2 (hbraces ▸ List.mem_cons_self))))
          exact absurd rfl (h _ hmem).2
  | cons e events ih =>
      obtain ⟨hfaults, hdepth⟩ := ih h
      constructor
      · intro brace hmem
        rcases List.mem_cons.1 hmem with rfl | hmem
        · have hfound : missingBrace brace ∈ (p.step (.fault (missingBrace brace))).diagnostics :=
            List.mem_append_right _ (List.mem_singleton_self _)
          exact (h _ (mem_diagnostics_foldl hfound events)).2 rfl
        · exact hfaults brace hmem
      · cases hbrace : e.brace? with
        | none =>
            rw [List.filterMap_cons_none hbrace, ← braces_step_of_none hbrace p]
            exact hdepth
        | some b =>
            rw [List.filterMap_cons_some hbrace]
            cases e with
            | braceOpened offset =>
                cases hbrace
                exact hdepth
            | braceClosed offset =>
                cases hbrace
                obtain ⟨braces, environments, matched, diagnostics⟩ := p
                cases braces with
                | nil =>
                    have hfound : unmatchedBrace offset ∈
                        (Pending.step ⟨[], environments, matched, diagnostics⟩
                          (.braceClosed offset)).diagnostics :=
                      List.mem_append_right _ (List.mem_singleton_self _)
                    exact absurd rfl (h _ (mem_diagnostics_foldl hfound events)).1
                | cons _ outer => exact hdepth
            | _ => cases hbrace

end Pending

/-! ## Places as deep as each other -/

/-- As many groups are open at the one place as at the other. -/
def Level (k k' : Cursor) : Prop :=
  ∀ n, depth? n (braces false k.rest) = depth? n (braces false k'.rest)

theorem Level.trans {a b c : Cursor} (hab : Level a b) (hbc : Level b c) : Level a c :=
  fun n => (hab n).trans (hbc n)

theorem not_mem_of_reaches {k k' : Cursor} (h : k.Reaches k') {c : Char} (hc : c ∉ k.rest) :
    c ∉ k'.rest := by
  obtain ⟨read, hread, -⟩ := h
  rw [hread] at hc
  exact fun hmem => hc (List.mem_append_right read hmem)

/-- Text without comments is laid out with blanks alone. -/
theorem isLayout_of_mem_afterLayout {cs : List Char} (h : '%' ∉ cs) :
    ∀ c ∈ (afterLayout false cs).1, isLayout c = true := by
  induction cs with
  | nil => exact List.forall_mem_nil _
  | cons c cs ih =>
      rw [List.mem_cons, not_or] at h
      unfold afterLayout
      by_cases hlayout : isLayout c = true
      · simp only [Bool.false_eq_true, if_false, hlayout, if_true]
        exact List.forall_mem_cons.2 ⟨hlayout, ih h.2⟩
      · simp [hlayout, Ne.symm h.1]

theorem quiet_of_isLayout {c : Char} (h : isLayout c = true) : c ∉ ['\\', '{', '}'] := by
  simp only [isLayout, Bool.or_eq_true, beq_iff_eq] at h
  rcases h with ((rfl | rfl) | rfl) | rfl <;> decide

theorem braces_skipLayout {k : Cursor} (h : '%' ∉ k.rest) :
    braces false (skipLayout k).rest = braces false k.rest := by
  have hquiet := braces_quiet
    (fun c hc => quiet_of_isLayout (isLayout_of_mem_afterLayout h c hc)) (afterLayout false k.rest).2
  rw [afterLayout_append] at hquiet
  exact hquiet.symm

/-- The text ends where a token ends. -/
def Whole (escaped : Bool) (read : List Char) : Prop :=
  ∀ rest, braces escaped (read ++ rest) = braces escaped read ++ braces false rest

theorem Whole.append {as bs : List Char} (ha : Whole false as) (hb : Whole false bs) :
    Whole false (as ++ bs) := by
  intro rest
  rw [List.append_assoc, ha, hb, ha, List.append_assoc]

theorem whole_quiet {read : List Char} (h : ∀ c ∈ read, c ∉ ['\\', '{', '}']) :
    Whole false read := by
  intro rest
  have hread := braces_quiet h []
  rw [List.append_nil] at hread
  rw [braces_quiet h, hread]
  rfl

/-- An optional argument ends where a token ends. -/
theorem whole_untilBracket? {depth : Nat} {escaped : Bool} {cs read rest : List Char}
    (h : untilBracket? depth escaped cs = some (read, rest)) : Whole escaped read := by
  induction cs generalizing depth escaped read with
  | nil => cases h
  | cons c cs ih =>
      have step : ∀ {d e}, ((untilBracket? d e cs).map fun p => (c :: p.1, p.2)) =
          some (read, rest) → ∃ read', read = c :: read' ∧ Whole e read' := by
        intro d e hmap
        obtain ⟨⟨read', rest'⟩, hfound, heq⟩ := Option.map_eq_some_iff.1 hmap
        cases heq
        exact ⟨read', rfl, ih hfound⟩
      have plain : ∀ {d}, escaped = false → c ≠ '\\' →
          ((untilBracket? d false cs).map fun p => (c :: p.1, p.2)) = some (read, rest) →
          Whole escaped read := by
        rintro d rfl hslash hmap tail
        obtain ⟨read', rfl, hwhole⟩ := step hmap
        simp only [List.cons_append, braces, hslash, if_false, Bool.false_eq_true, hwhole tail]
        split <;> rfl
      unfold untilBracket? at h
      cases escaped with
      | true =>
          obtain ⟨read', rfl, hwhole⟩ := step h
          exact hwhole
      | false =>
          rw [if_neg Bool.false_ne_true] at h
          split at h
          · rename_i hslash
            obtain ⟨read', rfl, hwhole⟩ := step h
            subst hslash
            exact hwhole
          rename_i hslash
          split at h
          · exact plain rfl hslash h
          split at h
          · split at h
            · split at h
              · -- the bracket that ends the argument
                rename_i hbracket
                cases h
                subst hbracket
                exact whole_quiet (by simp)
              · cases h
            · exact plain rfl hslash h
          · exact plain rfl hslash h

theorem whole_option? {k k' : Cursor} (hcomment : '%' ∉ k.rest) (h : option? k = some k') :
    ∃ skipped, k.rest = skipped ++ k'.rest ∧ Whole false skipped := by
  simp only [option?, skipLayout] at h
  have hblank := fun c hc => quiet_of_isLayout (isLayout_of_mem_afterLayout hcomment c hc)
  have happend := afterLayout_append false k.rest
  generalize afterLayout false k.rest = found at h hblank happend
  obtain ⟨layout, here⟩ := found
  simp only [Cursor.after] at h
  split at h
  · rename_i inside
    obtain ⟨⟨read, rest⟩, hread, rfl⟩ := Option.map_eq_some_iff.1 h
    have hbracket : Whole false ['['] := whole_quiet (by simp)
    refine ⟨layout ++ (['['] ++ read), ?_,
      (whole_quiet hblank).append (hbracket.append (whole_untilBracket? hread))⟩
    rw [← happend, ← untilBracket?_append hread]
    simp
  · cases h

/-- What is skipped in front of a group ends where a token ends. -/
theorem whole_skipOptions {k : Cursor} (hcomment : '%' ∉ k.rest) :
    ∃ skipped, k.rest = skipped ++ (skipOptions k).rest ∧ Whole false skipped := by
  induction k using skipOptions.induct with
  | case1 k k' hoption ih =>
      obtain ⟨first, hfirst, hwhole⟩ := whole_option? hcomment hoption
      obtain ⟨more, hmore, hwhole'⟩ := ih (not_mem_of_reaches (reaches_option? hoption).1 hcomment)
      rw [skipOptions_of_some hoption]
      exact ⟨first ++ more, by rw [hfirst, hmore, List.append_assoc], hwhole.append hwhole'⟩
  | case2 k hnone =>
      rw [skipOptions_of_none hnone]
      exact ⟨[], rfl, fun _ => rfl⟩

/-- The optional arguments at a place have braces that match. -/
def Matched (k : Cursor) : Prop :=
  ∀ skipped, k.rest = skipped ++ (skipOptions k).rest → Balanced (braces false skipped)

theorem Matched.level {k : Cursor} (hcomment : '%' ∉ k.rest) (h : Matched k) :
    Level k (skipOptions k) := by
  obtain ⟨skipped, hskipped, hwhole⟩ := whole_skipOptions hcomment
  intro n
  rw [hskipped, hwhole, (h skipped hskipped).depth?_append]

/-! ## Key groups -/

/-- A group that is closed takes one level away. -/
theorem depth?_untilClosing? {depth : Nat} {mode : Mode} {cs read rest : List Char}
    (hcomment : '%' ∉ cs) (hmode : mode ≠ .comment)
    (h : untilClosing? depth mode cs = some (read, '}' :: rest)) (n : Nat) :
    depth? (n + depth + 1) (braces (mode = .escaped) cs) = depth? n (braces false rest) := by
  induction cs generalizing depth mode read with
  | nil => cases h
  | cons c cs ih =>
      rw [List.mem_cons, not_or] at hcomment
      have step : ∀ {d m}, m ≠ .comment →
          ((untilClosing? d m cs).map fun p => (c :: p.1, p.2)) = some (read, '}' :: rest) →
          depth? (n + d + 1) (braces (m = .escaped) cs) = depth? n (braces false rest) := by
        intro d m hm hmap
        obtain ⟨⟨read', rest'⟩, hfound, heq⟩ := Option.map_eq_some_iff.1 hmap
        cases heq
        exact ih hcomment.2 hm hfound
      unfold untilClosing? at h
      cases mode with
      | comment => exact absurd rfl hmode
      | escaped => exact step (by simp [Mode.next]) h
      | plain =>
          by_cases hopen : c = '{'
          · subst hopen
            exact step (m := .plain) (by simp) h
          by_cases hclose : c = '}'
          · subst hclose
            cases depth with
            | zero =>
                cases h
                rfl
            | succ depth => exact step (m := .plain) (by simp) h
          · simp only [hopen, hclose, and_false, if_false] at h
            by_cases hslash : c = '\\'
            · subst hslash
              exact step (m := .escaped) (by simp) h
            · have hnext : Mode.next .plain c = .plain := by
                unfold Mode.next
                split <;> simp_all
              rw [hnext] at h
              have hlevel := step (by simp) h
              simpa [braces, hslash, hopen, hclose] using hlevel

/-- A plain key group has no command and no group in it. -/
theorem quiet_of_mem_split (cs : List Char) :
    ∀ c ∈ (Cursor.split endsPlain cs).1, c ∉ ['\\', '{', '}'] := by
  induction cs with
  | nil => exact List.forall_mem_nil _
  | cons c cs ih =>
      unfold Cursor.split
      split
      · exact List.forall_mem_nil _
      · rename_i hstop
        refine List.forall_mem_cons.2 ⟨?_, ih⟩
        simp only [endsPlain, Bool.or_eq_true, beq_iff_eq, not_or] at hstop
        simp only [List.mem_cons, List.not_mem_nil, or_false, not_or]
        exact ⟨hstop.1.2, hstop.1.1.2, hstop.1.1.1⟩

namespace Group

/-- A closed group is plain up to its brace, or it ends where the groups in it do. -/
theorem closed_cases {brace : Nat} {body : List Char} {g : Group} (hg : ofBody brace body = g)
    (hclosed : g.closed = true) :
    (body = g.content ++ '}' :: g.next.rest ∧ ∀ c ∈ g.content, c ∉ ['\\', '{', '}']) ∨
      untilClosing? 0 .plain body = some (g.content, '}' :: g.next.rest) := by
  have happend := Cursor.split_append endsPlain body
  have hquiet := quiet_of_mem_split body
  simp only [ofBody] at hg
  split at hg
  · rename_i rest hrest
    rw [hrest] at happend
    subst hg
    exact .inl ⟨happend.symm, hquiet⟩
  · subst hg
    cases hclosed
  · subst hg
    cases hclosed
  · cases hbalanced : balanced? brace body with
    | none =>
        rw [hbalanced] at hg
        subst hg
        cases hclosed
    | some found =>
        rw [hbalanced] at hg
        subst hg
        unfold balanced? at hbalanced
        split at hbalanced
        · rename_i content c rest hfound
          obtain ⟨after, hafter⟩ := untilClosing?_rest hfound
          cases hafter
          split at hbalanced
          · cases hbalanced
          · cases hbalanced
            exact .inr hfound
        · cases hbalanced

theorem level_read? {k : Cursor} {g : Group} (hcomment : '%' ∉ k.rest) (h : read? k = some g)
    (hclosed : g.closed = true) : Level k g.next := by
  have hlayout := braces_skipLayout hcomment
  have hhere := not_mem_of_reaches (reaches_skipLayout k) hcomment
  simp only [read?] at h
  split at h
  · rename_i body hbody
    cases h
    rw [hbody] at hlayout hhere
    intro n
    rw [← hlayout]
    show depth? (n + 1) (braces false body) = _
    rcases closed_cases rfl hclosed with ⟨hplain, hquiet⟩ | hfound
    · rw [congrArg (braces false) hplain, braces_quiet hquiet]
      rfl
    · exact depth?_untilClosing? (fun hmem => hhere (List.mem_cons_of_mem _ hmem)) (by simp) hfound n
  · cases h

end Group

/-! ## Readers -/

/-- No key group is half typed. -/
def Complete (events : List Event) : Prop := ∀ brace, .fault (missingBrace brace) ∉ events

theorem Complete.append {as bs : List Event} (h : Complete (as ++ bs)) :
    Complete as ∧ Complete bs :=
  ⟨fun brace hmem => h brace (List.mem_append_left _ hmem),
    fun brace hmem => h brace (List.mem_append_right _ hmem)⟩

theorem Group.level_of_complete {k : Cursor} {g : Group} (hcomment : '%' ∉ k.rest)
    (h : read? k = some g) (hcomplete : Complete g.faults) : Level k g.next := by
  refine level_read? hcomment h ?_
  by_contra hclosed
  exact hcomplete g.brace (by simp [faults, hclosed])

namespace Reading

variable {k : Cursor}

theorem level_keys {event : Symbol → Event} (hcomment : '%' ∉ k.rest)
    (h : Complete (keys event k).events) : Level k (keys event k).next := by
  unfold keys at h ⊢
  split at h
  · rename_i g hg
    exact Group.level_of_complete hcomment hg h.append.1
  · exact fun _ => rfl

theorem level_label (hcomment : '%' ∉ k.rest) (h : Complete (label k).events) :
    Level k (label k).next := by
  unfold label at h ⊢
  split at h
  · rename_i g hg
    exact Group.level_of_complete hcomment hg h.append.1
  · exact fun _ => rfl

theorem level_references {isRange : Bool} (hcomment : '%' ∉ k.rest)
    (h : Complete (references isRange k).events) : Level k (references isRange k).next := by
  unfold references at h ⊢
  split at h
  · rename_i g hg
    have hfirst := Group.level_of_complete hcomment hg h.append.1.append.1
    cases isRange with
    | true =>
        exact hfirst.trans (level_keys (not_mem_of_reaches (Group.reaches_read? hg) hcomment)
          h.append.2)
    | false => exact hfirst
  · exact fun _ => rfl

theorem level_citations (hcomment : '%' ∉ k.rest) (hmatched : Matched k)
    (h : Complete (citations k).events) : Level k (citations k).next := by
  have hoptions := hmatched.level hcomment
  unfold citations at h ⊢
  split at h
  · rename_i g hg
    exact hoptions.trans (Group.level_of_complete
      (not_mem_of_reaches (reaches_skipOptions k) hcomment) hg h.append.1)
  · exact hoptions

theorem level_includes {kind : IncludeKind} (hcomment : '%' ∉ k.rest) (hmatched : Matched k)
    (h : Complete (includes kind k).events) : Level k (includes kind k).next :=
  (hmatched.level hcomment).trans
    (level_keys (not_mem_of_reaches (reaches_skipOptions k) hcomment) h)

theorem level_closing {start : Nat} (hcomment : '%' ∉ k.rest)
    (h : Complete (closing start k).events) : Level k (closing start k).next := by
  unfold closing at h ⊢
  split at h
  · rename_i g hg
    exact Group.level_of_complete hcomment hg h.append.1
  · exact fun _ => rfl

theorem level_opening {start : Nat} (hcomment : '%' ∉ k.rest)
    (hverbatim : ∀ g name, Group.named? k = some (g, name) → Command.isVerbatim name.name = false)
    (h : Complete (opening start k).events) : Level k (opening start k).next := by
  unfold opening at h ⊢
  split at h
  · rename_i g hg
    split at h
    · rename_i name span hname
      have hplain := hverbatim g ⟨name, span⟩ (Group.named?_eq_some.2 ⟨hg, hname⟩)
      simp only [hplain, Bool.false_eq_true, if_false] at h ⊢
      exact Group.level_of_complete hcomment hg h.append.1
    · exact Group.level_of_complete hcomment hg h
  · exact fun _ => rfl

theorem level_heading {start level : Nat} (hcomment : '%' ∉ k.rest) (hmatched : Matched k) :
    Level k (heading start level k).next := by
  have hoptions := hmatched.level hcomment
  have hlayout := braces_skipLayout (not_mem_of_reaches (reaches_skipOptions k) hcomment)
  simp only [heading]
  split
  · exact hoptions.trans fun n => by rw [hlayout]
  · exact hoptions

/-- The letters behind a backslash have no brace. -/
theorem braces_command {c : Char} {more : List Char} (h : ∀ d ∈ more, d ∉ ['\\', '{', '}'])
    (rest : List Char) :
    braces false ('\\' :: (c :: more ++ rest)) = braces false rest :=
  braces_quiet h rest

theorem quiet_of_isLetter {c : Char} (h : isLetter c = true) : c ∉ ['\\', '{', '}'] := by
  simp only [List.mem_cons, List.not_mem_nil, or_false, not_or]
  refine ⟨?_, ?_, ?_⟩ <;> rintro rfl <;> revert h <;> decide

theorem level_definedName? {k' : Cursor} {name : Symbol}
    (h : definedName? k = some (name, k')) : Level k k' := by
  unfold definedName? at h
  split at h
  · rename_i cs hcs
    have hletters := Cursor.forall_mem_split (!isLetter ·) cs
    have happend := Cursor.split_append (startsWith (!isLetter ·)) cs
    split at h
    · cases h
    · rename_i letters rest hne hsplit
      rw [hsplit] at hletters happend
      cases h
      cases letters with
      | nil => exact absurd rfl hne
      | cons c more =>
          intro n
          rw [hcs, ← happend, braces_command]
          · rfl
          · intro d hd
            have := hletters d (List.mem_cons_of_mem c hd)
            exact quiet_of_isLetter (by simpa using this)
  · cases h

theorem level_definition (hcomment : '%' ∉ k.rest) : Level k (definition k).next := by
  by_cases hbrace : ∃ body, (skipLayout k).rest = '{' :: body
  · obtain ⟨body, hbody⟩ := hbrace
    rw [definition_brace hbody]
    exact fun _ => rfl
  · rw [definition_plain fun body hbody => hbrace ⟨body, hbody⟩]
    split
    · rename_i name k' hname
      have hlayout := braces_skipLayout hcomment
      exact fun n => hlayout ▸ level_definedName? hname n
    · exact fun _ => rfl

end Reading

/-! ## Commands -/

/-- Commands whose optional arguments are skipped in front of their group. -/
def Command.takesOptions (command : String) : Bool :=
  (includeKind? command).isSome || isCitation command || (sectionLevel? command).isSome

/-- The name of a command may have optional arguments and a group behind it.  The optional ones
have braces that match, and the group does not begin a verbatim body. -/
structure Tame (name : String) (k : Cursor) : Prop where
  matched : Command.takesOptions name = true → Matched k
  plain : name = "begin" → ∀ g symbol, Group.named? k = some (g, symbol) →
    Command.isVerbatim symbol.name = false

namespace Reading

variable {k : Cursor} {start : Nat} {name : String}

theorem level_arguments (hcomment : '%' ∉ k.rest) (htame : Tame name k) :
    Complete (arguments start name k).events → Level k (arguments start name k).next := by
  unfold arguments
  split
  · exact level_opening hcomment (htame.plain ‹_›)
  split
  · exact level_closing hcomment
  split
  · exact level_label hcomment
  split
  · rename_i kind hkind
    exact level_includes hcomment (htame.matched (by simp [Command.takesOptions, hkind]))
  split
  · exact level_references hcomment
  split
  · rename_i hcitation
    exact level_citations hcomment (htame.matched (by simp [Command.takesOptions, hcitation]))
  split
  · rename_i level hlevel
    exact fun _ => level_heading hcomment (htame.matched (by simp [Command.takesOptions, hlevel]))
  split
  · exact fun _ => level_definition hcomment
  · exact fun _ _ => rfl

theorem brace?_plain {events : List Event} (h : ∀ e ∈ events, e.Plain k) :
    events.filterMap Event.brace? = [] :=
  Event.filterMap_plain h (fun e s hs => by cases e <;> first | rfl | cases hs) fun _ => rfl

theorem brace?_arguments : (arguments start name k).events.filterMap Event.brace? = [] := by
  rcases arguments_cases start name k with ⟨-, h⟩ | ⟨-, h⟩ | ⟨level, h⟩ | h | h
  · rw [h]
    exact filterMap_opening _ _ brace?_plain fun h => by cases h <;> rfl
  · rw [h]
    exact filterMap_closing _ _ brace?_plain fun _ _ => rfl
  · rw [h]
    rcases heading_cases start level k with hevents | ⟨part, k', -, -, hevents⟩ <;>
      rw [hevents] <;> rfl
  · rw [h]
    rcases definition_cases k with hevents | ⟨_, _, _, hevents, -⟩ <;> rw [hevents] <;> rfl
  · exact brace?_plain h

/-- A command name is a letter and what has no brace. -/
theorem exists_of_commandName {d : Char} {ds name rest : List Char} (hletter : isLetter d = true)
    (hname : commandName (d :: ds) = (name, rest)) :
    ∃ more, name = d :: more ∧ ds = more ++ rest ∧ ∀ c ∈ more, c ∉ ['\\', '{', '}'] := by
  have hsplit : Cursor.split (startsWith (!isLetter ·)) (d :: ds) =
      (d :: (Cursor.split (startsWith (!isLetter ·)) ds).1,
        (Cursor.split (startsWith (!isLetter ·)) ds).2) := by
    simp [Cursor.split, startsWith, hletter]
  have hquiet : ∀ c ∈ (Cursor.split (startsWith (!isLetter ·)) ds).1, c ∉ ['\\', '{', '}'] :=
    fun c hc => quiet_of_isLetter (by simpa using Cursor.forall_mem_split (!isLetter ·) ds c hc)
  have happend := Cursor.split_append (startsWith (!isLetter ·)) ds
  unfold commandName at hname
  split at hname
  · rename_i letters rest' hfound
    rw [hsplit] at hfound
    cases hname
    obtain ⟨rfl, hrest⟩ := Prod.mk.inj hfound
    rw [hrest] at happend
    exact ⟨_, rfl, happend.symm.trans (List.append_assoc _ ['*'] rest).symm,
      List.forall_mem_append.2 ⟨hquiet, by simp⟩⟩
  · rw [hsplit] at hname
    cases hname
    exact ⟨_, rfl, happend.symm, hquiet⟩

/-- **A reading changes the depth as its events do.** -/
theorem depth?_at {offset : Nat} {c : Char} {cs : List Char} (hcomment : '%' ∉ c :: cs)
    (htame : c = '\\' → ∀ name rest, commandName cs = (name, rest) →
      Tame (String.ofList name) ⟨offset + 1 + utf8Length name, rest⟩)
    (hcomplete : Complete (Reading.at offset c cs).events) (n : Nat) :
    depth? n (braces false (c :: cs)) =
      depth? n ((Reading.at offset c cs).events.filterMap Event.brace? ++
        braces false (Reading.at offset c cs).next.rest) := by
  rw [List.mem_cons, not_or] at hcomment
  by_cases hslash : c = '\\'
  · subst hslash
    cases cs with
    | nil => rfl
    | cons d ds =>
        by_cases hletter : isLetter d = true
        · cases hname : commandName (d :: ds) with
          | mk name rest =>
              have hread := @at_letters offset _ _ _ _ hletter hname
              obtain ⟨more, rfl, rfl, hquiet⟩ := exists_of_commandName hletter hname
              rw [hread] at hcomplete ⊢
              rw [List.filterMap_cons_none rfl, brace?_arguments, List.nil_append]
              have hlevel := @level_arguments ⟨offset + 1 + utf8Length (d :: more), rest⟩ offset _
                (fun hmem => hcomment.2 (List.mem_append_right (d :: more) hmem))
                (htame rfl _ _ hname) (@Complete.append [_] _ hcomplete).2
              rw [← hlevel n]
              exact congrArg (depth? n) (braces_command hquiet rest)
        · rw [at_symbol hletter]
          rfl
  by_cases hbrace : c = '{' ∨ c = '}'
  · rcases hbrace with rfl | rfl <;> rfl
  · rw [at_other (by simpa [hslash, Ne.symm hcomment.1] using hbrace)]
    show depth? n (braces false (c :: cs)) = depth? n (braces false cs)
    simp only [braces, hslash, hbrace, if_false, Bool.false_eq_true]

end Reading

/-! ## Texts -/

/-- The scan comes to the begin command of an environment whose body is not LaTeX and begins
at `body`. -/
def MeetsVerbatim (k : Cursor) (body : Nat) : Prop :=
  ∃ start cs rest g symbol, Visits k ⟨start, '\\' :: cs⟩ ∧
    commandName cs = ("begin".toList, rest) ∧
    Group.named? ⟨start + 1 + utf8Length "begin".toList, rest⟩ = some (g, symbol) ∧
    Command.isVerbatim symbol.name = true ∧ g.next.offset = body

/-- The scan comes to a command that has these optional arguments in front of its group. -/
def Skips (k : Cursor) (skipped : List Char) : Prop :=
  ∃ start cs name rest, Visits k ⟨start, '\\' :: cs⟩ ∧
    commandName cs = (name.toList, rest) ∧ Command.takesOptions name = true ∧
    rest = skipped ++ (skipOptions ⟨start + 1 + utf8Length name.toList, rest⟩).rest

/-- What is met behind a place that the scan comes to, is met. -/
theorem tame_of_visits {k : Cursor} {start : Nat} {cs name rest : List Char}
    (hverbatim : ∀ body, ¬ MeetsVerbatim k body) (hoptions : ∀ skipped, Skips k skipped →
      Balanced (braces false skipped)) (hvisits : Visits k ⟨start, '\\' :: cs⟩)
    (hname : commandName cs = (name, rest)) :
    Tame (String.ofList name) ⟨start + 1 + utf8Length name, rest⟩ where
  matched := by
    intro htakes skipped hskipped
    refine hoptions skipped ⟨start, cs, String.ofList name, rest, hvisits, ?_, htakes, ?_⟩
    · rw [String.toList_ofList, hname]
    · rw [String.toList_ofList]
      exact hskipped
  plain := by
    intro hbegin g symbol hnamed
    obtain rfl : name = "begin".toList := by rw [← hbegin, String.toList_ofList]
    rw [Bool.eq_false_iff]
    exact fun h => hverbatim _ ⟨start, cs, rest, g, symbol, hvisits, hname, hnamed, h, rfl⟩

/-- **A scan changes the depth as its events do.** -/
theorem depth?_scan {k : Cursor} (hcomment : '%' ∉ k.rest)
    (hverbatim : ∀ body, ¬ MeetsVerbatim k body)
    (hoptions : ∀ skipped, Skips k skipped → Balanced (braces false skipped))
    (hcomplete : Complete (scan k)) (n : Nat) :
    depth? n (braces false k.rest) = depth? n ((scan k).filterMap Event.brace?) := by
  induction k using scan_induction generalizing n with
  | nil offset =>
      rw [scan_nil]
      rfl
  | cons offset c cs ih =>
      rw [scan_cons] at hcomplete ⊢
      have hvisits : ∀ {k'}, Visits (Reading.at offset c cs).next k' →
          Visits ⟨offset, c :: cs⟩ k' := .next
      have hrest := ih
        (not_mem_of_reaches (k := ⟨offset + c.utf8Size, cs⟩) (Reading.from_token offset c _)
          fun hmem => hcomment (List.mem_cons_of_mem c hmem))
        (fun body ⟨start, cs', rest, g, symbol, hvisit, hmeets⟩ =>
          hverbatim body ⟨start, cs', rest, g, symbol, hvisits hvisit, hmeets⟩)
        (fun skipped ⟨start, cs', name, rest, hvisit, hskips⟩ =>
          hoptions skipped ⟨start, cs', name, rest, hvisits hvisit, hskips⟩)
        hcomplete.append.2
      rw [Reading.depth?_at hcomment ?_ hcomplete.append.1, List.filterMap_append, depth?_append,
        depth?_append]
      · simp only [hrest]
      · rintro rfl name rest hname
        exact tame_of_visits hverbatim hoptions (.here _) hname

/-- **A text whose braces do not match is reported**, if it has no comment and no verbatim body
and the braces of the optional arguments that are skipped match. -/
theorem balanced_of_silent (text : String) (hcomment : '%' ∉ text.toList)
    (hverbatim : ∀ body, ¬ MeetsVerbatim (.ofString text) body)
    (hoptions : ∀ skipped, Skips (.ofString text) skipped → Balanced (braces false skipped))
    (hsilent : Silent (analyze text).diagnostics) : Balanced (braces false text.toList) := by
  have hfinish : Silent ((scan (.ofString text)).foldl Pending.step .start).finish :=
    fun d hd => hsilent d (List.mem_mergeSort.2 hd)
  obtain ⟨hcomplete, hdepth⟩ := Pending.depth?_of_silent hfinish
  rw [balanced_iff]
  exact (depth?_scan hcomment hverbatim hoptions hcomplete 0).trans hdepth

/-- The scan of a text that is one command comes to that command alone. -/
theorem visits_command {text : String} {cs cs' : List Char} {start stop : Nat}
    (htext : text.toList = '\\' :: cs) (hnext : (Reading.at 0 '\\' cs).next = ⟨stop, []⟩)
    (h : Visits (.ofString text) ⟨start, '\\' :: cs'⟩) : start = 0 ∧ cs' = cs := by
  rw [Cursor.ofString, htext] at h
  cases h with
  | here => exact ⟨rfl, rfl⟩
  | next h =>
      rw [hnext] at h
      cases h

/-- It is no begin command if its name is another. -/
theorem not_meetsVerbatim_command {text : String} {cs : List Char} {stop : Nat}
    (htext : text.toList = '\\' :: cs) (hnext : (Reading.at 0 '\\' cs).next = ⟨stop, []⟩)
    (hname : (commandName cs).1 ≠ "begin".toList) (body : Nat) :
    ¬ MeetsVerbatim (.ofString text) body := by
  rintro ⟨start, cs', rest, g, symbol, hvisits, hbegin, -⟩
  obtain ⟨-, rfl⟩ := visits_command htext hnext hvisits
  rw [hbegin] at hname
  exact hname rfl

theorem balanced_of_silent_option :
    let text := "\\cite[\x7bx\x7d]\x7ba\x7d"
    '%' ∉ text.toList ∧ (∀ body, ¬ MeetsVerbatim (.ofString text) body) ∧
      (∀ skipped, Skips (.ofString text) skipped → Balanced (braces false skipped)) ∧
      Silent (analyze text).diagnostics ∧ Balanced (braces false text.toList) := by
  intro text
  have htext : text.toList = '\\' :: "cite[\x7bx\x7d]\x7ba\x7d".toList := by decide
  have hnext : (Reading.at 0 '\\' "cite[\x7bx\x7d]\x7ba\x7d".toList).next = ⟨13, []⟩ := by
    decide +kernel
  have hcomment : '%' ∉ text.toList := by decide
  have hverbatim := not_meetsVerbatim_command htext hnext (by decide)
  have hoptions : ∀ skipped, Skips (.ofString text) skipped →
      Balanced (braces false skipped) := by
    rintro skipped ⟨start, cs, name, rest, hvisits, hname, -, hskipped⟩
    obtain ⟨rfl, rfl⟩ := visits_command htext hnext hvisits
    obtain ⟨hcite, rfl⟩ := Prod.mk.inj (hname.symm.trans
      (show _ = ("cite".toList, "[\x7bx\x7d]\x7ba\x7d".toList) by decide))
    have hrest : (skipOptions ⟨0 + 1 + utf8Length "cite".toList,
        "[\x7bx\x7d]\x7ba\x7d".toList⟩).rest = "\x7ba\x7d".toList := by
      decide +kernel
    rw [hcite, hrest] at hskipped
    obtain rfl : skipped = "[\x7bx\x7d]".toList :=
      List.append_cancel_right (hskipped.symm.trans (by decide))
    decide
  have hsilent : Silent (analyze text).diagnostics := by
    have hnone : (analyze text).diagnostics = [] := by decide +kernel
    rw [hnone]
    exact List.forall_mem_nil _
  exact ⟨hcomment, hverbatim, hoptions, hsilent,
    balanced_of_silent text hcomment hverbatim hoptions hsilent⟩

/-- The bracket ends the group in the optional argument: `[{]]` is skipped, a group stays open,
and nothing says so. -/
theorem not_balanced_option :
    let text := "\\cite[\x7b]]\x7ba\x7d"
    '%' ∉ text.toList ∧ (∀ body, ¬ MeetsVerbatim (.ofString text) body) ∧
      Silent (analyze text).diagnostics ∧ ¬ Balanced (braces false text.toList) := by
  intro text
  have htext : text.toList = '\\' :: "cite[\x7b]]\x7ba\x7d".toList := by decide
  have hnext : (Reading.at 0 '\\' "cite[\x7b]]\x7ba\x7d".toList).next = ⟨12, []⟩ := by
    decide +kernel
  refine ⟨by decide, not_meetsVerbatim_command htext hnext (by decide), ?_, by decide⟩
  have hnone : (analyze text).diagnostics = [] := by decide +kernel
  rw [hnone]
  exact List.forall_mem_nil _

end Manuscript.Latex

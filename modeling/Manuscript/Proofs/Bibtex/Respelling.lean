/-
# Manuscript.Proofs.Bibtex.Respelling -- two spellings of a key are read alike

Leave a key open wherever a scan met it (`Keyed`).  Filled with another name the form is cut in
the same places, and the open ones are keys again (`exists_form`).

Nothing reads over a key but the search for the end of a piece that is never closed.  A key in
braces is inside a group there, so only its braces count and whether it ends in a backslash
(`InBraces`).  A key in parentheses need not be: a quote in it may close the piece, and a
closing parenthesis ends the key itself (`InParentheses`).
-/
import Manuscript.Proofs.Bibtex.Lookahead
import Manuscript.Proofs.Text.Ahead
import Manuscript.Proofs.Text.Form

namespace Manuscript.Bibtex

set_option autoImplicit false

open Text Text.Form Markup

/-! ## Names -/

/-- The name is a key between braces, and escapes nothing after it. -/
structure InBraces (w : List Char) : Prop where
  nonempty : w ≠ []
  chars : ∀ c ∈ w, isKeyChar .brace c = true
  last : w.getLast? ≠ some '\\'

/-- The name is a key between parentheses as well. -/
structure InParentheses (w : List Char) : Prop extends InBraces w where
  closing : ')' ∉ w
  quote : '"' ∉ w

/-- The characters that count in the search for the end of a piece are braces, quotes and
backslashes.  A key has no braces. -/
theorem InBraces.ne_brace {w : List Char} (h : InBraces w) {c : Char} (hc : c ∈ w) :
    c ≠ '{' ∧ c ≠ '}' := by
  have hchar := h.chars c hc
  simp only [isKeyChar, List.mem_cons, List.not_mem_nil, or_false, not_or, Bool.and_eq_true,
    decide_eq_true_eq] at hchar
  exact ⟨hchar.1.2.1, hchar.1.2.2.1⟩

/-! ## Searches that do not end -/

/-- Blanks and a key open and close nothing, and escape nothing. -/
theorem InBraces.after_blanks {w : List Char} (h : InBraces w) (before : Blanks) :
    (∀ c ∈ before.text ++ w, c ≠ '{' ∧ c ≠ '}') ∧ escapes false (before.text ++ w) = false := by
  constructor
  · intro c hc
    rcases List.mem_append.1 hc with hc | hc
    · have hblank := before.blank c hc
      constructor <;> rintro rfl <;> exact absurd hblank (by decide)
    · exact h.ne_brace hc
  · refine escapes_eq_false (List.append_ne_nil_of_right_ne_nil _ h.nonempty) ?_ false
    rw [List.getLast?_append_of_ne_nil _ h.nonempty]
    exact h.last

/-- How a search for the end of a piece fails. -/
structure Unclosed (f : Nat × Bool → List Char → Option (List Char × List Char)) : Prop
    extends Seeks f where
  opens : ∀ depth cs, f (depth, false) ('{' :: cs) = none ↔ f (depth + 1, false) cs = none
  reads : ∀ depth escaped c cs, c ≠ '{' → c ≠ '}' → f (depth, escaped) (c :: cs) = none →
    f (depth, !escaped && decide (c = '\\')) cs = none
  passes : ∀ depth escaped c cs, c ≠ '{' → c ≠ '}' → (c = '"' → depth ≠ 0) →
    f (depth, !escaped && decide (c = '\\')) cs = none → f (depth, escaped) (c :: cs) = none

theorem unclosed_inBraces : Unclosed fun s : Nat × Bool => inBraces? s.1 s.2 where
  toSeeks := seeks_inBraces
  opens depth cs := by simp [inBraces?]
  reads depth escaped c cs hopen hclose h := by
    cases escaped with
    | true => simpa [inBraces?] using h
    | false =>
        by_cases hescape : c = '\\'
        · simpa [inBraces?, hescape] using h
        · simpa [inBraces?, hescape, hopen, hclose] using h
  passes depth escaped c cs hopen hclose _ h := by
    cases escaped with
    | true => simpa [inBraces?] using h
    | false =>
        by_cases hescape : c = '\\'
        · simpa [inBraces?, hescape] using h
        · simpa [inBraces?, hescape, hopen, hclose] using h

theorem unclosed_inQuotes : Unclosed fun s : Nat × Bool => inQuotes? s.1 s.2 where
  toSeeks := seeks_inQuotes
  opens depth cs := by simp [inQuotes?]
  reads depth escaped c cs hopen hclose h := by
    cases escaped with
    | true => simpa [inQuotes?] using h
    | false =>
        by_cases hescape : c = '\\'
        · simpa [inQuotes?, hescape] using h
        by_cases hquote : c = '"' ∧ depth = 0
        · simp [inQuotes?, hquote] at h
        · simpa [inQuotes?, hescape, hopen, hclose, hquote] using h
  passes depth escaped c cs hopen hclose hquote h := by
    have hquote : ¬ (c = '"' ∧ depth = 0) := fun hboth => hquote hboth.1 hboth.2
    cases escaped with
    | true => simpa [inQuotes?] using h
    | false =>
        by_cases hescape : c = '\\'
        · simpa [inQuotes?, hescape] using h
        · simpa [inQuotes?, hescape, hopen, hclose, hquote] using h

namespace Unclosed

variable {f : Nat × Bool → List Char → Option (List Char × List Char)} {depth : Nat}
  {escaped : Bool} {text cs : List Char}

theorem reads_text (hf : Unclosed f) (hbrace : ∀ c ∈ text, c ≠ '{' ∧ c ≠ '}')
    (h : f (depth, escaped) (text ++ cs) = none) : f (depth, escapes escaped text) cs = none := by
  induction text generalizing escaped with
  | nil => exact h
  | cons c text ih =>
      obtain ⟨hopen, hclose⟩ := hbrace c List.mem_cons_self
      exact ih (fun d hd => hbrace d (List.mem_cons_of_mem c hd)) (hf.reads _ _ _ _ hopen hclose h)

theorem passes_text (hf : Unclosed f) (hbrace : ∀ c ∈ text, c ≠ '{' ∧ c ≠ '}')
    (hquote : '"' ∈ text → depth ≠ 0) (h : f (depth, escapes escaped text) cs = none) :
    f (depth, escaped) (text ++ cs) = none := by
  induction text generalizing escaped with
  | nil => exact h
  | cons c text ih =>
      obtain ⟨hopen, hclose⟩ := hbrace c List.mem_cons_self
      refine hf.passes _ _ _ _ hopen hclose (fun hc => hquote (hc ▸ List.mem_cons_self)) ?_
      exact ih (fun d hd => hbrace d (List.mem_cons_of_mem c hd))
        (fun hmem => hquote (List.mem_cons_of_mem c hmem)) h

/-- The delimiter of an entry opens a group, or it is read over. -/
theorem exists_opening (hf : Unclosed f) (depth : Nat) (delimiter : Delimiter) :
    ∃ depth', (delimiter = .brace → depth' ≠ 0) ∧
      ∀ cs, f (depth, false) (opening delimiter :: cs) = none ↔ f (depth', false) cs = none := by
  cases delimiter with
  | brace => exact ⟨depth + 1, fun _ => Nat.succ_ne_zero depth, hf.opens depth⟩
  | parenthesis =>
      refine ⟨depth, nofun, fun cs => ⟨fun h => ?_, fun h => ?_⟩⟩
      · exact hf.reads depth false '(' cs (by decide) (by decide) h
      · exact hf.passes depth false '(' cs (by decide) (by decide) (fun h => absurd h (by decide)) h

end Unclosed

/-! ## Forms of a bibliography -/

/-- Open places are keys: each stands behind the head of an entry. -/
inductive Keyed (v : List Char) : Form → Prop where
  | nil : Keyed v []
  | text (c : Char) {F : Form} : Keyed v F → Keyed v (some c :: F)
  | key (kind : Word) (blanks : Blanks) (delimiter : Delimiter) (before : Blanks) {F : Form} :
      (delimiter = .parenthesis → InParentheses v) → Keyed v F →
      Keyed v (ofText (head kind blanks delimiter ++ before.text) ++ none :: F)

theorem Keyed.ofText_append {v : List Char} (text : List Char) {F : Form} (hF : Keyed v F) :
    Keyed v (ofText text ++ F) := by
  induction text with
  | nil => exact hF
  | cons c text ih => exact .text c ih

/-- What stands in a head before its delimiter. -/
theorem not_mem_head (kind : Word) (blanks : Blanks) {c : Char} (hat : c ≠ '@')
    (hname : isNameChar c = false) (hblank : isAsciiBlank c = false) :
    c ∉ '@' :: (kind.text ++ blanks.text) := by
  intro hmem
  rcases List.mem_cons.1 hmem with h | hmem
  · exact hat h
  rcases List.mem_append.1 hmem with hmem | hmem
  · exact ne_of_isNameChar (kind.name c hmem) hname rfl
  · rw [blanks.blank c hmem] at hblank
    cases hblank

variable {u v : List Char}

/-- **A search that fails over one spelling fails over the other.** -/
theorem Unclosed.respelt {f : Nat × Bool → List Char → Option (List Char × List Char)}
    (hf : Unclosed f) (hu : InBraces u) (hv : InBraces v) {F : Form} (hF : Keyed v F)
    {s : Nat × Bool} (h : f s (fill u F) = none) : f s (fill v F) = none := by
  induction hF generalizing s with
  | nil => exact h
  | text c _ ih =>
      rcases hf.cons s c with ⟨read, hread⟩ | ⟨s', hgo⟩
      · rw [fill_some, hread] at h
        cases h
      · rw [fill_some, hgo, Option.map_eq_none_iff] at h ⊢
        exact ih h
  | key kind blanks delimiter before htame _ ih =>
      rename_i F _
      obtain ⟨depth, escaped⟩ := s
      have hfill (w : List Char) :
          fill w (ofText (head kind blanks delimiter ++ before.text) ++ none :: F) =
            ('@' :: (kind.text ++ blanks.text)) ++
              opening delimiter :: ((before.text ++ w) ++ fill w F) := by simp [head]
      have hhead : ∀ c ∈ '@' :: (kind.text ++ blanks.text), c ≠ '{' ∧ c ≠ '}' := by
        intro c hc
        constructor <;> rintro rfl
        · exact not_mem_head kind blanks (by decide) (by decide) (by decide) hc
        · exact not_mem_head kind blanks (by decide) (by decide) (by decide) hc
      have hescapes : escapes escaped ('@' :: (kind.text ++ blanks.text)) = false :=
        escapes_eq_false (List.cons_ne_nil _ _) (fun hlast => not_mem_head kind blanks (by decide)
          (by decide) (by decide) (List.mem_of_getLast? hlast)) escaped
      obtain ⟨depth', hdepth, hopening⟩ := hf.exists_opening depth delimiter
      -- up to the key
      rw [hfill] at h ⊢
      have hopened := hf.reads_text hhead h
      rw [hescapes, hopening] at hopened
      -- over the key, and on
      have hafter := hf.reads_text (hu.after_blanks before).1 hopened
      rw [(hu.after_blanks before).2] at hafter
      have hrest := ih hafter
      -- and back over the other one
      have hquote : '"' ∈ before.text ++ v → depth' ≠ 0 := by
        intro hmem
        cases delimiter with
        | brace => exact hdepth rfl
        | parenthesis =>
            rcases List.mem_append.1 hmem with hmem | hmem
            · exact absurd (before.blank _ hmem) (by decide)
            · exact absurd hmem (htame rfl).quote
      refine hf.passes_text hhead (fun hmem => ?_) ?_
      · exact absurd hmem (not_mem_head kind blanks (by decide) (by decide) (by decide))
      · rw [hescapes, hopening]
        refine hf.passes_text (hv.after_blanks before).1 hquote ?_
        rwa [(hv.after_blanks before).2]

/-- **No reader that stops before a form tells its spellings apart.** -/
theorem alike_of_keyed (hu : InBraces u) (hv : InBraces v) {F : Form} (hF : Keyed v F) :
    Alike (fill u F) (fill v F) where
  head := by
    cases hF with
    | nil => rfl
    | text c _ => rfl
    | key kind blanks delimiter before _ _ => rfl
  unclosed := by
    intro delimiter text o o' h
    have hfill (w : List Char) : text ++ fill w F = fill w (ofText text ++ F) := by simp
    rw [hfill] at h ⊢
    have hG := hF.ofText_append text
    generalize ofText text ++ F = G at h hG ⊢
    cases hG with
    | nil => rfl
    | text c hG =>
        by_cases hopen : c = '{'
        · subst hopen
          rw [fill_some, Piece.read_brace_eq_unclosed_iff] at h ⊢
          exact @Unclosed.respelt u v _ unclosed_inBraces hu hv _ hG (0, false) h
        by_cases hquote : c = '"'
        · subst hquote
          rw [fill_some, Piece.read_quote_eq_unclosed_iff] at h ⊢
          exact @Unclosed.respelt u v _ unclosed_inQuotes hu hv _ hG (0, false) h
        exact absurd h (Piece.read_other_ne_unclosed hopen hquote)
    | key kind blanks delimiter before _ _ =>
        exact absurd h (@Piece.read_other_ne_unclosed _ o '@' _ (by decide) (by decide))

/-! ## The block of a key -/

/-- The spans of the keys with a name. -/
def keySpans (name : List Char) (events : List Event) : List Span :=
  ((events.filterMap Event.key?).filter (·.name = String.ofList name)).map Symbol.span

theorem exists_blanks (k : Cursor) :
    ∃ blanks : Blanks, k.rest = blanks.text ++ (skipBlanks k).rest := by
  refine ⟨⟨(Cursor.split (startsWith (!isAsciiBlank ·)) k.rest).1, fun c hc => ?_⟩,
    (Cursor.split_append _ _).symm⟩
  simpa using Cursor.forall_mem_split _ _ c hc

theorem exists_word {k : Cursor} (hname : (readName k).1 ≠ []) :
    ∃ kind : Word, kind.text = (readName k).1 ∧ k.rest = kind.text ++ (readName k).2.rest :=
  ⟨⟨(readName k).1, hname, isNameChar_of_mem_readName k⟩, rfl, readName_rest k⟩

theorem exists_key {delimiter : Delimiter} {k : Cursor} (hkey : (Block.keyAt delimiter k).1 ≠ []) :
    ∃ (before : Blanks) (key : Key delimiter) (after : List Char),
      key.text = (Block.keyAt delimiter k).1 ∧ k.rest = before.text ++ (key.text ++ after) ∧
      (after = [] ∨ Block.endsKey delimiter after = true) := by
  obtain ⟨before, hbefore⟩ := exists_blanks k
  refine ⟨before, ⟨(Block.keyAt delimiter k).1, hkey, fun c hc => ?_⟩,
    (Block.keyAt delimiter k).2.rest, rfl, ?_, Cursor.split_stop _ _⟩
  · have hchar := Block.of_mem_keyAt hc
    simp [isKeyChar, hchar]
  · exact hbefore.trans (congrArg _ (Cursor.upTo_append _ _).symm)

/-- A key is read from an entry, behind a head and up to where no key goes on. -/
theorem exists_head_of_key {start : Nat} {k : Cursor} {s : Symbol}
    (hs : s ∈ (Block.read start k).events.filterMap Event.key?) :
    ∃ (kind : Word) (blanks : Blanks) (delimiter : Delimiter) (before : Blanks)
      (key : Key delimiter) (after : List Char),
      String.ofList (lower kind.text) ∉ ["comment", "preamble", "string"] ∧
      k.rest = kind.text ++ (blanks.text ++ opening delimiter :: (before.text ++
        (key.text ++ after))) ∧
      (after = [] ∨ Block.endsKey delimiter after = true) ∧ s.name = String.ofList key.text := by
  by_cases hname : (readName k).1 = []
  · rw [Block.read_nameless hname] at hs
    cases hs
  by_cases hopen : ∃ delimiter more, (skipBlanks (readName k).2).rest = opening delimiter :: more
  case neg =>
    simp only [not_exists] at hopen
    rw [Block.read_unopened hname hopen] at hs
    cases hs
  obtain ⟨delimiter, more, hopen⟩ := hopen
  obtain ⟨kind, hkind, hk⟩ := exists_word hname
  obtain ⟨blanks, hblanks⟩ := exists_blanks (readName k).2
  rw [Block.read_opened hname hopen, ← hkind] at hs
  unfold Block.content at hs
  split at hs
  · rw [Block.key?_skipped] at hs
    cases hs
  rename_i hskip
  split at hs
  · rw [Block.key?_strings] at hs
    cases hs
  rename_i hstring
  rw [Block.key?_entry] at hs
  split at hs
  · cases hs
  rename_i hkey
  obtain ⟨before, key, after, hword, hmore, hafter⟩ := exists_key hkey
  refine ⟨kind, blanks, delimiter, before, key, after, by simp_all, ?_, hafter, ?_⟩
  · rw [hk, hblanks, hopen, ← hmore]
  · rw [List.mem_singleton.1 hs, hword]
    rfl

/-- What is read behind a head, whatever key stands there. -/
theorem block_key {kind : Word} (ordinary : String.ofList (lower kind.text) ∉
      ["comment", "preamble", "string"]) (blanks : Blanks) (delimiter : Delimiter) (before : Blanks)
    (key : Key delimiter) {after : List Char}
    (hafter : after = [] ∨ Block.endsKey delimiter after = true) (o : Nat) :
    ∃ o', (Block.at o '@' (kind.text ++ (blanks.text ++ opening delimiter :: (before.text ++
        (key.text ++ after))))).next = (Fields.read delimiter ⟨o', after⟩).next ∧
      (Block.at o '@' (kind.text ++ (blanks.text ++ opening delimiter :: (before.text ++
        (key.text ++ after))))).events.filterMap Event.key? =
          [Symbol.ofText (o + utf8Length (head kind blanks delimiter ++ before.text))
            key.text] := by
  have hhere : skipBlanks ⟨o + utf8Length (head kind blanks delimiter),
      before.text ++ (key.text ++ after)⟩ =
        ⟨o + utf8Length (head kind blanks delimiter ++ before.text), key.text ++ after⟩ := by
    rw [skipBlanks_append before.blank, skipBlanks_here (startsWith_key key after),
      utf8Length_append, Nat.add_assoc]
  have hkey : Block.keyAt delimiter ⟨o + utf8Length (head kind blanks delimiter),
      before.text ++ (key.text ++ after)⟩ =
        (key.text, ⟨o + utf8Length (head kind blanks delimiter ++ before.text) +
          utf8Length key.text, after⟩) := by
    rw [Block.keyAt, hhere, key_read key hafter]
  simp only [List.mem_cons, List.not_mem_nil, or_false, not_or] at ordinary
  obtain ⟨hcomment, hpreamble, hstring⟩ := ordinary
  refine ⟨o + utf8Length (head kind blanks delimiter ++ before.text) + utf8Length key.text, ?_⟩
  rw [block_at, Block.content, if_neg (by simp [hcomment, hpreamble]), if_neg hstring,
    Block.next_entry, Block.key?_entry, hkey, if_neg key.nonempty, hhere]
  exact ⟨rfl, rfl⟩

theorem nextBlock_append {gap : List Char} (hgap : '@' ∉ gap) (o : Nat) (rest : List Char) :
    nextBlock ⟨o, gap ++ '@' :: rest⟩ = ⟨o + utf8Length gap, '@' :: rest⟩ := by
  have hsplit := @Cursor.split_startsWith (· == '@') gap ('@' :: rest)
    (fun c hc => beq_eq_false_iff_ne.2 fun heq => hgap (heq ▸ hc)) (Or.inr rfl)
  simp only [nextBlock, Cursor.upTo, hsplit]
  rfl

/-- Text without an at sign stands before a block. -/
theorem exists_gap {k : Cursor} {c : Char} {cs : List Char} (hk : (nextBlock k).rest = c :: cs) :
    ∃ gap, '@' ∉ gap ∧ c = '@' ∧ k.rest = gap ++ c :: cs ∧
      (nextBlock k).offset = k.offset + utf8Length gap := by
  have happend : (k.upTo (startsWith (· == '@'))).1 ++ (nextBlock k).rest = k.rest :=
    Cursor.upTo_append _ k
  rw [hk] at happend
  refine ⟨(k.upTo (startsWith (· == '@'))).1, fun hmem => ?_, ?_, happend.symm, rfl⟩
  · exact absurd (Cursor.forall_mem_split _ _ _ hmem) (by decide)
  · have hstop : (nextBlock k).rest = [] ∨ startsWith (· == '@') (nextBlock k).rest = true :=
      Cursor.split_stop (startsWith (· == '@')) k.rest
    rw [hk] at hstop
    exact beq_iff_eq.1 (hstop.resolve_left (List.cons_ne_nil c cs))

/-- A scan meets a key behind a head, and goes on behind the fields. -/
theorem scan_key {kind : Word} (ordinary : String.ofList (lower kind.text) ∉
      ["comment", "preamble", "string"]) (blanks : Blanks) (delimiter : Delimiter) (before : Blanks)
    (key : Key delimiter) {gap after : List Char} (hgap : '@' ∉ gap)
    (hafter : after = [] ∨ Block.endsKey delimiter after = true) (o : Nat) :
    ∃ o', keyNames (scan ⟨o, gap ++ '@' :: (kind.text ++ (blanks.text ++ opening delimiter ::
        (before.text ++ (key.text ++ after))))⟩) =
      String.ofList key.text :: keyNames (scan (Fields.read delimiter ⟨o', after⟩).next) := by
  have hnext := nextBlock_append hgap o (kind.text ++ (blanks.text ++ opening delimiter ::
    (before.text ++ (key.text ++ after))))
  obtain ⟨o', hblock, hkey⟩ :=
    block_key ordinary blanks delimiter before key hafter (o + utf8Length gap)
  refine ⟨o', ?_⟩
  rw [scan_of_cons (congrArg Cursor.rest hnext), hnext, keyNames_append, hblock, keyNames, hkey]
  rfl

/-! ## The delimiter before a key -/

/-- The character that a key stands behind, blanks aside. -/
def opener? (before : List Char) : Option Char := (before.reverse.dropWhile isAsciiBlank).head?

theorem opener?_append {read before : List Char} {c : Char} (h : opener? before = some c) :
    opener? (read ++ before) = some c := by
  unfold opener? at h ⊢
  rw [List.reverse_append, List.dropWhile_append]
  cases hdrop : before.reverse.dropWhile isAsciiBlank with
  | nil =>
      rw [hdrop] at h
      cases h
  | cons d ds =>
      rw [hdrop] at h
      exact h

theorem opener?_head (kind : Word) (blanks : Blanks) (delimiter : Delimiter) (before : Blanks) :
    opener? (head kind blanks delimiter ++ before.text) = some (opening delimiter) := by
  have hblank : ∀ c ∈ before.text.reverse, isAsciiBlank c = true := fun c hc =>
    before.blank c (List.mem_reverse.1 hc)
  have hopening : isAsciiBlank (opening delimiter) = false := by cases delimiter <;> decide
  rw [opener?, List.reverse_append, List.dropWhile_append_of_pos hblank]
  simp [head, hopening]

/-- Where the old key stands in parentheses the new one can. -/
def Allowed (u v : List Char) (k : Cursor) : Prop :=
  ∀ s ∈ (scan k).filterMap Event.key?, s.name = String.ofList u → ∀ before after,
    k.rest = before ++ after → s.span.start = k.offset + utf8Length before →
    opener? before = some '(' → InParentheses v

theorem reaches_next {k : Cursor} {c : Char} {cs : List Char} (hk : (nextBlock k).rest = c :: cs) :
    k.Reaches (Block.at (nextBlock k).offset c cs).next := by
  have hat : (nextBlock k).Reaches ⟨(nextBlock k).offset + c.utf8Size, cs⟩ := ⟨[c], hk, by simp⟩
  exact ((reaches_nextBlock k).trans hat).trans (Block.reaches_read _ _)

theorem Allowed.next {k : Cursor} {c : Char} {cs : List Char} (h : Allowed u v k)
    (hk : (nextBlock k).rest = c :: cs) :
    Allowed u v (Block.at (nextBlock k).offset c cs).next := by
  obtain ⟨read, hread, hoffset⟩ := reaches_next hk
  intro s hs hname before after hafter hstart hopener
  refine h s ?_ hname (read ++ before) after ?_ ?_ (opener?_append hopener)
  · rw [scan_of_cons hk, List.filterMap_append]
    exact List.mem_append_right _ hs
  · rw [hread, hafter, List.append_assoc]
  · rw [hstart, hoffset, utf8Length_append, Nat.add_assoc]

/-! ## The scan -/

theorem keySpans_append (events more : List Event) :
    keySpans u (events ++ more) = keySpans u events ++ keySpans u more := by
  simp [keySpans]

/-- A form of the text up to the end of a block, before a form of the rest. -/
structure BlockForm (u v : List Char) (k : Cursor) (b : Block) (P Q : Form) : Prop where
  fill_eq : fill u (P ++ Q) = k.rest
  keyed : Keyed v (P ++ Q)
  holes_eq : holes u k.offset P = keySpans u b.events
  scan_eq : ∀ o, ∃ o', keyNames (scan ⟨o, fill v (P ++ Q)⟩) =
    (keyNames b.events).map (respell u v) ++ keyNames (scan ⟨o', fill v Q⟩)

section Block

variable {k : Cursor} {c : Char} {cs : List Char} {Q : Form}

/-- A block whose keys have other names is the same text in both spellings. -/
theorem blockForm_other (hu : InBraces u) (hv : InBraces v) (hk : (nextBlock k).rest = c :: cs)
    (hQ : Keyed v Q) (hfill : fill u Q = (Block.at (nextBlock k).offset c cs).next.rest)
    (hother : ∀ s ∈ (Block.at (nextBlock k).offset c cs).events.filterMap Event.key?,
      s.name ≠ String.ofList u) :
    ∃ P, BlockForm u v k (Block.at (nextBlock k).offset c cs) P Q := by
  obtain ⟨read, hread, -⟩ := reaches_next hk
  refine ⟨ofText read, ?_, hQ.ofText_append read, ?_, fun o => ?_⟩
  · rw [fill_append, fill_ofText, hfill, hread]
  · rw [holes_ofText, keySpans, List.filter_eq_nil_iff.2 fun s hs => by simpa using hother s hs]
    rfl
  · have hbefore : Before (fill u Q) (fill v Q) k ⟨o, fill v (ofText read ++ Q)⟩ :=
      ⟨read, by rw [hfill, hread], by simp⟩
    obtain ⟨o', ho'⟩ := hbefore.scan (alike_of_keyed hu hv hQ) hk hfill.symm
    refine ⟨o', ?_⟩
    rw [ho', keyNames, List.map_map]
    refine congrArg (· ++ _) (List.map_congr_left fun s hs => ?_)
    exact (if_neg (hother s hs)).symm

/-- The other key can stand behind the delimiter. -/
theorem exists_key_of_inBraces (hv : InBraces v) {delimiter : Delimiter}
    (h : delimiter = .parenthesis → InParentheses v) : ∃ key : Key delimiter, key.text = v := by
  refine ⟨⟨v, hv.nonempty, fun c hc => ?_⟩, rfl⟩
  have hchar := hv.chars c hc
  cases delimiter with
  | brace => exact hchar
  | parenthesis =>
      have hclosing : c ≠ ')' := fun heq => (h rfl).closing (heq ▸ hc)
      simp_all [isKeyChar, Delimiter.closing]

/-- A block with the key has it open behind its head. -/
theorem blockForm_key (hu : InBraces u) (hv : InBraces v) (hk : (nextBlock k).rest = c :: cs)
    (hQ : Keyed v Q) (hfill : fill u Q = (Block.at (nextBlock k).offset c cs).next.rest)
    (hallowed : Allowed u v k) {s : Symbol}
    (hs : s ∈ (Block.at (nextBlock k).offset c cs).events.filterMap Event.key?)
    (hname : s.name = String.ofList u) :
    ∃ P, BlockForm u v k (Block.at (nextBlock k).offset c cs) P Q := by
  obtain ⟨kind, blanks, delimiter, before, key, after, ordinary, hcs, hafter, hkey⟩ :=
    exists_head_of_key hs
  obtain rfl : key.text = u := String.ofList_injective (hkey.symm.trans hname)
  obtain ⟨gap, hgap, rfl, hgapped, hoffset⟩ := exists_gap hk
  obtain rfl : cs = kind.text ++ (blanks.text ++ opening delimiter :: (before.text ++
    (key.text ++ after))) := hcs
  obtain ⟨o₁, hnext, hkeys⟩ :=
    block_key ordinary blanks delimiter before key hafter (nextBlock k).offset
  rw [hnext] at hfill
  obtain ⟨fields, hfields, -⟩ := Fields.reaches_read delimiter ⟨o₁, after⟩
  obtain rfl : after = fields ++ fill key.text Q := by rw [hfill]; exact hfields
  have hhead (w : List Char) (rest : List Char) :
      gap ++ '@' :: (kind.text ++ (blanks.text ++ opening delimiter :: (before.text ++
        (w ++ rest)))) = (gap ++ (head kind blanks delimiter ++ before.text)) ++ (w ++ rest) := by
    simp [head]
  have hparentheses : delimiter = .parenthesis → InParentheses v := by
    rintro rfl
    rw [hkeys] at hs
    refine hallowed s ?_ hname _ _ (hgapped.trans (hhead _ _)) ?_
      (opener?_append (opener?_head kind blanks .parenthesis before))
    · rw [scan_of_cons hk, List.filterMap_append, hkeys]
      exact List.mem_append_left _ hs
    · rw [List.mem_singleton.1 hs, hoffset, utf8Length_append gap, Nat.add_assoc]
      rfl
  obtain ⟨other, rfl⟩ := exists_key_of_inBraces hv hparentheses
  have halike := alike_of_keyed hu hv hQ
  refine ⟨ofText (gap ++ (head kind blanks delimiter ++ before.text)) ++ none :: ofText fields,
    ?_, ?_, ?_, fun o => ?_⟩
  · rw [hgapped, hhead]
    simp
  · rw [ofText_append, List.append_assoc, List.append_assoc]
    exact .ofText_append gap (.key kind blanks delimiter before hparentheses (hQ.ofText_append _))
  · rw [keySpans, hkeys, holes_append, holes_ofText, fill_ofText, List.nil_append, holes,
      holes_ofText, utf8Length_append gap, ← Nat.add_assoc, ← hoffset]
    simp [Symbol.ofText]
  · have hafter' : fields ++ fill other.text Q = [] ∨
        Block.endsKey delimiter (fields ++ fill other.text Q) = true := by
      have hbefore : Before (fill key.text Q) (fill other.text Q) ⟨o, fields ++ fill key.text Q⟩
        ⟨o, fields ++ fill other.text Q⟩ := ⟨fields, rfl, rfl⟩
      have hheads := hbefore.head_eq halike.head
      exact hafter.imp (fun hnil => List.head?_eq_none_iff.1 (hheads.symm.trans
        (List.head?_eq_none_iff.2 hnil))) (startsWith_congr hheads).symm.trans
    obtain ⟨o', hscan⟩ := scan_key ordinary blanks delimiter before other hgap hafter' o
    have hbefore : Before (fill key.text Q) (fill other.text Q) ⟨o₁, fields ++ fill key.text Q⟩
      ⟨o', fields ++ fill other.text Q⟩ := ⟨fields, rfl, rfl⟩
    have hnext' := (hbefore.fields halike (hfill ▸ List.suffix_refl _)).rest_eq
      hfill.symm
    have htext : fill other.text ((ofText (gap ++ (head kind blanks delimiter ++ before.text)) ++
        none :: ofText fields) ++ Q) = gap ++ '@' :: (kind.text ++ (blanks.text ++
          opening delimiter :: (before.text ++ (other.text ++
            (fields ++ fill other.text Q))))) := by
      rw [hhead]
      simp
    refine ⟨(Fields.read delimiter ⟨o', fields ++ fill other.text Q⟩).next.offset, ?_⟩
    have hnames := congrArg (List.map Symbol.name) hkeys
    rw [← keyNames] at hnames
    rw [htext, hscan, hnames]
    exact congrArg₂ List.cons respell_self.symm
      (congrArg (fun rest => keyNames (scan ⟨_, rest⟩)) hnext')

end Block

/-- **A form of the text, with the name open wherever it is a key, is read alike with any name
that can stand there.** -/
theorem exists_form (hu : InBraces u) (hv : InBraces v) (k : Cursor) (hallowed : Allowed u v k) :
    ∃ F, fill u F = k.rest ∧ Keyed v F ∧ holes u k.offset F = keySpans u (scan k) ∧
      ∀ o, keyNames (scan ⟨o, fill v F⟩) = (keyNames (scan k)).map (respell u v) := by
  induction k using scan_induction with
  | nil k hk =>
      refine ⟨ofText k.rest, fill_ofText, ?_, ?_, fun o => ?_⟩
      · simpa using Keyed.nil.ofText_append k.rest
      · rw [holes_ofText, scan_of_nil hk]
        rfl
      · have hk' : (nextBlock ⟨o, fill v (ofText k.rest)⟩).rest = [] := by
          rw [fill_ofText]
          exact hk
        rw [scan_of_nil hk, scan_of_nil hk']
        rfl
  | cons k c cs hk ih =>
      obtain ⟨Q, hfill, hQ, hholes, hscan⟩ := ih (hallowed.next hk)
      obtain ⟨P, hP⟩ : ∃ P, BlockForm u v k (Block.at (nextBlock k).offset c cs) P Q := by
        by_cases hkey : ∃ s ∈ (Block.at (nextBlock k).offset c cs).events.filterMap Event.key?,
            s.name = String.ofList u
        · obtain ⟨s, hs, hname⟩ := hkey
          exact blockForm_key hu hv hk hQ hfill hallowed hs hname
        · exact blockForm_other hu hv hk hQ hfill fun s hs hname => hkey ⟨s, hs, hname⟩
      refine ⟨P ++ Q, hP.fill_eq, hP.keyed, ?_, fun o => ?_⟩
      · obtain ⟨read, hread, hoffset⟩ := reaches_next hk
        have hread : read = fill u P := by
          have happend := hP.fill_eq.trans hread
          rw [fill_append, hfill, List.append_cancel_right_eq] at happend
          exact happend.symm
        rw [scan_of_cons hk, keySpans_append, holes_append, hP.holes_eq, ← hholes, hoffset, hread]
      · obtain ⟨o', ho'⟩ := hP.scan_eq o
        rw [ho', hscan, scan_of_cons hk, keyNames_append, List.map_append]

/-- What the keys of a bibliography are made of. -/
theorem isKeyChar_of_mem_scan {k : Cursor} {s : Symbol}
    (hs : s ∈ (scan k).filterMap Event.key?) :
    s.name.toList ≠ [] ∧ ∀ c ∈ s.name.toList, isKeyChar .brace c = true := by
  induction k using scan_induction with
  | nil k hk =>
      rw [scan_of_nil hk] at hs
      cases hs
  | cons k c cs hk ih =>
      rw [scan_of_cons hk, List.filterMap_append] at hs
      rcases List.mem_append.1 hs with hs | hs
      · obtain ⟨-, -, delimiter, -, key, -, -, -, -, hname⟩ := exists_head_of_key hs
        rw [hname, String.toList_ofList]
        refine ⟨key.nonempty, fun c hc => ?_⟩
        have hchar := key.chars c hc
        simp only [isKeyChar, List.mem_cons, List.not_mem_nil, or_false, not_or, Bool.and_eq_true,
          decide_eq_true_eq, Bool.not_eq_true', Delimiter.closing] at hchar ⊢
        exact ⟨⟨hchar.1.1, hchar.1.2.1, hchar.1.2.2.1, hchar.1.2.2.1⟩, hchar.2⟩
      · exact ih hs

end Manuscript.Bibtex

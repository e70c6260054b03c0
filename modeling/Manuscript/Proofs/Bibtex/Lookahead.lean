/-
# Manuscript.Proofs.Bibtex.Lookahead -- readers do not tell what comes after them

A reader of a bibliography stops at a character that it looks at and leaves.  Where two texts
start alike, a reader that stops before one of them stops before the other in its place
(`Before`).  Only a piece that is never closed is looked for up to the end of the input; texts
that such a piece does not tell apart either are `Alike`.

There is one lemma a reader, up to the block and what is scanned after it (`Before.scan`).
-/
import Manuscript.Proofs.Bibtex.Reading

namespace Manuscript.Bibtex

set_option autoImplicit false

open Text

/-! ## Searches -/

/-- A search through a text, one character after the other. -/
structure Seeks {σ : Type} (f : σ → List Char → Option (List Char × List Char)) : Prop where
  nil : ∀ s, f s [] = none
  cons : ∀ s c, (∃ read, ∀ cs, f s (c :: cs) = some (read, cs)) ∨
    ∃ s', ∀ cs, f s (c :: cs) = (f s' cs).map fun (read, rest) => (c :: read, rest)

namespace Seeks

variable {σ : Type} {f : σ → List Char → Option (List Char × List Char)}

theorem length_lt (h : Seeks f) {s : σ} {cs read rest : List Char}
    (hfound : f s cs = some (read, rest)) : rest.length < cs.length := by
  induction cs generalizing s read with
  | nil =>
      rw [h.nil] at hfound
      cases hfound
  | cons c cs ih =>
      rcases h.cons s c with ⟨last, hlast⟩ | ⟨s', hgo⟩
      · rw [hlast] at hfound
        cases hfound
        exact Nat.lt_succ_self _
      · rw [hgo] at hfound
        obtain ⟨⟨read', rest'⟩, hfound', heq⟩ := Option.map_eq_some_iff.1 hfound
        cases heq
        exact Nat.lt_succ_of_lt (ih hfound')

/-- A search that has found its aim does not depend on what follows. -/
theorem congr (h : Seeks f) {s : σ} {text read rest : List Char}
    (hfound : f s (text ++ rest) = some (read, rest)) (rest' : List Char) :
    f s (text ++ rest') = some (read, rest') := by
  induction text generalizing s read with
  | nil => exact absurd (h.length_lt hfound) (Nat.lt_irrefl _)
  | cons c text ih =>
      rw [List.cons_append] at hfound ⊢
      rcases h.cons s c with ⟨last, hlast⟩ | ⟨s', hgo⟩
      · rw [hlast] at hfound ⊢
        obtain ⟨rfl, hrest⟩ := Prod.mk.inj (Option.some.inj hfound)
        obtain rfl : text = [] := List.append_left_eq_self.1 hrest
        rfl
      · rw [hgo] at hfound ⊢
        obtain ⟨⟨read', after⟩, hfound', heq⟩ := Option.map_eq_some_iff.1 hfound
        cases heq
        rw [ih hfound']
        rfl

end Seeks

theorem seeks_inBraces : Seeks fun s : Nat × Bool => inBraces? s.1 s.2 where
  nil _ := rfl
  cons := by
    rintro ⟨depth, escaped⟩ c
    cases escaped with
    | true => exact Or.inr ⟨(depth, false), fun cs => by simp [inBraces?]⟩
    | false =>
        by_cases hescape : c = '\\'
        · exact Or.inr ⟨(depth, true), fun cs => by simp [inBraces?, hescape]⟩
        by_cases hopen : c = '{'
        · exact Or.inr ⟨(depth + 1, false), fun cs => by simp [inBraces?, hopen]⟩
        by_cases hclose : c = '}'
        · cases depth with
          | zero => exact Or.inl ⟨[], fun cs => by simp [inBraces?, hclose]⟩
          | succ depth => exact Or.inr ⟨(depth, false), fun cs => by simp [inBraces?, hclose]⟩
        · exact Or.inr ⟨(depth, false), fun cs => by simp [inBraces?, hescape, hopen, hclose]⟩

theorem seeks_inQuotes : Seeks fun s : Nat × Bool => inQuotes? s.1 s.2 where
  nil _ := rfl
  cons := by
    rintro ⟨depth, escaped⟩ c
    cases escaped with
    | true => exact Or.inr ⟨(depth, false), fun cs => by simp [inQuotes?]⟩
    | false =>
        by_cases hescape : c = '\\'
        · exact Or.inr ⟨(depth, true), fun cs => by simp [inQuotes?, hescape]⟩
        by_cases hopen : c = '{'
        · exact Or.inr ⟨(depth + 1, false), fun cs => by simp [inQuotes?, hopen]⟩
        by_cases hclose : c = '}'
        · exact Or.inr ⟨(depth - 1, false), fun cs => by simp [inQuotes?, hclose]⟩
        by_cases hquote : c = '"' ∧ depth = 0
        · exact Or.inl ⟨[], fun cs => by simp [inQuotes?, hquote]⟩
        · exact Or.inr ⟨(depth, false), fun cs => by
            simp [inQuotes?, hescape, hopen, hclose, hquote]⟩

theorem seeks_untilEnd (delimiter : Delimiter) : Seeks (Block.untilEnd? delimiter) where
  nil _ := rfl
  cons := by
    intro depth c
    by_cases hopen : c = '{'
    · exact Or.inr ⟨depth + 1, fun cs => by simp [Block.untilEnd?, hopen]⟩
    by_cases hclose : c = '}' ∨ depth = 0 ∧ c = delimiter.closing
    · cases depth with
      | zero =>
          simp only [true_and] at hclose
          exact Or.inl ⟨[c], fun cs => by simp [Block.untilEnd?, hopen, hclose]⟩
      | succ depth =>
          simp only [Nat.succ_ne_zero, false_and, or_false] at hclose
          exact Or.inr ⟨depth, fun cs => by simp [Block.untilEnd?, hclose]⟩
    · exact Or.inr ⟨depth, fun cs => by cases depth <;> simp_all [Block.untilEnd?]⟩

/-! ## What comes after -/

/-- Texts that no reader tells apart that stops before them. -/
structure Alike (rest rest' : List Char) : Prop where
  head : rest.head? = rest'.head?
  unclosed : ∀ (delimiter : Delimiter) (text : List Char) (o o' : Nat),
    Piece.read delimiter ⟨o, text ++ rest⟩ = .unclosed →
      Piece.read delimiter ⟨o', text ++ rest'⟩ = .unclosed

/-- The same text is left to read before either rest. -/
def Before (rest rest' : List Char) (k k' : Cursor) : Prop :=
  ∃ text, k.rest = text ++ rest ∧ k'.rest = text ++ rest'

variable {rest rest' : List Char} {k k' : Cursor} {delimiter : Delimiter}

theorem suffix_of_reaches (h : k.Reaches k') : k'.rest <:+ k.rest := by
  obtain ⟨read, hrest, -⟩ := h
  exact ⟨read, hrest.symm⟩

theorem startsWith_congr {p : Char → Bool} {cs cs' : List Char} (h : cs.head? = cs'.head?) :
    startsWith p cs = startsWith p cs' := by
  cases cs <;> cases cs' <;> simp_all [startsWith]

namespace Before

theorem head_eq (hhead : rest.head? = rest'.head?) (h : Before rest rest' k k') :
    k.rest.head? = k'.rest.head? := by
  obtain ⟨text, hk, hk'⟩ := h
  rw [hk, hk', List.head?_append, List.head?_append, hhead]

theorem exists_cons_iff (hhead : rest.head? = rest'.head?) (h : Before rest rest' k k') {c : Char} :
    (∃ cs, k.rest = c :: cs) ↔ ∃ cs, k'.rest = c :: cs := by
  rw [← List.head?_eq_some_iff, ← List.head?_eq_some_iff, h.head_eq hhead]

/-- What is read before one rest stands before the other. -/
theorem of_append {read more : List Char} (h : Before rest rest' k k') (hk : k.rest = read ++ more)
    (hstay : rest <:+ more) :
    ∃ more', k'.rest = read ++ more' ∧ ∀ o o', Before rest rest' ⟨o, more⟩ ⟨o', more'⟩ := by
  obtain ⟨text, htext, hk'⟩ := h
  obtain ⟨between, rfl⟩ := hstay
  rw [htext, ← List.append_assoc, List.append_cancel_right_eq] at hk
  exact ⟨between ++ rest', by rw [hk', hk, List.append_assoc], fun _ _ => ⟨between, rfl, rfl⟩⟩

theorem rest_eq (h : Before rest rest' k k') (hk : k.rest = rest) : k'.rest = rest' := by
  obtain ⟨text, htext, hk'⟩ := h
  rw [hk, List.self_eq_append_left] at htext
  rw [hk', htext, List.nil_append]

/-! ## White space and names -/

theorem upTo (hhead : rest.head? = rest'.head?) (h : Before rest rest' k k') {p : Char → Bool}
    (hstay : rest <:+ (k.upTo (startsWith p)).2.rest) :
    (k'.upTo (startsWith p)).1 = (k.upTo (startsWith p)).1 ∧
      Before rest rest' (k.upTo (startsWith p)).2 (k'.upTo (startsWith p)).2 := by
  obtain ⟨more', hk', hbefore⟩ := h.of_append (Cursor.upTo_append _ k).symm hstay
  have hhead' := (hbefore 0 0).head_eq hhead
  have hstop : more' = [] ∨ startsWith p more' = true := by
    refine (Cursor.split_stop (startsWith p) k.rest).imp (fun hnil => ?_) fun hstart => ?_
    · exact List.head?_eq_none_iff.1 (hhead'.symm.trans (List.head?_eq_none_iff.2 hnil))
    · exact (startsWith_congr hhead').symm.trans hstart
  have hthere := Cursor.split_startsWith (Cursor.forall_mem_split p k.rest) hstop
  have hsplit : k'.upTo (startsWith p) =
      ((k.upTo (startsWith p)).1, k'.after (k.upTo (startsWith p)).1 more') := by
    simp only [Cursor.upTo, hk'] at hthere ⊢
    rw [hthere]
  rw [hsplit]
  exact ⟨rfl, hbefore _ _⟩

theorem blanks (hhead : rest.head? = rest'.head?) (h : Before rest rest' k k')
    (hstay : rest <:+ (skipBlanks k).rest) :
    Before rest rest' (skipBlanks k) (skipBlanks k') :=
  (h.upTo hhead hstay).2

theorem name (hhead : rest.head? = rest'.head?) (h : Before rest rest' k k')
    (hstay : rest <:+ (readName k).2.rest) :
    (readName k').1 = (readName k).1 ∧
      Before rest rest' (readName k).2 (readName k').2 :=
  h.upTo hhead hstay

end Before

/-! ## Pieces -/

namespace Piece

variable {o : Nat} {c : Char} {cs : List Char}

theorem read_brace_eq_unclosed_iff :
    read delimiter ⟨o, '{' :: cs⟩ = .unclosed ↔ inBraces? 0 false cs = none := by
  cases h : inBraces? 0 false cs <;> simp [read, h]

theorem read_quote_eq_unclosed_iff :
    read delimiter ⟨o, '"' :: cs⟩ = .unclosed ↔ inQuotes? 0 false cs = none := by
  cases h : inQuotes? 0 false cs <;> simp [read, h]

theorem read_other_ne_unclosed (hopen : c ≠ '{') (hquote : c ≠ '"') :
    read delimiter ⟨o, c :: cs⟩ ≠ .unclosed := by
  rw [read_other hopen hquote]
  split <;> simp

end Piece

namespace Before

/-- What a search finds before one rest it finds before the other. -/
theorem seek {σ : Type} {f : σ → List Char → Option (List Char × List Char)} (hf : Seeks f) {s : σ}
    {first last : Char} {cs content after : List Char} (h : Before rest rest' k k')
    (hk : k.rest = first :: cs) (hfound : f s cs = some (content, after))
    (happend : content ++ last :: after = cs) (hstay : rest <:+ after) :
    ∃ cs' after', k'.rest = first :: cs' ∧ f s cs' = some (content, after') ∧
      ∀ o o', Before rest rest' ⟨o, after⟩ ⟨o', after'⟩ := by
  have hsplit : k.rest = (first :: (content ++ [last])) ++ after := by simp [hk, ← happend]
  obtain ⟨after', hk', hbefore⟩ := h.of_append hsplit hstay
  have hfound : f s (content ++ [last] ++ after) = some (content, after) := by
    simpa [← happend] using hfound
  exact ⟨content ++ [last] ++ after', after', hk', hf.congr hfound after', hbefore⟩

/-- A piece that ends before one rest ends before the other. -/
theorem piece (hhead : rest.head? = rest'.head?) (h : Before rest rest' k k') {next : Cursor}
    (hnext : (Piece.read delimiter k).next? = some next) (hstay : rest <:+ next.rest) :
    ∃ next', (Piece.read delimiter k').next? = some next' ∧ Before rest rest' next next' := by
  obtain ⟨o, cs⟩ := k
  obtain ⟨o', cs'⟩ := k'
  cases cs with
  | nil => cases hnext
  | cons c cs =>
  by_cases hopen : c = '{'
  · subst hopen
    cases hin : inBraces? 0 false cs with
    | none => simp [Piece.read, hin, Piece.next?] at hnext
    | some found =>
        simp only [Piece.read, hin, Piece.next?, Option.some.injEq] at hnext
        subst hnext
        obtain ⟨cs', after', rfl, hin', hbefore⟩ :=
          h.seek (s := (0, false)) seeks_inBraces rfl hin (inBraces?_append hin) hstay
        exact ⟨_, by simp only [Piece.read, hin']; rfl, hbefore _ _⟩
  by_cases hquote : c = '"'
  · subst hquote
    cases hin : inQuotes? 0 false cs with
    | none => simp [Piece.read, hin, Piece.next?] at hnext
    | some found =>
        simp only [Piece.read, hin, Piece.next?, Option.some.injEq] at hnext
        subst hnext
        obtain ⟨cs', after', rfl, hin', hbefore⟩ :=
          h.seek (s := (0, false)) seeks_inQuotes rfl hin (inQuotes?_append hin) hstay
        exact ⟨_, by simp only [Piece.read, hin']; rfl, hbefore _ _⟩
  · rw [Piece.read_other hopen hquote] at hnext
    split at hnext
    · cases hnext
    · rename_i hne
      cases hnext
      obtain ⟨-, hbefore⟩ := h.name hhead hstay
      obtain ⟨cs', rfl⟩ := (h.exists_cons_iff hhead).1 ⟨cs, rfl⟩
      exact ⟨_, by rw [Piece.read_other hopen hquote, if_neg hne]; rfl, hbefore⟩

/-- Blanks, a piece and blanks. -/
theorem piece_after (hhead : rest.head? = rest'.head?) (h : Before rest rest' k k') {next : Cursor}
    (hnext : (Piece.read delimiter (skipBlanks k)).next? = some next)
    (hstay : rest <:+ (skipBlanks next).rest) :
    ∃ next', (Piece.read delimiter (skipBlanks k')).next? = some next' ∧
      Before rest rest' (skipBlanks next) (skipBlanks next') := by
  have hstay' := hstay.trans (suffix_of_reaches (reaches_skipBlanks next))
  have hhere := h.blanks hhead (hstay'.trans (suffix_of_reaches (reaches_piece hnext).1))
  obtain ⟨next', hnext', hbefore⟩ := hhere.piece hhead hnext hstay'
  exact ⟨next', hnext', hbefore.blanks hhead hstay⟩

/-- Where no piece starts before one rest, none starts before the other. -/
theorem piece_none (alike : Alike rest rest') (h : Before rest rest' k k')
    (hnone : (Piece.read delimiter k).next? = none) :
    (Piece.read delimiter k').next? = none ∧
      (Piece.read delimiter k' = .unclosed ↔ Piece.read delimiter k = .unclosed) := by
  obtain ⟨o, cs⟩ := k
  obtain ⟨o', cs'⟩ := k'
  by_cases hunclosed : Piece.read delimiter ⟨o, cs⟩ = .unclosed
  · have hunclosed' : Piece.read delimiter ⟨o', cs'⟩ = .unclosed := by
      obtain ⟨text, rfl, rfl⟩ := h
      exact alike.unclosed delimiter text o o' hunclosed
    exact ⟨by rw [hunclosed']; rfl, by simp [hunclosed, hunclosed']⟩
  cases cs with
  | nil => exact absurd rfl hunclosed
  | cons c cs =>
  obtain ⟨cs', rfl⟩ := (h.exists_cons_iff alike.head).1 ⟨cs, rfl⟩
  by_cases hopen : c = '{'
  · subst hopen
    rw [Piece.read_brace_eq_unclosed_iff] at hunclosed
    obtain ⟨found, hfound⟩ := Option.ne_none_iff_exists'.1 hunclosed
    simp [Piece.read, hfound, Piece.next?] at hnone
  by_cases hquote : c = '"'
  · subst hquote
    rw [Piece.read_quote_eq_unclosed_iff] at hunclosed
    obtain ⟨found, hfound⟩ := Option.ne_none_iff_exists'.1 hunclosed
    simp [Piece.read, hfound, Piece.next?] at hnone
  rw [Piece.read_other hopen hquote] at hnone ⊢
  rw [Piece.read_other hopen hquote]
  split at hnone
  · rename_i hnothing
    rw [if_pos hnothing, if_pos hnothing]
    exact ⟨rfl, Iff.rfl⟩
  · cases hnone

/-- A value that ends before one rest ends before the other. -/
theorem value (alike : Alike rest rest') (h : Before rest rest' k k')
    (hstay : rest <:+ (Value.read delimiter k).next.rest) :
    ((Value.read delimiter k').text = none ↔ (Value.read delimiter k).text = none) ∧
      Before rest rest' (Value.read delimiter k).next (Value.read delimiter k').next := by
  induction k using Value.read_induction delimiter generalizing k' with
  | nothing k hpiece =>
      rw [Value.read_of_none hpiece] at hstay ⊢
      have hhere := h.blanks alike.head hstay
      obtain ⟨hnone, hunclosed⟩ := hhere.piece_none alike hpiece
      rw [Value.read_of_none hnone]
      exact ⟨by simp [hunclosed], hhere⟩
  | last k next hpiece hend =>
      rw [Value.read_of_last hpiece hend] at hstay ⊢
      obtain ⟨next', hpiece', hafter⟩ := h.piece_after alike.head hpiece hstay
      have hend' : ∀ more, (skipBlanks next').rest ≠ '#' :: more := by
        intro more hmore
        obtain ⟨more', hmore'⟩ := (hafter.exists_cons_iff alike.head).2 ⟨more, hmore⟩
        exact hend more' hmore'
      rw [Value.read_of_last hpiece' hend']
      exact ⟨by simp, hafter⟩
  | more k next more hpiece hmore ih =>
      rw [Value.read_of_more hpiece hmore] at hstay ⊢
      have hmorestay : rest <:+ more :=
        hstay.trans (suffix_of_reaches (Value.reaches_next delimiter ⟨_, more⟩))
      obtain ⟨next', hpiece', hafter⟩ := h.piece_after alike.head hpiece
        (hmorestay.trans (by rw [hmore]; exact List.suffix_cons _ _))
      have hsign : (skipBlanks next).rest = ['#'] ++ more := hmore
      obtain ⟨more', hmore', hbefore⟩ := hafter.of_append hsign hmorestay
      obtain ⟨htext, hnext⟩ := ih (hbefore _ _) hstay
      rw [Value.read_of_more hpiece' hmore']
      exact ⟨by simp [htext], hnext⟩

end Before

/-! ## Fields -/

/-- Where fields are skipped to is a matter of the character there. -/
theorem untilField_congr (hhead : rest.head? = rest'.head?) {depth : Nat} {text : List Char}
    (h : untilField delimiter depth (text ++ rest) = (text, rest)) :
    untilField delimiter depth (text ++ rest') = (text, rest') := by
  induction text generalizing depth with
  | nil =>
      cases rest with
      | nil => rw [List.head?_eq_none_iff.1 hhead.symm]; rfl
      | cons c cs =>
          obtain ⟨cs', rfl⟩ := List.head?_eq_some_iff.1 hhead.symm
          rw [List.nil_append, untilField] at h ⊢
          split at h
          · rename_i hstop
            rw [if_pos hstop]
          · cases (Prod.mk.inj h).1
  | cons c text ih =>
      rw [List.cons_append, untilField] at h ⊢
      split at h
      · cases (Prod.mk.inj h).1
      · rename_i hgo
        rw [if_neg hgo]
        obtain ⟨hread, hrest⟩ := Prod.mk.inj h
        simp only [ih (Prod.ext (List.cons.inj hread).2 hrest)]

namespace Fields.Step

variable {o : Nat} {c : Char} {cs : List Char}

/-- Steps that do the same, before one rest and before the other. -/
inductive Together (rest rest' : List Char) : Step → Step → Prop where
  | stop (terminated : Bool) {k k' : Cursor} : Before rest rest' k k' →
      Together rest rest' (.stop terminated k) (.stop terminated k')
  | go {field field' : Option Field} {events events' : List Event} {k k' : Cursor} :
      Before rest rest' k k' →
      Together rest rest' (.go field events k) (.go field' events' k')
  | abandon {events events' : List Event} {k k' : Cursor} : Before rest rest' k k' →
      Together rest rest' (.abandon events k) (.abandon events' k')

end Fields.Step

namespace Before

open Fields

theorem skipped_field (hhead : rest.head? = rest'.head?) (h : Before rest rest' k k') {depth : Nat}
    (hstay : rest <:+ (skipField delimiter depth k).rest) :
    Before rest rest' (skipField delimiter depth k) (skipField delimiter depth k') := by
  obtain ⟨more', hk', hbefore⟩ :=
    h.of_append (untilField_append delimiter depth k.rest).symm hstay
  have hsplit := untilField_append delimiter depth k.rest
  have hthere := @untilField_congr _ more' delimiter ((hbefore 0 0).head_eq hhead) depth _
    (by rw [hsplit])
  simp only [skipField, hk', hthere]
  exact hbefore _ _

theorem recover (hhead : rest.head? = rest'.head?) (h : Before rest rest' k k') {depth : Nat}
    (hstay : rest <:+ (skipField delimiter depth k).rest) (fault fault' : Diagnostic) :
    Step.Together rest rest' (Step.recover delimiter fault depth k)
      (Step.recover delimiter fault' depth k') := by
  have hskipped := h.skipped_field hhead hstay
  have hgo : fieldsGoOn (skipField delimiter depth k') = fieldsGoOn (skipField delimiter depth k) :=
    (startsWith_congr (hskipped.head_eq hhead)).symm
  unfold Step.recover
  simp only [hgo]
  split
  · exact .go hskipped
  · exact .abandon hskipped

theorem step_value (alike : Alike rest rest') (h : Before rest rest' k k')
    (hstay : rest <:+ (Value.read delimiter k).next.rest) (name name' : Symbol) :
    Step.Together rest rest' (Step.value delimiter name k) (Step.value delimiter name' k') := by
  obtain ⟨htext, hnext⟩ := h.value alike hstay
  unfold Step.value
  dsimp only
  cases hread : (Value.read delimiter k).text with
  | none =>
      rw [htext.2 hread]
      exact .abandon hnext
  | some text =>
      obtain ⟨text', hread'⟩ := Option.ne_none_iff_exists'.1 fun hnone =>
        Option.some_ne_none text (hread.symm.trans (htext.1 hnone))
      rw [hread']
      exact .go hnext

/-- **A step that ends before one rest does the same before the other.** -/
theorem step (alike : Alike rest rest') (h : Before rest rest' k k')
    (hstay : rest <:+ (Step.read delimiter k).cursor.rest) :
    Step.Together rest rest' (Step.read delimiter k) (Step.read delimiter k') := by
  obtain ⟨o, cs⟩ := k
  obtain ⟨o', cs'⟩ := k'
  have hhead := h.head_eq alike.head
  cases cs with
  | nil =>
      obtain rfl : cs' = [] := List.head?_eq_none_iff.1 hhead.symm
      exact .stop false h
  | cons c cs =>
  obtain ⟨cs', rfl⟩ := (h.exists_cons_iff alike.head).1 ⟨cs, rfl⟩
  have hbump : rest <:+ cs →
      Before rest rest' ⟨o + c.utf8Size, cs⟩ ⟨o' + c.utf8Size, cs'⟩ := by
    intro hstay
    obtain ⟨more', hmore', hbefore⟩ := @of_append rest rest' _ _ [c] cs h rfl hstay
    cases hmore'
    exact hbefore _ _
  by_cases hclose : c = delimiter.closing
  · simp only [Step.read, if_pos hclose] at hstay ⊢
    exact .stop true (hbump hstay)
  by_cases hcomma : c = ','
  · simp only [Step.read, if_neg hclose, if_pos hcomma] at hstay ⊢
    exact .go (hbump hstay)
  by_cases hat : c = '@'
  · simp only [Step.read, if_neg hclose, if_neg hcomma, if_pos hat]
    exact .stop false h
  by_cases hname : (readName ⟨o, c :: cs⟩).1 = []
  · have hname' : (readName ⟨o', c :: cs'⟩).1 = [] := by
      rwa [readName_eq_nil_iff] at hname ⊢
    rw [Step.read_nameless hclose hcomma hat hname, Step.cursor_recover] at hstay
    rw [Step.read_nameless hclose hcomma hat hname, Step.read_nameless hclose hcomma hat hname']
    exact (hbump (hstay.trans (suffix_of_reaches (reaches_skipField _ _ _)))).recover alike.head
      hstay _ _
  have hsigns (hstay : rest <:+ (skipBlanks (readName ⟨o, c :: cs⟩).2).rest) :
      (readName ⟨o', c :: cs'⟩).1 ≠ [] ∧ Before rest rest'
        (skipBlanks (readName ⟨o, c :: cs⟩).2) (skipBlanks (readName ⟨o', c :: cs'⟩).2) := by
    obtain ⟨hname', hafter⟩ :=
      h.name alike.head (hstay.trans (suffix_of_reaches (reaches_skipBlanks _)))
    exact ⟨by rwa [hname'], hafter.blanks alike.head hstay⟩
  by_cases hsign : ∃ more, (skipBlanks (readName ⟨o, c :: cs⟩).2).rest = '=' :: more
  · obtain ⟨more, hsign⟩ := hsign
    rw [Step.read_assignment hclose hcomma hat hname hsign] at hstay ⊢
    rw [Step.cursor_value] at hstay
    have hmorestay : rest <:+ more :=
      hstay.trans (suffix_of_reaches (Value.reaches_next delimiter (Cursor.after _ _ more)))
    obtain ⟨hname', hafter⟩ :=
      hsigns (hmorestay.trans (by rw [hsign]; exact List.suffix_cons _ _))
    have happend : (skipBlanks (readName ⟨o, c :: cs⟩).2).rest = ['='] ++ more := hsign
    obtain ⟨more', hsign', hbefore⟩ := hafter.of_append happend hmorestay
    rw [Step.read_assignment hclose hcomma hat hname' hsign']
    exact (hbefore _ _).step_value alike hstay _ _
  · have hsign := not_exists.1 hsign
    rw [Step.read_signless hclose hcomma hat hname hsign] at hstay ⊢
    rw [Step.cursor_recover] at hstay
    obtain ⟨hname', hafter⟩ :=
      hsigns (hstay.trans (suffix_of_reaches (reaches_skipField _ _ _)))
    have hsign' : ∀ more, (skipBlanks (readName ⟨o', c :: cs'⟩).2).rest ≠ '=' :: more := by
      intro more hmore
      obtain ⟨more', hmore'⟩ := (hafter.exists_cons_iff alike.head).2 ⟨more, hmore⟩
      exact hsign more' hmore'
    rw [Step.read_signless hclose hcomma hat hname' hsign']
    exact hafter.recover alike.head hstay _ _

/-- **Fields that end before one rest end before the other.** -/
theorem fields (alike : Alike rest rest') (h : Before rest rest' k k')
    (hstay : rest <:+ (Fields.read delimiter k).next.rest) :
    Before rest rest' (Fields.read delimiter k).next (Fields.read delimiter k').next := by
  have hstep {k k' : Cursor} (h : Before rest rest' k k')
      (hstay : rest <:+ (Step.read delimiter (skipBlanks k)).cursor.rest) :
      Step.Together rest rest' (Step.read delimiter (skipBlanks k))
        (Step.read delimiter (skipBlanks k')) :=
    (h.blanks alike.head (hstay.trans (suffix_of_reaches (Step.reaches_read _ _)))).step alike hstay
  induction k using Fields.read_induction delimiter generalizing k' with
  | stop k terminated next hread =>
      rw [read_of_stop hread] at hstay ⊢
      have htogether := hstep h (by rw [hread]; exact hstay)
      rw [hread] at htogether
      cases hread' : Step.read delimiter (skipBlanks k') <;> rw [hread'] at htogether <;>
        cases htogether
      rw [read_of_stop hread']
      assumption
  | go k field events next hread ih =>
      rw [read_of_go hread] at hstay ⊢
      have htogether := hstep h (by
        rw [hread]; exact hstay.trans (suffix_of_reaches (Fields.reaches_read delimiter next)))
      rw [hread] at htogether
      cases hread' : Step.read delimiter (skipBlanks k') <;> rw [hread'] at htogether <;>
        cases htogether
      rw [read_of_go hread']
      exact ih ‹_› hstay
  | abandon k events next hread =>
      rw [read_of_abandon hread] at hstay ⊢
      have htogether := hstep h (by rw [hread]; exact hstay)
      rw [hread] at htogether
      cases hread' : Step.read delimiter (skipBlanks k') <;> rw [hread'] at htogether <;>
        cases htogether
      rw [read_of_abandon hread']
      assumption

end Before

/-! ## Blocks -/

/-- The names of the keys among events. -/
def keyNames (events : List Event) : List String := (events.filterMap Event.key?).map Symbol.name

theorem keyNames_append (events more : List Event) :
    keyNames (events ++ more) = keyNames events ++ keyNames more := by
  simp [keyNames]

theorem Block.next_entry (start : Nat) (kind : String) (k : Cursor) :
    (entry start kind delimiter k).next = (Fields.read delimiter (keyAt delimiter k).2).next :=
  rfl

namespace Before

open Block

theorem keyAt (hhead : rest.head? = rest'.head?) (h : Before rest rest' k k')
    (hstay : rest <:+ (Block.keyAt delimiter k).2.rest) :
    (Block.keyAt delimiter k').1 = (Block.keyAt delimiter k).1 ∧
      Before rest rest' (Block.keyAt delimiter k).2 (Block.keyAt delimiter k').2 :=
  (h.blanks hhead (hstay.trans (suffix_of_reaches (Cursor.reaches_upTo _ _)))).upTo hhead hstay

theorem skipped (hhead : rest.head? = rest'.head?) (h : Before rest rest' k k') (start start' : Nat)
    (hstay : rest <:+ (Block.skipped start delimiter k).next.rest) :
    Before rest rest' (Block.skipped start delimiter k).next
      (Block.skipped start' delimiter k').next := by
  cases hread : untilEnd? delimiter 0 k.rest with
  | some found =>
      obtain ⟨read, more⟩ := found
      simp only [Block.skipped, hread] at hstay ⊢
      obtain ⟨more', hk', hbefore⟩ := h.of_append (untilEnd?_append hread).symm hstay
      have hread' : untilEnd? delimiter 0 k'.rest = some (read, more') := by
        rw [hk']
        exact (seeks_untilEnd delimiter).congr ((untilEnd?_append hread).symm ▸ hread) more'
      rw [hread']
      exact hbefore _ _
  | none =>
      -- the input has been read up, so there is no other rest
      simp only [Block.skipped, hread] at hstay ⊢
      obtain rfl : rest = [] := List.suffix_nil.1 hstay
      obtain rfl : rest' = [] := List.head?_eq_none_iff.1 hhead.symm
      obtain ⟨text, hk, hk'⟩ := h
      rw [hk', ← hk, hread]
      exact ⟨[], rfl, rfl⟩

theorem entry (alike : Alike rest rest') (h : Before rest rest' k k') (start start' : Nat)
    (kind : String) (hstay : rest <:+ (Block.entry start kind delimiter k).next.rest) :
    keyNames (Block.entry start' kind delimiter k').events =
        keyNames (Block.entry start kind delimiter k).events ∧
      Before rest rest' (Block.entry start kind delimiter k).next
        (Block.entry start' kind delimiter k').next := by
  have hkeystay : rest <:+ (Block.keyAt delimiter k).2.rest :=
    hstay.trans (suffix_of_reaches (Fields.reaches_read delimiter (Block.keyAt delimiter k).2))
  obtain ⟨hword, hafter⟩ := h.keyAt alike.head hkeystay
  refine ⟨?_, hafter.fields alike hstay⟩
  rw [keyNames, keyNames, key?_entry, key?_entry, hword]
  split <;> rfl

/-- **A block that ends before one rest has the same keys before the other, and ends there.** -/
theorem content (alike : Alike rest rest') (h : Before rest rest' k k') (start start' : Nat)
    (kind : String) (hstay : rest <:+ (Block.content start kind delimiter k).next.rest) :
    keyNames (Block.content start' kind delimiter k').events =
        keyNames (Block.content start kind delimiter k).events ∧
      Before rest rest' (Block.content start kind delimiter k).next
        (Block.content start' kind delimiter k').next := by
  unfold Block.content at hstay ⊢
  split
  · rename_i hskip
    rw [if_pos hskip] at hstay
    refine ⟨?_, h.skipped alike.head start start' hstay⟩
    rw [keyNames, keyNames, key?_skipped, key?_skipped]
  · rename_i hskip
    rw [if_neg hskip] at hstay
    split
    · rename_i hstring
      rw [if_pos hstring] at hstay
      refine ⟨?_, h.fields alike hstay⟩
      rw [keyNames, keyNames, key?_strings, key?_strings]
    · rename_i hstring
      rw [if_neg hstring] at hstay
      exact h.entry alike start start' kind hstay

/-- The type of a block, and the place where its delimiter is looked for. -/
theorem opened (hhead : rest.head? = rest'.head?) (h : Before rest rest' k k')
    (hstay : rest <:+ (skipBlanks (readName k).2).rest) :
    (readName k').1 = (readName k).1 ∧
      Before rest rest' (skipBlanks (readName k).2) (skipBlanks (readName k').2) := by
  obtain ⟨hname, hafter⟩ := h.name hhead (hstay.trans (suffix_of_reaches (reaches_skipBlanks _)))
  exact ⟨hname, hafter.blanks hhead hstay⟩

theorem block (alike : Alike rest rest') (h : Before rest rest' k k') (start start' : Nat)
    (hstay : rest <:+ (Block.read start k).next.rest) :
    keyNames (Block.read start' k').events = keyNames (Block.read start k).events ∧
      Before rest rest' (Block.read start k).next (Block.read start' k').next := by
  by_cases hname : (readName k).1 = []
  · rw [Block.read_nameless hname] at hstay ⊢
    have happend : (readName k).1 ++ (readName k).2.rest = k.rest := Cursor.upTo_append _ k
    rw [hname, List.nil_append] at happend
    obtain ⟨hname', -⟩ := h.name alike.head (by rw [happend]; exact hstay)
    rw [Block.read_nameless (hname'.trans hname)]
    exact ⟨rfl, h⟩
  by_cases hopen : ∃ delimiter more,
      (skipBlanks (readName k).2).rest = Markup.opening delimiter :: more
  · obtain ⟨delimiter, more, hopen⟩ := hopen
    rw [Block.read_opened hname hopen] at hstay ⊢
    have hmorestay : rest <:+ more := hstay.trans (suffix_of_reaches (reaches_content _ _ _ _))
    obtain ⟨hname', hhere⟩ :=
      h.opened alike.head (hmorestay.trans (by rw [hopen]; exact List.suffix_cons _ _))
    have happend : (skipBlanks (readName k).2).rest = [Markup.opening delimiter] ++ more := hopen
    obtain ⟨more', hopen', hbefore⟩ := hhere.of_append happend hmorestay
    rw [← hname'] at hname
    rw [Block.read_opened hname hopen', hname']
    exact (hbefore _ _).content alike start start' _ hstay
  · simp only [not_exists] at hopen
    rw [Block.read_unopened hname hopen] at hstay ⊢
    obtain ⟨hname', hhere⟩ := h.opened alike.head hstay
    have hopen' : ∀ delimiter more,
        (skipBlanks (readName k').2).rest ≠ Markup.opening delimiter :: more := by
      intro delimiter more hmore
      obtain ⟨more', hmore'⟩ := (hhere.exists_cons_iff alike.head).2 ⟨more, hmore⟩
      exact hopen delimiter more' hmore'
    rw [← hname'] at hname
    rw [Block.read_unopened hname hopen']
    exact ⟨rfl, hhere⟩

/-- **A scan meets the same keys in a block that ends before either rest.** -/
theorem scan (alike : Alike rest rest') (h : Before rest rest' k k') {c : Char} {cs : List Char}
    (hk : (nextBlock k).rest = c :: cs)
    (hnext : (Block.at (nextBlock k).offset c cs).next.rest = rest) :
    ∃ o, keyNames (Bibtex.scan k') = keyNames (Block.at (nextBlock k).offset c cs).events ++
      keyNames (Bibtex.scan ⟨o, rest'⟩) := by
  have hstay : rest <:+ cs := by
    rw [← hnext]
    exact suffix_of_reaches (reaches_read _ ⟨_, cs⟩)
  obtain ⟨-, hblock⟩ :=
    h.upTo alike.head (hstay.trans (by rw [← nextBlock, hk]; exact List.suffix_cons c cs))
  have happend : (nextBlock k).rest = [c] ++ cs := hk
  obtain ⟨cs', hk', hbefore⟩ := hblock.of_append happend hstay
  obtain ⟨hkeys, hafter⟩ := (hbefore ((nextBlock k).offset + c.utf8Size)
    ((nextBlock k').offset + c.utf8Size)).block alike (nextBlock k).offset (nextBlock k').offset
      (by rw [← hnext]; exact List.suffix_refl _)
  refine ⟨(Block.at (nextBlock k').offset c cs').next.offset, ?_⟩
  rw [scan_of_cons hk', keyNames_append]
  exact congrArg₂ _ hkeys (congrArg (fun more => keyNames (Bibtex.scan ⟨_, more⟩))
    (hafter.rest_eq hnext))

end Before

end Manuscript.Bibtex

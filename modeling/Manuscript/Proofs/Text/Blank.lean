/-
# Manuscript.Proofs.Text.Blank -- what trimming and squeezing leave

`trim` gives the one solid text between blanks: a text is blanks, its trimmed text and
blanks again (`exists_trim`), and a solid text between blanks is what trimming gives
(`trim_of_solid`).

`squeeze` leaves no blank but single spaces between words (`squeezed_squeeze`), and no
character that was not there before (`mem_squeeze`).
-/
import Manuscript.Text.Blank
import Mathlib.Data.List.Chain
import Mathlib.Data.List.TakeWhile

namespace Manuscript.Text

set_option autoImplicit false

/-- A text that has no blanks of a class at its ends. -/
structure Solid (blank : Char → Bool) (name : List Char) : Prop where
  nonempty : name ≠ []
  head : ∀ c, name.head? = some c → blank c = false
  last : ∀ c, name.getLast? = some c → blank c = false

/-- Nothing but blanks of a class. -/
def AllBlank (blank : Char → Bool) (cs : List Char) : Prop := ∀ c ∈ cs, blank c = true

variable {blank : Char → Bool} {name left right content : List Char}

theorem Solid.of_isBlank (h : Solid isBlank name) : Solid isAsciiBlank name := by
  have weaken : ∀ c, isBlank c = false → isAsciiBlank c = false := by
    intro c hc
    cases hb : isAsciiBlank c with
    | false => rfl
    | true =>
        rw [isBlank_of_isAsciiBlank hb] at hc
        cases hc
  exact ⟨h.nonempty, fun c hc => weaken c (h.head c hc), fun c hc => weaken c (h.last c hc)⟩

/-- A text without blanks is solid. -/
theorem solid_of_forall (hne : name ≠ []) (h : ∀ c ∈ name, blank c = false) : Solid blank name :=
  ⟨hne, fun c hc => h c (List.mem_of_head? hc), fun c hc => h c (List.mem_of_getLast? hc)⟩

/-! ## Blanks before a solid text -/

theorem takeWhile_of_solid (hleft : AllBlank blank left) (h : Solid blank name)
    (rest : List Char) : (left ++ (name ++ rest)).takeWhile blank = left := by
  cases hn : name with
  | nil => exact absurd hn h.nonempty
  | cons c cs =>
      have hc : ¬ blank c = true := by simp [h.head c (by rw [hn]; rfl)]
      rw [List.takeWhile_append_of_pos hleft, List.cons_append, List.takeWhile_cons_of_neg hc,
        List.append_nil]

theorem dropWhile_of_solid (hleft : AllBlank blank left) (h : Solid blank name)
    (rest : List Char) : (left ++ (name ++ rest)).dropWhile blank = name ++ rest := by
  have := List.takeWhile_append_dropWhile (p := blank) (l := left ++ (name ++ rest))
  rw [takeWhile_of_solid hleft h] at this
  exact List.append_cancel_left this

theorem Solid.reverse (h : Solid blank name) : Solid blank name.reverse :=
  ⟨by simpa using h.nonempty, fun c hc => h.last c (by rwa [List.head?_reverse] at hc),
    fun c hc => h.head c (by rwa [List.getLast?_reverse] at hc)⟩

theorem AllBlank.reverse (h : AllBlank blank left) : AllBlank blank left.reverse :=
  fun c hc => h c (List.mem_reverse.1 hc)

/-! ## Trimming -/

/-- A solid text between blanks is what trimming gives. -/
theorem trim_of_solid (hleft : AllBlank isBlank left) (h : Solid isBlank name)
    (hright : AllBlank isBlank right) : trim (left ++ (name ++ right)) = name := by
  have hend : (name ++ right).reverse = right.reverse ++ (name.reverse ++ []) := by simp
  rw [trim, trimStart, dropWhile_of_solid hleft h, trimEnd, hend,
    dropWhile_of_solid hright.reverse h.reverse, List.append_nil, List.reverse_reverse]

/-- A text is blanks, its trimmed text and blanks again. -/
theorem exists_trim (content : List Char) :
    ∃ right, content = content.takeWhile isBlank ++ (trim content ++ right) ∧
      AllBlank isBlank (content.takeWhile isBlank) ∧ AllBlank isBlank right ∧
      (trim content ≠ [] → Solid isBlank (trim content)) := by
  have hend (cs : List Char) : trimEnd cs ++ (cs.reverse.takeWhile isBlank).reverse = cs := by
    have := congrArg List.reverse (List.takeWhile_append_dropWhile (p := isBlank) (l := cs.reverse))
    rwa [List.reverse_append, List.reverse_reverse] at this
  have htrim : trim content = trimEnd (content.dropWhile isBlank) := rfl
  refine ⟨((content.dropWhile isBlank).reverse.takeWhile isBlank).reverse, ?_,
    fun c hc => List.mem_takeWhile_imp hc,
    fun c hc => List.mem_takeWhile_imp (List.mem_reverse.1 hc), fun hne => ⟨hne, ?_, ?_⟩⟩
  · rw [htrim, hend, List.takeWhile_append_dropWhile]
  · intro c hc
    have hhead : (content.dropWhile isBlank).head? = some c := by
      rw [← hend (content.dropWhile isBlank), List.head?_append, ← htrim, hc]
      rfl
    have := List.head?_dropWhile_not isBlank content
    rwa [hhead] at this
  · intro c hc
    have hhead : ((content.dropWhile isBlank).reverse.dropWhile isBlank).head? = some c := by
      rw [← List.getLast?_reverse]
      exact hc
    have := List.head?_dropWhile_not isBlank (content.dropWhile isBlank).reverse
    rwa [hhead] at this

/-! ## Squeezing -/

/-- A text in which a blank always stands alone between other characters. -/
structure Squeezed (cs : List Char) : Prop where
  head : ∀ c ∈ cs.head?, isBlank c = false
  last : ∀ c ∈ cs.getLast?, isBlank c = false
  alone : cs.IsChain fun c d => isBlank c = false ∨ isBlank d = false

/-- A word is some of the text, and has no blanks. -/
theorem of_mem_words {cs word : List Char} (h : word ∈ words cs) :
    word ≠ [] ∧ ∀ c ∈ word, c ∈ cs ∧ isBlank c = false := by
  induction cs generalizing word with
  | nil => cases h
  | cons c cs ih =>
      have hrest : ∀ word ∈ words cs, word ≠ [] ∧ ∀ d ∈ word, d ∈ c :: cs ∧ isBlank d = false :=
        fun word hword => ⟨(ih hword).1, fun d hd =>
          ⟨List.mem_cons_of_mem c ((ih hword).2 d hd).1, ((ih hword).2 d hd).2⟩⟩
      by_cases hblank : isBlank c = true
      · rw [words.eq_def] at h
        simp only [hblank, if_true] at h
        exact hrest word h
      have hc : isBlank c = false := by simpa using hblank
      have hletter : ∀ d ∈ [c], d ∈ c :: cs ∧ isBlank d = false := by
        intro d hd
        rw [List.mem_singleton.1 hd]
        exact ⟨List.mem_cons_self, hc⟩
      rw [words.eq_def] at h
      simp only [hc, Bool.false_eq_true, if_false] at h
      split at h
      · rw [List.mem_singleton.1 h]
        exact ⟨List.cons_ne_nil c [], hletter⟩
      split at h
      · rcases List.mem_cons.1 h with rfl | h
        · exact ⟨List.cons_ne_nil c [], hletter⟩
        · exact hrest word h
      split at h
      · rw [List.mem_singleton.1 h]
        exact ⟨List.cons_ne_nil c [], hletter⟩
      · rename_i first others hwords
        rw [hwords] at hrest
        rcases List.mem_cons.1 h with rfl | h
        · refine ⟨List.cons_ne_nil c first, fun d hd => ?_⟩
          rcases List.mem_cons.1 hd with rfl | hd
          · exact ⟨List.mem_cons_self, hc⟩
          · exact (hrest first List.mem_cons_self).2 d hd
        · exact hrest word (List.mem_cons_of_mem first h)

theorem squeezed_word {word : List Char} (h : ∀ c ∈ word, isBlank c = false) : Squeezed word where
  head := fun c hc => h c (List.mem_of_head? hc)
  last := fun c hc => h c (List.mem_of_getLast? hc)
  alone := by
    rw [List.isChain_iff_getElem]
    exact fun i _ => .inl (h _ (List.getElem_mem _))

theorem Squeezed.append {word rest : List Char} (hword : Squeezed word) (hrest : Squeezed rest)
    (hne : word ≠ []) (hne' : rest ≠ []) : Squeezed (word ++ ' ' :: rest) where
  head := by
    rw [List.head?_append_of_ne_nil _ hne]
    exact hword.head
  last := by
    rw [List.getLast?_append_of_ne_nil _ (List.cons_ne_nil ' ' rest),
      List.getLast?_cons_of_ne_nil hne']
    exact hrest.last
  alone := by
    rw [List.isChain_append, List.isChain_cons]
    exact ⟨hword.alone, ⟨fun c hc => .inr (hrest.head c hc), hrest.alone⟩,
      fun c hc _ _ => .inl (hword.last c hc)⟩

theorem squeezed_intercalate {ws : List (List Char)}
    (h : ∀ word ∈ ws, word ≠ [] ∧ ∀ c ∈ word, isBlank c = false) :
    Squeezed ([' '].intercalate ws) := by
  have hne : ∀ (word : List Char) (ws : List (List Char)), word ≠ [] →
      [' '].intercalate (word :: ws) ≠ [] := by
    intro word ws hword hnil
    cases ws <;> simp_all [List.intercalate]
  induction ws with
  | nil => exact squeezed_word fun c hc => by cases hc
  | cons word ws ih =>
      obtain ⟨hword, hletters⟩ := h word List.mem_cons_self
      have hrest := fun other hother => h other (List.mem_cons_of_mem word hother)
      cases ws with
      | nil =>
          rw [List.intercalate_singleton]
          exact squeezed_word hletters
      | cons next ws =>
          rw [List.intercalate_cons_cons, List.append_assoc]
          exact (squeezed_word hletters).append (ih hrest) hword
            (hne next ws (hrest next List.mem_cons_self).1)

/-- **A squeezed text has no blanks at its ends and no two in a row.** -/
theorem squeezed_squeeze (cs : List Char) : Squeezed (squeeze cs) :=
  squeezed_intercalate fun _ hword =>
    ⟨(of_mem_words hword).1, fun c hc => ((of_mem_words hword).2 c hc).2⟩

theorem mem_intercalate {ws : List (List Char)} {sep : List Char} {c : Char}
    (h : c ∈ sep.intercalate ws) : c ∈ sep ∨ ∃ word ∈ ws, c ∈ word := by
  induction ws with
  | nil => cases h
  | cons word ws ih =>
      cases ws with
      | nil =>
          rw [List.intercalate_singleton] at h
          exact .inr ⟨word, List.mem_cons_self, h⟩
      | cons next ws =>
          rw [List.intercalate_cons_cons, List.mem_append, List.mem_append] at h
          rcases h with (h | h) | h
          · exact .inr ⟨word, List.mem_cons_self, h⟩
          · exact .inl h
          · exact (ih h).imp_right fun ⟨other, hother, hc⟩ =>
              ⟨other, List.mem_cons_of_mem word hother, hc⟩

theorem mem_squeeze {cs : List Char} {c : Char} (h : c ∈ squeeze cs) : c = ' ' ∨ c ∈ cs := by
  rcases mem_intercalate h with hspace | ⟨word, hword, hc⟩
  · exact .inl (List.mem_singleton.1 hspace)
  · exact .inr ((of_mem_words hword).2 c hc).1

end Manuscript.Text

/-
# Manuscript.Proofs.Text.Form -- texts with a name left open

A `Form` is a text in which a name is left open in some places, and `fill w` puts a
name there.  Two texts that differ in the spelling of one name are two fillings of one
form, and a place in one of them is a place in the other if both come after the same
beginning of the form (`Form.Same`).

A scanner looks ahead from a place to decide how to go on.  Where names are `Inert`, a
look-ahead cannot tell fillings apart: it cuts the form, and with it every filling, in
the same place (`Cuts`).
-/
import Manuscript.Proofs.Text.Placement
import Mathlib.Data.List.Forall2

namespace Manuscript.Text

set_option autoImplicit false

/-- A text in which a name is left open in some places. -/
abbrev Form := List (Option Char)

namespace Form

/-- The text with a name in the open places. -/
def fill (w : List Char) : Form → List Char
  | [] => []
  | some c :: F => c :: fill w F
  | none :: F => w ++ fill w F

/-- A text without open places. -/
def ofText (cs : List Char) : Form := cs.map some

/-- Open places come after separators; `after` says that a separator comes before the form. -/
def Guarded (after : Bool) : Form → Prop
  | [] => True
  | some c :: F => Guarded (isSeparator c) F
  | none :: F => after = true ∧ Guarded false F

/-- The spans of the open places when a name is filled in. -/
def holes (w : List Char) : Nat → Form → List Span
  | _, [] => []
  | offset, some c :: F => holes w (offset + c.utf8Size) F
  | offset, none :: F => ⟨offset, offset + utf8Length w⟩ :: holes w (offset + utf8Length w) F

variable {w : List Char} {F P Q : Form} {cs : List Char}

@[simp] theorem fill_nil : fill w [] = [] := rfl

@[simp] theorem fill_some (c : Char) : fill w (some c :: F) = c :: fill w F := rfl

@[simp] theorem fill_none : fill w (none :: F) = w ++ fill w F := rfl

@[simp] theorem fill_append : fill w (P ++ Q) = fill w P ++ fill w Q := by
  induction P with
  | nil => rfl
  | cons x P ih => cases x <;> simp [ih]

@[simp] theorem fill_ofText : fill w (ofText cs) = cs := by
  induction cs with
  | nil => rfl
  | cons c cs ih => simpa [ofText] using ih

@[simp] theorem ofText_nil : ofText [] = [] := rfl

theorem ofText_append (as bs : List Char) : ofText (as ++ bs) = ofText as ++ ofText bs := by
  simp [ofText]

theorem fill_eq_nil (hw : w ≠ []) (h : fill w F = []) : F = [] := by
  cases F with
  | nil => rfl
  | cons x F => cases x <;> simp [hw] at h

/-- What stands in a filling is the name's or stands in every filling. -/
theorem mem_or_mem_of_fill {u : List Char} {d : Char} (h : d ∈ fill w F) :
    d ∈ w ∨ d ∈ fill u F := by
  induction F with
  | nil => cases h
  | cons x F ih =>
      cases x with
      | some c =>
          rcases List.mem_cons.1 h with rfl | h
          · exact Or.inr List.mem_cons_self
          · exact (ih h).imp_right (List.mem_cons_of_mem c)
      | none =>
          rcases List.mem_append.1 h with h | h
          · exact Or.inl h
          · exact (ih h).imp_right (List.mem_append_right u)

/-- A form is cut in one way for each length of what comes before the cut. -/
theorem append_inj_of_fill (hw : w ≠ []) {P' Q' : Form} (h : P ++ Q = P' ++ Q')
    (hfill : fill w P = fill w P') : P = P' ∧ Q = Q' := by
  rcases List.append_eq_append_iff.1 h with ⟨R, rfl, rfl⟩ | ⟨R, rfl, rfl⟩
  · rw [fill_append, List.self_eq_append_right] at hfill
    simp [fill_eq_nil hw hfill]
  · rw [fill_append, List.append_right_eq_self] at hfill
    simp [fill_eq_nil hw hfill]

/-! ## Guards -/

theorem Guarded.mono (h : Guarded false F) (after : Bool) : Guarded after F := by
  cases F with
  | nil => trivial
  | cons x F =>
      cases x with
      | some c => exact h
      | none => exact absurd h.1 (by decide)

theorem Guarded.append {after : Bool} (hP : Guarded after P) (hQ : Guarded false Q) :
    Guarded after (P ++ Q) := by
  induction P generalizing after with
  | nil => exact hQ.mono after
  | cons x P ih =>
      cases x with
      | some c => exact ih hP
      | none => exact ⟨hP.1, ih hP.2⟩

theorem Guarded.tail {after : Bool} {c : Char} (h : Guarded after (P ++ some c :: Q)) :
    Guarded (isSeparator c) Q := by
  induction P generalizing after with
  | nil => exact h
  | cons x P ih =>
      cases x with
      | some d => exact ih h
      | none => exact ih h.2

theorem Guarded.drop {after : Bool} (h : Guarded after (P ++ Q)) : ∃ after', Guarded after' Q := by
  induction P generalizing after with
  | nil => exact ⟨after, h⟩
  | cons x P ih =>
      cases x with
      | some c => exact ih h
      | none => exact ih h.2

/-- Without a separator before it, a form starts with what it is filled to. -/
theorem Guarded.exists_of_fill {d : Char} {rest : List Char} (h : Guarded false F)
    (hfill : fill w F = d :: rest) : ∃ R, F = some d :: R := by
  cases F with
  | nil => cases hfill
  | cons x F =>
      cases x with
      | some c =>
          rw [fill_some, List.cons.injEq] at hfill
          exact ⟨F, by rw [hfill.1]⟩
      | none => exact absurd h.1 Bool.false_ne_true

theorem guarded_ofText (after : Bool) (cs : List Char) : Guarded after (ofText cs) := by
  induction cs generalizing after with
  | nil => trivial
  | cons c cs ih => exact ih _

/-! ## Open places -/

theorem holes_append (offset : Nat) :
    holes w offset (P ++ Q) = holes w offset P ++ holes w (offset + utf8Length (fill w P)) Q := by
  induction P generalizing offset with
  | nil => rfl
  | cons x P ih =>
      cases x <;> simp [holes, ih, Nat.add_assoc]

@[simp] theorem holes_ofText (offset : Nat) (cs : List Char) : holes w offset (ofText cs) = [] := by
  induction cs generalizing offset with
  | nil => rfl
  | cons c cs ih => exact ih _

/-! ## Places -/

/-- The offsets come after the same beginning of the form. -/
def Same (u v : List Char) (F : Form) (o o' : Nat) : Prop :=
  ∃ P Q, F = P ++ Q ∧ o = utf8Length (fill u P) ∧ o' = utf8Length (fill v P)

variable {u v : List Char} {same : Nat → Nat → Prop} {o o' : Nat}

/-- Two beginnings of a form: one goes on where the other ends. -/
theorem Same.exists_between {a a' b b' : Nat} (ha : Same u v F a a') (hb : Same u v F b b') :
    (∃ R, b = a + utf8Length (fill u R) ∧ b' = a' + utf8Length (fill v R)) ∨
      ∃ R, a = b + utf8Length (fill u R) ∧ a' = b' + utf8Length (fill v R) := by
  obtain ⟨P, Q, rfl, rfl, rfl⟩ := ha
  obtain ⟨P', Q', h, rfl, rfl⟩ := hb
  rcases List.append_eq_append_iff.1 h with ⟨R, rfl, -⟩ | ⟨R, rfl, -⟩
  · exact Or.inl ⟨R, by simp, by simp⟩
  · exact Or.inr ⟨R, by simp, by simp⟩

/-- **Places of two fillings are in the same order.** -/
theorem Same.lt_iff (hu : u ≠ []) (hv : v ≠ []) {a a' b b' : Nat} (ha : Same u v F a a')
    (hb : Same u v F b b') : a < b ↔ a' < b' := by
  have hpos (R : Form) : 0 < utf8Length (fill u R) ↔ 0 < utf8Length (fill v R) := by
    by_cases hR : R = []
    · rw [hR]
      rfl
    · exact ⟨fun _ => utf8Length_pos fun h => hR (fill_eq_nil hv h),
        fun _ => utf8Length_pos fun h => hR (fill_eq_nil hu h)⟩
  rcases ha.exists_between hb with ⟨R, rfl, rfl⟩ | ⟨R, rfl, rfl⟩
  · have := hpos R
    omega
  · omega

theorem Same.eq_iff (hu : u ≠ []) (hv : v ≠ []) {a a' b b' : Nat} (ha : Same u v F a a')
    (hb : Same u v F b b') : a = b ↔ a' = b' := by
  have hlt := ha.lt_iff hu hv hb
  have hgt := hb.lt_iff hu hv ha
  omega

/-- Both ends are related. -/
def SameSpan (same : Nat → Nat → Prop) (s s' : Span) : Prop :=
  same s.start s'.start ∧ same s.stop s'.stop

/-- Every place of a part of a text is related. -/
def Along (u v : List Char) (same : Nat → Nat → Prop) (o o' : Nat) (F : Form) : Prop :=
  ∀ P Q, F = P ++ Q → same (o + utf8Length (fill u P)) (o' + utf8Length (fill v P))

theorem along_same (u v : List Char) (F : Form) : Along u v (Same u v F) 0 0 F :=
  fun P Q h => ⟨P, Q, h, by simp, by simp⟩

namespace Along

theorem start (h : Along u v same o o' F) : same o o' := h [] F rfl

theorem stop (h : Along u v same o o' F) :
    same (o + utf8Length (fill u F)) (o' + utf8Length (fill v F)) := h F [] (by simp)

theorem left (h : Along u v same o o' (P ++ Q)) : Along u v same o o' P := by
  intro P' Q' hP
  exact h P' (Q' ++ Q) (by rw [hP, List.append_assoc])

theorem right (h : Along u v same o o' (P ++ Q)) :
    Along u v same (o + utf8Length (fill u P)) (o' + utf8Length (fill v P)) Q := by
  intro P' Q' hQ
  have := h (P ++ P') Q' (by rw [hQ, List.append_assoc])
  simpa [Nat.add_assoc] using this

/-- Open places are in the same places. -/
theorem holes (h : Along u v same o o' F) :
    List.Forall₂ (SameSpan same) (holes u o F) (holes v o' F) := by
  induction F generalizing o o' with
  | nil => exact .nil
  | cons x F ih =>
      cases x with
      | some c =>
          apply ih
          have := Along.right (P := [some c]) (Q := F) h
          simpa using this
      | none =>
          have hfirst := Along.left (P := [none]) (Q := F) h
          have hrest := Along.right (P := [none]) (Q := F) h
          simp only [fill_none, fill_nil, List.append_nil] at hrest
          have hstop := hfirst.stop
          simp only [fill_none, fill_nil, List.append_nil] at hstop
          exact .cons ⟨hfirst.start, hstop⟩ (ih hrest)

end Along

end Form

/-! ## Names -/

/-- A name after the respelling of `u` as `v`. -/
def respell (u v : List Char) (name : String) : String :=
  if name = String.ofList u then String.ofList v else name

theorem respell_self {u v : List Char} : respell u v (String.ofList u) = String.ofList v :=
  if_pos rfl

theorem respell_of_ne {u v w : List Char} (h : w ≠ u) :
    respell u v (String.ofList w) = String.ofList w :=
  if_neg fun heq => h (String.ofList_injective heq)

/-! ## Plain names -/

/-- The characters that no look-ahead stops at. -/
def isPlain (c : Char) : Bool :=
  !isBlank c && c ∉ ['\x7b', '\x7d', '[', ']', ',', '%', '\\']

/-- A name that is read as it stands. -/
structure Plain (w : List Char) : Prop where
  nonempty : w ≠ []
  plain : ∀ c ∈ w, isPlain c = true

theorem plain_of_all {w : List Char} (hne : w ≠ []) (h : w.all isPlain = true) : Plain w :=
  ⟨hne, List.all_eq_true.1 h⟩

/-- A plain character is none that is not. -/
theorem ne_of_isPlain {c d : Char} (hc : isPlain c = true) (hd : isPlain d = false) : c ≠ d := by
  rintro rfl
  rw [hc] at hd
  cases hd

theorem isBlank_of_isPlain {c : Char} (hc : isPlain c = true) : isBlank c = false := by
  simp only [isPlain, Bool.and_eq_true, Bool.not_eq_true'] at hc
  exact hc.1

theorem Plain.solid {w : List Char} (h : Plain w) : Solid isBlank w :=
  solid_of_forall h.nonempty fun c hc => isBlank_of_isPlain (h.plain c hc)

/-! ## Inert names -/

/-- The characters that no look-ahead stops at, blanks of one line among them. -/
def isInert (c : Char) : Bool :=
  c ∉ ['\n', '\x7b', '\x7d', '[', ']', ',', '%', '\\']

theorem ne_of_isInert {c d : Char} (hc : isInert c = true) (hd : isInert d = false) : c ≠ d := by
  rintro rfl
  rw [hc] at hd
  cases hd

theorem isInert_of_isPlain {c : Char} (hc : isPlain c = true) : isInert c = true := by
  have hfeed : c ≠ '\n' := ne_of_isPlain hc (by decide)
  simp only [isPlain, isInert, Bool.and_eq_true, decide_eq_true_eq, List.mem_cons, not_or]
    at hc ⊢
  exact ⟨hfeed, hc.2⟩

/-- An inert character is plain if it is no blank. -/
theorem isPlain_of_isInert {c : Char} (hc : isInert c = true) (hblank : isBlank c = false) :
    isPlain c = true := by
  simp only [isPlain, isInert, hblank, Bool.not_false, Bool.true_and, decide_eq_true_eq,
    List.mem_cons, not_or] at hc ⊢
  exact hc.2

/-- A name that no look-ahead tells from another. -/
structure Inert (w : List Char) : Prop where
  solid : Solid isBlank w
  inert : ∀ c ∈ w, isInert c = true

theorem Plain.inert {w : List Char} (h : Plain w) : Inert w :=
  ⟨h.solid, fun c hc => isInert_of_isPlain (h.plain c hc)⟩

namespace Inert

variable {w : List Char}

theorem nonempty (h : Inert w) : w ≠ [] := h.solid.nonempty

/-- An inert name starts with a plain character. -/
theorem exists_cons (h : Inert w) :
    ∃ c cs, w = c :: cs ∧ isPlain c = true ∧ ∀ d ∈ cs, isInert d = true := by
  cases hw : w with
  | nil => exact absurd hw h.nonempty
  | cons c cs =>
      have hinert := h.inert
      have hhead := h.solid.head c
      rw [hw] at hinert hhead
      exact ⟨c, cs, rfl, isPlain_of_isInert (hinert c List.mem_cons_self) (hhead rfl),
        fun d hd => hinert d (List.mem_cons_of_mem _ hd)⟩

/-- A character that is not plain is not the start of an inert name. -/
theorem exists_of_fill (hw : Inert w) {F : Form} {d : Char} {rest : List Char}
    (hd : isPlain d = false) (h : F.fill w = d :: rest) : ∃ R, F = some d :: R := by
  cases F with
  | nil => cases h
  | cons x F =>
      cases x with
      | some c =>
          rw [Form.fill_some, List.cons.injEq] at h
          exact ⟨F, by rw [h.1]⟩
      | none =>
          obtain ⟨c, cs, rfl, hc, -⟩ := hw.exists_cons
          rw [Form.fill_none, List.cons_append, List.cons.injEq] at h
          exact absurd h.1 (ne_of_isPlain hc hd)

end Inert

theorem inert_x : Inert ['x'] := (plain_of_all (List.cons_ne_nil _ _) (by decide)).inert

/-! ## Look-aheads -/

open Form in
/-- A look-ahead cuts the form in one place, or nowhere, whatever name is filled in. -/
def Cuts (f : List Char → Option (List Char × List Char)) (F : Form) : Prop :=
  ∃ cut : Option (Form × Form), (∀ P Q, cut = some (P, Q) → F = P ++ Q) ∧
    ∀ w, Inert w → f (fill w F) = cut.map fun parts => (fill w parts.1, fill w parts.2)

namespace Cuts

open Form

variable {f g : List Char → Option (List Char × List Char)} {F : Form}

theorem nowhere (h : ∀ w, Inert w → f (fill w F) = none) : Cuts f F :=
  ⟨none, fun _ _ h => (by cases h), h⟩

theorem at_append {P Q : Form}
    (h : ∀ w, Inert w → f (fill w (P ++ Q)) = some (fill w P, fill w Q)) : Cuts f (P ++ Q) :=
  ⟨some (P, Q), fun _ _ h => (by cases h; rfl), h⟩

theorem here (h : ∀ w, Inert w → f (fill w F) = some ([], fill w F)) : Cuts f F := by
  show Cuts f ([] ++ F)
  exact at_append h

/-- A look-ahead that goes on after something. -/
theorem append {P : Form} (hg : Cuts g F)
    (h : ∀ w, Inert w → f (fill w P ++ fill w F) =
      (g (fill w F)).map fun parts => (fill w P ++ parts.1, parts.2)) : Cuts f (P ++ F) := by
  obtain ⟨cut, hcut, hg⟩ := hg
  refine ⟨cut.map fun parts => (P ++ parts.1, parts.2), ?_, fun w hw => ?_⟩
  · intro P' Q' h
    obtain ⟨⟨A, B⟩, hAB, heq⟩ := Option.map_eq_some_iff.1 h
    cases heq
    rw [hcut A B hAB, List.append_assoc]
  · rw [fill_append, h w hw, hg w hw]
    cases cut <;> simp

end Cuts

end Manuscript.Text

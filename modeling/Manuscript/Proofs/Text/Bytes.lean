/-
# Manuscript.Proofs.Text.Bytes -- offsets as beginnings of a text

A boundary of a text is the length of one of its beginnings.  So a cut at a boundary
is a way to write the text as two parts (`dropBytes?_eq_some`, `takeBytes?_eq_some`),
and a slice a way to write it as three (`slice?_eq_some`).  Two ways to cut a text at
one offset are the same (`append_inj_of_utf8Length`).
-/
import Manuscript.Text.Span

namespace Manuscript.Text

set_option autoImplicit false

variable {as bs cs : List Char} {c : Char}

theorem utf8Length_pos (h : cs ≠ []) : 0 < utf8Length cs := by
  cases cs with
  | nil => exact absurd rfl h
  | cons c cs =>
      have := Char.utf8Size_pos c
      rw [utf8Length_cons]
      omega

theorem utf16Size_pos (c : Char) : 0 < utf16Size c := by
  unfold utf16Size
  split <;> decide

@[simp] theorem utf16Length_append (as bs : List Char) :
    utf16Length (as ++ bs) = utf16Length as + utf16Length bs := by
  induction as with
  | nil => simp
  | cons c as ih => rw [List.cons_append, utf16Length_cons, utf16Length_cons, ih, Nat.add_assoc]

/-! ## Cuts -/

theorem dropBytes?_cons (c : Char) (n : Nat) (cs : List Char) :
    dropBytes? (c.utf8Size + n) (c :: cs) = dropBytes? n cs := by
  have hc := Char.utf8Size_pos c
  obtain ⟨m, hm⟩ : ∃ m, c.utf8Size + n = m + 1 := ⟨c.utf8Size + n - 1, by omega⟩
  rw [hm, dropBytes?, if_pos (by omega), show m + 1 - c.utf8Size = n by omega]

theorem takeBytes?_cons (c : Char) (n : Nat) (cs : List Char) :
    takeBytes? (c.utf8Size + n) (c :: cs) = (takeBytes? n cs).map (c :: ·) := by
  have hc := Char.utf8Size_pos c
  obtain ⟨m, hm⟩ : ∃ m, c.utf8Size + n = m + 1 := ⟨c.utf8Size + n - 1, by omega⟩
  rw [hm, takeBytes?, if_pos (by omega), show m + 1 - c.utf8Size = n by omega]

theorem dropBytes?_append (as bs : List Char) :
    dropBytes? (utf8Length as) (as ++ bs) = some bs := by
  induction as with
  | nil => cases bs <;> rfl
  | cons a as ih => rw [utf8Length_cons, List.cons_append, dropBytes?_cons, ih]

/-- A text cannot be cut inside a character. -/
theorem dropBytes?_inside (as : List Char) (c : Char) (bs : List Char) {k : Nat} (hpos : 0 < k)
    (hk : k < c.utf8Size) : dropBytes? (utf8Length as + k) (as ++ c :: bs) = none := by
  induction as with
  | nil =>
      obtain ⟨k, rfl⟩ : ∃ n, k = n + 1 := ⟨k - 1, by omega⟩
      rw [utf8Length_nil, Nat.zero_add, List.nil_append, dropBytes?, if_neg (by omega)]
  | cons a as ih => rw [utf8Length_cons, List.cons_append, Nat.add_assoc, dropBytes?_cons, ih]

theorem takeBytes?_append (as bs : List Char) :
    takeBytes? (utf8Length as) (as ++ bs) = some as := by
  induction as with
  | nil => cases bs <;> rfl
  | cons a as ih => rw [utf8Length_cons, List.cons_append, takeBytes?_cons, ih]; rfl

theorem takeWithin_append (as bs : List Char) :
    takeWithin (utf8Length as) (as ++ bs) = as := by
  induction as with
  | nil =>
      cases bs with
      | nil => rfl
      | cons b bs =>
          have := Char.utf8Size_pos b
          rw [List.nil_append, utf8Length_nil, takeWithin, if_neg (by omega)]
  | cons a as ih =>
      rw [utf8Length_cons, List.cons_append, takeWithin, if_pos (by omega),
        Nat.add_sub_cancel_left, ih]

theorem dropBytes?_eq_some {n : Nat} :
    dropBytes? n cs = some bs ↔ ∃ read, cs = read ++ bs ∧ n = utf8Length read := by
  constructor
  · intro h
    induction cs generalizing n with
    | nil =>
        cases n with
        | zero => cases h; exact ⟨[], rfl, rfl⟩
        | succ n => cases h
    | cons c cs ih =>
        cases n with
        | zero => cases h; exact ⟨[], rfl, rfl⟩
        | succ n =>
            rw [dropBytes?] at h
            split at h
            · rename_i hle
              obtain ⟨read, rfl, hn⟩ := ih h
              exact ⟨c :: read, rfl, by rw [utf8Length_cons]; omega⟩
            · cases h
  · rintro ⟨read, rfl, rfl⟩
    exact dropBytes?_append read bs

theorem takeBytes?_eq_some {n : Nat} :
    takeBytes? n cs = some as ↔ ∃ rest, cs = as ++ rest ∧ n = utf8Length as := by
  constructor
  · intro h
    induction cs generalizing n as with
    | nil =>
        cases n with
        | zero => cases h; exact ⟨[], rfl, rfl⟩
        | succ n => cases h
    | cons c cs ih =>
        cases n with
        | zero => cases h; exact ⟨c :: cs, rfl, rfl⟩
        | succ n =>
            rw [takeBytes?] at h
            split at h
            · obtain ⟨as', has, rfl⟩ := Option.map_eq_some_iff.1 h
              obtain ⟨rest, rfl, hn⟩ := ih has
              exact ⟨rest, rfl, by rw [utf8Length_cons]; omega⟩
            · cases h
  · rintro ⟨rest, rfl, rfl⟩
    exact takeBytes?_append as rest

/-- A text is cut at an offset in one way. -/
theorem append_inj_of_utf8Length {as' bs' : List Char} (h : as ++ bs = as' ++ bs')
    (hlen : utf8Length as = utf8Length as') : as = as' ∧ bs = bs' := by
  have htake := takeBytes?_append as bs
  have hdrop := dropBytes?_append as bs
  rw [h, hlen] at htake hdrop
  rw [takeBytes?_append] at htake
  rw [dropBytes?_append] at hdrop
  exact ⟨(Option.some.inj htake).symm, (Option.some.inj hdrop).symm⟩

/-! ## Boundaries -/

/-- The offset is the length of a beginning of the text. -/
def Boundary (text : List Char) (offset : Nat) : Prop :=
  ∃ before after, text = before ++ after ∧ offset = utf8Length before

/-- What stands between two boundaries. -/
theorem Boundary.exists_between {text : List Char} {a b : Nat} (ha : Boundary text a)
    (hb : Boundary text b) (hlt : a < b) :
    ∃ before between after, text = before ++ (between ++ after) ∧ a = utf8Length before ∧
      b = utf8Length (before ++ between) ∧ between ≠ [] := by
  obtain ⟨before, after, htext, rfl⟩ := ha
  obtain ⟨before', after', htext', rfl⟩ := hb
  rcases List.append_eq_append_iff.1 (htext.symm.trans htext') with ⟨between, h, hafter⟩ |
    ⟨between, h, hafter⟩
  · refine ⟨before, between, after', by rw [htext, hafter], rfl, by rw [h], ?_⟩
    rintro rfl
    rw [h, List.append_nil] at hlt
    exact Nat.lt_irrefl _ hlt
  · rw [h, utf8Length_append] at hlt
    omega

/-! ## Slices -/

theorem slice?_eq_some {text : List Char} {s : Span} :
    slice? text s = some cs ↔ ∃ before after, text = before ++ (cs ++ after) ∧
      s.start = utf8Length before ∧ s.stop = utf8Length before + utf8Length cs := by
  unfold slice?
  constructor
  · intro h
    split at h
    · rename_i hle
      obtain ⟨rest, hdrop, htake⟩ := Option.bind_eq_some_iff.1 h
      obtain ⟨before, rfl, hstart⟩ := dropBytes?_eq_some.1 hdrop
      obtain ⟨after, rfl, hlen⟩ := takeBytes?_eq_some.1 htake
      rw [Span.length] at hlen
      exact ⟨before, after, rfl, hstart, by omega⟩
    · cases h
  · rintro ⟨before, after, rfl, hstart, hstop⟩
    rw [if_pos (by omega), hstart, dropBytes?_append, Option.bind_some]
    exact takeBytes?_eq_some.2 ⟨after, rfl, by rw [Span.length]; omega⟩

end Manuscript.Text

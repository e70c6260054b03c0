/-
# Manuscript.Proofs.Bytewise.Access -- reading a text by byte offsets

The readers of this library take the characters that are left to read.  A program that
holds a text as an array of bytes reads it by offsets instead: it looks at one byte,
cuts out the text between two offsets, takes one number from another and goes on at a
later offset.  Each of these can go wrong, and `Checked` readings say so: `byte` answers
a `Fault` where there is no byte, `slice` where an end is out of the text or inside a
character, `minus` below zero, and `loop` when a turn does not move forward.

`Manuscript.Proofs.Bytewise` writes every reader once more in this way and shows that
the checked reading is `.ok` of what the library reads.  This module has the accesses
and the loops.  Bytes outside ASCII are all the same to the readers (`Byte`), so a loop
that steps over them one at a time, or enters a character after a backslash, comes out
at the end of the character (`scanBytes_inside`); at the places between characters
(`At`) it sees the next character (`scanBytes_on`, `scanBytes_done`).
-/
import Manuscript.Text.Cursor
import Manuscript.Proofs.Text.Bytes

namespace Manuscript.Bytewise

set_option autoImplicit false

open Text

/-- What a reading by offsets must not do. -/
inductive Fault where
  /-- Looks at a place that an array does not have. -/
  | index (i : Nat)
  /-- Cuts outside of the text or inside a character. -/
  | slice (span : Span)
  /-- Takes the second number from the first, which is less. -/
  | difference (a b : Nat)
  /-- Turns in a loop without reading on. -/
  | stalled (i : Nat)
  /-- Asks for a group that took no part in a match. -/
  | group (number : Nat)
deriving DecidableEq, Repr

abbrev Checked (α : Type) := Except Fault α

variable {ε σ α β : Type}

@[simp] theorem ok_bind (a : α) (f : α → Except ε β) : (Except.ok a >>= f) = f a := rfl

@[simp] theorem pure_eq_ok (a : α) : (pure a : Checked α) = .ok a := rfl

@[simp] theorem map_ok (f : α → β) (a : α) : f <$> (Except.ok a : Checked α) = .ok (f a) := rfl

theorem mapM_eq_ok {f : α → Checked β} {g : α → β} {as : List α}
    (h : ∀ a ∈ as, f a = .ok (g a)) : as.mapM f = .ok (as.map g) := by
  induction as with
  | nil => rfl
  | cons a as ih =>
      rw [List.mapM_cons, h a List.mem_cons_self,
        ih fun b hb => h b (List.mem_cons_of_mem a hb)]
      rfl

/-! ## Bytes -/

/-- A byte as the readers tell it from others: an ASCII character, or a part of a longer
one. -/
abbrev Byte := Option Char

def Byte.ofUInt8 (b : UInt8) : Byte := if b < 128 then some (Char.ofUInt8 b) else none

/-- The first byte of a character. -/
def Byte.ofChar (c : Char) : Byte := if c.val ≤ 127 then some c else none

def bytes (text : List Char) : List Byte :=
  (text.flatMap String.utf8EncodeChar).map Byte.ofUInt8

@[simp] theorem length_bytes (text : List Char) : (bytes text).length = utf8Length text := by
  induction text with
  | nil => rfl
  | cons c cs ih =>
      rw [bytes, List.length_map] at ih ⊢
      rw [List.flatMap_cons, List.length_append, String.length_utf8EncodeChar, ih,
        utf8Length_cons]

theorem bytes_append (as bs : List Char) : bytes (as ++ bs) = bytes as ++ bytes bs := by
  simp [bytes]

theorem ofUInt8_ofNat_add (n : Nat) {m : Nat} (hle : 128 ≤ m) (hlt : n + m < 256) :
    Byte.ofUInt8 (UInt8.ofNat (n + m)) = none := by
  rw [Byte.ofUInt8, if_neg]
  rw [UInt8.lt_iff_toNat_lt, UInt8.toNat_ofNat', Nat.mod_eq_of_lt hlt]
  exact Nat.not_lt.2 (Nat.le_trans hle (Nat.le_add_left m n))

theorem bytes_of_ascii {c : Char} (h : c.val ≤ 127) : bytes [c] = [some c] := by
  have hle : c.val.toNat ≤ 127 := UInt32.le_iff_toNat_le.1 h
  have hlt : UInt8.ofNat c.val.toNat < 128 := by
    rw [UInt8.lt_iff_toNat_lt, UInt8.toNat_ofNat', Nat.mod_eq_of_lt (by omega)]
    exact Nat.lt_succ_of_le hle
  have hchar : Char.ofUInt8 (UInt8.ofNat c.val.toNat) = c := by
    apply Char.ext
    apply UInt32.toNat_inj.1
    show (UInt8.ofNat c.val.toNat).toUInt32.toNat = _
    rw [UInt8.toNat_toUInt32, UInt8.toNat_ofNat', Nat.mod_eq_of_lt (by omega)]
  simp only [bytes, List.flatMap_cons, List.flatMap_nil, List.append_nil, String.utf8EncodeChar,
    if_pos hle, List.map_cons, List.map_nil, Byte.ofUInt8, if_pos hlt, hchar]

theorem bytes_of_not_ascii {c : Char} (h : ¬ c.val ≤ 127) :
    bytes [c] = List.replicate c.utf8Size none := by
  have hle : ¬ c.val.toNat ≤ 127 := fun hle => h (UInt32.le_iff_toNat_le.2 hle)
  have hall : ∀ b ∈ bytes [c], b = none := by
    intro b hb
    simp only [bytes, List.flatMap_cons, List.flatMap_nil, List.append_nil, String.utf8EncodeChar,
      if_neg hle] at hb
    split at hb
    · simp only [List.map_cons, List.map_nil, List.mem_cons, List.not_mem_nil, or_false] at hb
      rcases hb with rfl | rfl <;> exact ofUInt8_ofNat_add _ (by omega) (by omega)
    split at hb
    · simp only [List.map_cons, List.map_nil, List.mem_cons, List.not_mem_nil, or_false] at hb
      rcases hb with rfl | rfl | rfl <;> exact ofUInt8_ofNat_add _ (by omega) (by omega)
    · simp only [List.map_cons, List.map_nil, List.mem_cons, List.not_mem_nil, or_false] at hb
      rcases hb with rfl | rfl | rfl | rfl <;> exact ofUInt8_ofNat_add _ (by omega) (by omega)
  have hlength := length_bytes [c]
  rw [utf8Length_cons, utf8Length_nil, Nat.add_zero] at hlength
  exact hlength ▸ List.eq_replicate_of_mem hall

/-- The bytes of a character: its first, and then parts of a longer one. -/
theorem bytes_singleton (c : Char) :
    bytes [c] = Byte.ofChar c :: List.replicate (c.utf8Size - 1) none := by
  by_cases h : c.val ≤ 127
  · rw [bytes_of_ascii h, Byte.ofChar, if_pos h, Char.utf8Size_eq_one_iff.2 h]
    rfl
  · rw [bytes_of_not_ascii h, Byte.ofChar, if_neg h, ← List.replicate_succ,
      Nat.sub_add_cancel c.utf8Size_pos]

@[simp] theorem ofChar_eq_some_iff {c a : Char} (ha : a.val ≤ 127) :
    Byte.ofChar c = some a ↔ c = a := by
  unfold Byte.ofChar
  split
  · exact Option.some_inj
  · rename_i hc
    exact ⟨fun h => (nomatch h), fun h => absurd (h ▸ ha) hc⟩

/-- A class of ASCII characters is a class of bytes. -/
theorem any_ofChar {p : Char → Bool} (hp : ∀ c, p c = true → c.val ≤ 127) (c : Char) :
    (Byte.ofChar c).any p = p c := by
  unfold Byte.ofChar
  split
  · rfl
  · rename_i hc
    exact (Bool.eq_false_iff.2 fun h => hc (hp c h)).symm

theorem ascii_of_isAsciiBlank (c : Char) (h : isAsciiBlank c = true) : c.val ≤ 127 := by
  simp only [isAsciiBlank, Bool.or_eq_true, beq_iff_eq] at h
  rcases h with (((rfl | rfl) | rfl) | rfl) | rfl <;> decide

theorem ascii_of_isLayout (c : Char) (h : isLayout c = true) : c.val ≤ 127 :=
  ascii_of_isAsciiBlank c (isAsciiBlank_of_isLayout h)

theorem ascii_of_isAlpha (c : Char) (h : c.isAlpha = true) : c.val ≤ 127 := by
  have h : (c.isUpper || c.isLower) = true := h
  have hle : c.val ≤ 'Z'.val ∨ c.val ≤ 'z'.val :=
    (Bool.or_eq_true_iff.1 h).imp (fun hupper => (of_decide_eq_true hupper).2)
      fun hlower => of_decide_eq_true (Bool.and_eq_true_iff.1 hlower).2
  rcases hle with hle | hle <;> exact UInt32.le_trans hle (by decide)

theorem ascii_of_isDigit (c : Char) (h : c.isDigit = true) : c.val ≤ 127 := by
  have hle : c.val ≤ '9'.val := of_decide_eq_true (Bool.and_eq_true_iff.1 h).2
  exact UInt32.le_trans hle (by decide)

/-! ## Accesses -/

/-- The item of an array at an index. -/
def item (xs : List α) (i : Nat) : Checked α :=
  match xs[i]? with
  | some x => .ok x
  | none => .error (.index i)

theorem item_eq_ok {xs : List α} {i : Nat} {x : α} (h : xs[i]? = some x) : item xs i = .ok x := by
  rw [item, h]

def minus (a b : Nat) : Checked Nat :=
  if b ≤ a then .ok (a - b) else .error (.difference a b)

theorem minus_eq_ok {a b : Nat} (h : b ≤ a) : minus a b = .ok (a - b) := if_pos h

@[simp] theorem minus_one (n : Nat) : minus (n + 1) 1 = .ok n := minus_eq_ok (by omega)

section

variable (text : List Char)

def byte (i : Nat) : Checked Byte := item (bytes text) i

/-- The ASCII character at an index, if the text has one there. -/
def ascii? (i : Nat) : Option Char := (bytes text)[i]?.join

/-- The text between two offsets. -/
def slice (start stop : Nat) : Checked (List Char) :=
  match slice? text ⟨start, stop⟩ with
  | some cs => .ok cs
  | none => .error (.slice ⟨start, stop⟩)

/-- The text from an offset on. -/
def sliceFrom (start : Nat) : Checked (List Char) := slice text start (utf8Length text)

/-! ## Loops -/

end

/-- One turn of a loop: it goes on at an offset, or ends. -/
inductive Turn (σ α : Type) where
  | on (state : σ) (i : Nat)
  | done (result : α)
deriving DecidableEq, Repr

section

variable (text : List Char)

/-- Turns until one ends the loop.  Each turn that does not has to read on, from a place in
the text. -/
def loop (turn : σ → Nat → Checked (Turn σ α)) (s : σ) (i : Nat) : Checked α :=
  match turn s i with
  | .error fault => .error fault
  | .ok (.done a) => .ok a
  | .ok (.on s' i') =>
      if _h : i < i' ∧ i < utf8Length text then loop turn s' i' else .error (.stalled i)
termination_by utf8Length text - i
decreasing_by omega

/-- A loop over the bytes from an offset to the end of the text. -/
def scanBytes (atEnd : σ → Nat → α) (turn : σ → Nat → Byte → Checked (Turn σ α)) (s : σ)
    (i : Nat) : Checked α :=
  loop text (fun s i =>
    if i < utf8Length text then do turn s i (← byte text i) else pure (.done (atEnd s i))) s i

/-- The first offset whose byte stops the search, or the end of the text. -/
def seek (stop : Byte → Bool) (i : Nat) : Checked Nat :=
  scanBytes text (fun _ i => i)
    (fun _ i b => pure (if stop b then .done i else .on () (i + 1))) () i

end

/-! ## At the places between characters -/

/-- The cursor is at its offset in the text. -/
abbrev At (text : List Char) (k : Cursor) : Prop := Cursor.Reaches ⟨0, text⟩ k

section

variable {text cs read rest : List Char} {c : Char} {i : Nat}

theorem at_start (text : List Char) : At text ⟨0, text⟩ := Cursor.Reaches.refl _

theorem At.split (h : At text ⟨i, cs⟩) :
    ∃ before, text = before ++ cs ∧ i = utf8Length before := by
  obtain ⟨before, htext, hi⟩ := h
  exact ⟨before, htext, by simpa using hi⟩

theorem At.skip (h : At text ⟨i, read ++ rest⟩) : At text ⟨i + utf8Length read, rest⟩ :=
  Cursor.Reaches.trans h ⟨read, rfl, rfl⟩

theorem At.next (h : At text ⟨i, c :: cs⟩) : At text ⟨i + c.utf8Size, cs⟩ :=
  Cursor.Reaches.trans h ⟨[c], rfl, by simp⟩

theorem At.trans {k k' : Cursor} (h : At text k) (hk : k.Reaches k') : At text k' :=
  Cursor.Reaches.trans h hk

theorem At.length_eq (h : At text ⟨i, cs⟩) : utf8Length text = i + utf8Length cs := by
  obtain ⟨before, rfl, rfl⟩ := h.split
  exact utf8Length_append before cs

/-- A place behind something is later, and what it is behind was in the text. -/
theorem At.lt_of_reaches {k k' : Cursor} (h : At text k) (hk : k.Reaches k')
    (hlength : k'.rest.length < k.rest.length) :
    k.offset < k'.offset ∧ k.offset < utf8Length text := by
  obtain ⟨read, hrest, hoffset⟩ := hk
  have hread : read ≠ [] := by
    rintro rfl
    rw [hrest] at hlength
    exact Nat.lt_irrefl _ hlength
  have hpos := utf8Length_pos hread
  have htext : utf8Length text = k.offset + utf8Length k.rest := h.length_eq
  rw [hrest, utf8Length_append] at htext
  omega

theorem bytes_at (h : At text ⟨i, c :: cs⟩) {j : Nat} (hj : j < c.utf8Size) :
    (bytes text)[i + j]? = (bytes [c])[j]? := by
  obtain ⟨before, rfl, rfl⟩ := h.split
  rw [bytes_append, ← length_bytes before, List.getElem?_append_right (Nat.le_add_right _ _),
    Nat.add_sub_cancel_left, ← List.singleton_append, bytes_append,
    List.getElem?_append_left (by simpa using hj)]

theorem first_byte_at (h : At text ⟨i, c :: cs⟩) : (bytes text)[i]? = some (Byte.ofChar c) := by
  have := bytes_at h c.utf8Size_pos
  rwa [bytes_singleton, Nat.add_zero] at this

theorem byte_at (h : At text ⟨i, c :: cs⟩) : byte text i = .ok (Byte.ofChar c) :=
  item_eq_ok (first_byte_at h)

theorem byte_inside (h : At text ⟨i, c :: cs⟩) {j : Nat} (hpos : 0 < j) (hj : j < c.utf8Size) :
    byte text (i + j) = .ok none := by
  obtain ⟨j, rfl⟩ : ∃ j', j = j' + 1 := ⟨j - 1, by omega⟩
  have := bytes_at h hj
  rw [bytes_singleton, List.getElem?_cons_succ, List.getElem?_replicate_of_lt (by omega)] at this
  exact item_eq_ok this

theorem ascii?_at (h : At text ⟨i, c :: cs⟩) : ascii? text i = Byte.ofChar c := by
  rw [ascii?, first_byte_at h]
  rfl

theorem ascii?_end (h : At text ⟨i, []⟩) : ascii? text i = none := by
  have := h.length_eq
  rw [ascii?, List.getElem?_eq_none (by simp [this])]
  rfl

theorem slice_at (h : At text ⟨i, read ++ rest⟩) :
    slice text i (i + utf8Length read) = .ok read := by
  obtain ⟨before, rfl, rfl⟩ := h.split
  rw [slice, slice?_eq_some.2 ⟨before, rest, rfl, rfl, rfl⟩]

/-- The text that a search passes over. -/
theorem slice_upTo {k : Cursor} {stop : List Char → Bool} (h : At text k) :
    slice text k.offset (k.upTo stop).2.offset = .ok (k.upTo stop).1 := by
  have happend : At text ⟨k.offset, (k.upTo stop).1 ++ (k.upTo stop).2.rest⟩ := by
    rw [Cursor.upTo_append]
    exact h
  exact slice_at happend

theorem upTo_offset_eq_iff {k : Cursor} {stop : List Char → Bool} :
    (k.upTo stop).2.offset = k.offset ↔ (k.upTo stop).1 = [] := by
  rw [Cursor.upTo_offset]
  cases (k.upTo stop).1 with
  | nil => simp
  | cons c cs =>
      have hsize := c.utf8Size_pos
      simp
      omega

theorem sliceFrom_at (h : At text ⟨i, cs⟩) : sliceFrom text i = .ok cs := by
  have hslice := @slice_at text cs [] i (by rwa [List.append_nil])
  rwa [sliceFrom, h.length_eq]

end

/-! ## Loops between characters -/

section

variable {text cs : List Char} {c : Char} {i i' : Nat} {s s' : σ} {a : α}

theorem loop_on {turn : σ → Nat → Checked (Turn σ α)} (ht : turn s i = .ok (.on s' i'))
    (hi : i < i') (hlength : i < utf8Length text) :
    loop text turn s i = loop text turn s' i' := by
  rw [loop, ht]
  exact dif_pos ⟨hi, hlength⟩

theorem loop_done {turn : σ → Nat → Checked (Turn σ α)} (ht : turn s i = .ok (.done a)) :
    loop text turn s i = .ok a := by
  rw [loop, ht]

variable {atEnd : σ → Nat → α} {turn : σ → Nat → Byte → Checked (Turn σ α)}

theorem At.lt_length (h : At text ⟨i, c :: cs⟩) : i < utf8Length text := by
  have := h.length_eq
  have := c.utf8Size_pos
  rw [utf8Length_cons] at *
  omega

theorem scanBytes_on (h : At text ⟨i, c :: cs⟩)
    (ht : turn s i (Byte.ofChar c) = .ok (.on s' i')) (hi : i < i') :
    scanBytes text atEnd turn s i = scanBytes text atEnd turn s' i' := by
  refine loop_on ?_ hi h.lt_length
  rw [if_pos h.lt_length, byte_at h]
  exact ht

theorem scanBytes_done (h : At text ⟨i, c :: cs⟩)
    (ht : turn s i (Byte.ofChar c) = .ok (.done a)) : scanBytes text atEnd turn s i = .ok a := by
  refine loop_done ?_
  rw [if_pos h.lt_length, byte_at h]
  exact ht

theorem scanBytes_end (hi : utf8Length text ≤ i) :
    scanBytes text atEnd turn s i = .ok (atEnd s i) := by
  refine loop_done ?_
  rw [if_neg (Nat.not_lt.2 hi)]
  rfl

theorem scanBytes_nil (h : At text ⟨i, []⟩) : scanBytes text atEnd turn s i = .ok (atEnd s i) :=
  scanBytes_end (Nat.le_of_eq h.length_eq)

/-- Inside a character a loop that passes over the bytes of long characters comes to its end. -/
theorem scanBytes_inside (h : At text ⟨i, c :: cs⟩)
    (hpass : ∀ i, turn s i none = .ok (.on s (i + 1))) {j : Nat} (hpos : 0 < j)
    (hj : j ≤ c.utf8Size) :
    scanBytes text atEnd turn s (i + j) = scanBytes text atEnd turn s (i + c.utf8Size) := by
  obtain ⟨n, hn⟩ : ∃ n, c.utf8Size = j + n := ⟨c.utf8Size - j, by omega⟩
  induction n generalizing j with
  | zero => rw [hn, Nat.add_zero]
  | succ n ih =>
      have hlt : j < c.utf8Size := by omega
      have hlength := h.next.length_eq
      rw [← ih (j := j + 1) (by omega) (by omega) (by omega)]
      refine loop_on ?_ (by omega) (by omega)
      rw [if_pos (by omega), byte_inside h hpos hlt]
      exact hpass (i + j)

/-- A turn that passes over the first byte of a character passes over the character. -/
theorem scanBytes_next (h : At text ⟨i, c :: cs⟩)
    (ht : turn s i (Byte.ofChar c) = .ok (.on s' (i + 1)))
    (hpass : Byte.ofChar c = none → ∀ i, turn s' i none = .ok (.on s' (i + 1))) :
    scanBytes text atEnd turn s i = scanBytes text atEnd turn s' (i + c.utf8Size) := by
  rw [scanBytes_on h ht (Nat.lt_succ_self i)]
  by_cases hc : c.val ≤ 127
  · rw [Char.utf8Size_eq_one_iff.2 hc]
  · exact scanBytes_inside h (hpass (if_neg hc)) Nat.one_pos c.utf8Size_pos

variable {stop : Byte → Bool}

theorem seek_stop (h : At text ⟨i, c :: cs⟩) (hc : stop (Byte.ofChar c) = true) :
    seek text stop i = .ok i :=
  scanBytes_done h (by rw [if_pos hc]; rfl)

theorem seek_pass (h : At text ⟨i, c :: cs⟩) (hc : stop (Byte.ofChar c) = false) :
    seek text stop i = seek text stop (i + c.utf8Size) := by
  refine scanBytes_next h (by rw [hc]; rfl) fun hnone i => ?_
  rw [hnone] at hc
  rw [hc]
  rfl

/-- **A search by bytes finds the place that a search by characters finds.** -/
theorem seek_at {k : Cursor} (stop : Byte → Bool) (h : At text k) :
    seek text stop k.offset =
      .ok (k.upTo (startsWith fun c => stop (Byte.ofChar c))).2.offset := by
  obtain ⟨i, cs⟩ := k
  show seek text stop i = .ok (i + utf8Length (Cursor.split _ cs).1)
  induction cs generalizing i with
  | nil => exact scanBytes_nil h
  | cons c cs ih =>
      rw [Cursor.split, startsWith]
      by_cases hc : stop (Byte.ofChar c)
      · rw [if_pos hc]
        exact seek_stop h hc
      · rw [if_neg hc, seek_pass h (Bool.eq_false_iff.2 hc), ih _ h.next]
        show Except.ok _ = Except.ok (i + (c.utf8Size + utf8Length _))
        rw [Nat.add_assoc]

/-- The end of a run of characters of a class. -/
theorem seek_class {k : Cursor} {p : Char → Bool} (hp : ∀ c, p c = true → c.val ≤ 127)
    (h : At text k) :
    seek text (fun b => !b.any p) k.offset = .ok (k.upTo (startsWith (!p ·))).2.offset := by
  rw [seek_at _ h]
  simp only [any_ofChar hp]

theorem seek_class_of_split {p : Char → Bool} {read rest : List Char}
    (hp : ∀ c, p c = true → c.val ≤ 127) (h : At text ⟨i, cs⟩)
    (hsplit : Cursor.split (startsWith (!p ·)) cs = (read, rest)) :
    seek text (fun b => !b.any p) i = .ok (i + utf8Length read) ∧
      At text ⟨i, read ++ rest⟩ := by
  have hseek := seek_class hp h
  have happend := Cursor.split_append (startsWith (!p ·)) cs
  rw [hsplit] at happend
  rw [Cursor.upTo, hsplit] at hseek
  exact ⟨hseek, happend ▸ h⟩

/-- A turn that goes on where a search ends does so after the character at which it begins. -/
theorem scanBytes_seek (h : At text ⟨i, c :: cs⟩)
    (ht : turn s i (Byte.ofChar c) = Turn.on s' <$> seek text stop i)
    (hc : stop (Byte.ofChar c) = false) :
    scanBytes text atEnd turn s i =
      seek text stop (i + c.utf8Size) >>= scanBytes text atEnd turn s' := by
  have hpos := c.utf8Size_pos
  rw [seek_pass h hc, seek_at stop h.next] at ht
  rw [seek_at stop h.next]
  refine scanBytes_on h ht ?_
  show i < i + c.utf8Size + _
  omega

end

end Manuscript.Bytewise

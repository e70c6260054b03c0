/-
# Manuscript.Proofs.Fold.Lines -- what the lines of folds have in common

Later offsets stand on later lines (`lineOf_mono`), so what is known about the places of
two constructs in a text is known about the lines that they fold to.  Two folds may have
no line in common (`Apart`), one line at most (`MeetOnce`), or one of them all lines of the
other (`Within`).
-/
import Manuscript.Fold

namespace Manuscript

set_option autoImplicit false

namespace Document

/-- Later offsets are on later lines. -/
theorem lineOf_mono (d : Document) {a b : Nat} (h : a ≤ b) : d.lineOf a ≤ d.lineOf b := by
  have hbefore : ∀ starts : List Nat,
      (starts.takeWhile (· ≤ min a d.lineIndex.length)).length ≤
        (starts.takeWhile (· ≤ min b d.lineIndex.length)).length := by
    intro starts
    induction starts with
    | nil => exact Nat.le_refl 0
    | cons n starts ih =>
        simp only [List.takeWhile_cons, decide_eq_true_eq]
        split
        · rw [if_pos (by omega)]
          exact Nat.succ_le_succ ih
        · exact Nat.zero_le _
  exact Nat.sub_le_sub_right (hbefore d.lineIndex.starts) 1

theorem lineOf_le_lineCount (d : Document) (offset : Nat) :
    d.lineOf offset ≤ d.lineIndex.lineCount - 1 :=
  Nat.sub_le_sub_right (List.takeWhile_prefix _).length_le 1

end Document

namespace Fold

variable {a b c : Fold}

/-- The folds have one line in common at most. -/
def MeetOnce (a b : Fold) : Prop :=
  ∀ m n, a.first ≤ m → m ≤ a.last → b.first ≤ m → m ≤ b.last →
    a.first ≤ n → n ≤ a.last → b.first ≤ n → n ≤ b.last → m = n

theorem MeetOnce.symm (h : a.MeetOnce b) : b.MeetOnce a :=
  fun m n hbm hbm' ham ham' hbn hbn' han han' => h m n ham ham' hbm hbm' han han' hbn hbn'

theorem meetOnce_of_le (h : a.last ≤ b.first) : a.MeetOnce b := by
  intro m n _ _ _ _ _ _ _ _
  omega

/-- The folds have no line in common. -/
def Apart (a b : Fold) : Prop :=
  ∀ m, a.first ≤ m → m ≤ a.last → b.first ≤ m → ¬ m ≤ b.last

theorem Apart.symm (h : a.Apart b) : b.Apart a :=
  fun m hb hb' ha ha' => h m ha ha' hb hb'

theorem apart_of_lt (h : a.last < b.first) : a.Apart b := by
  intro m _ _ _
  omega

/-- The other fold has every line of this one. -/
def Within (a b : Fold) : Prop := b.first ≤ a.first ∧ a.last ≤ b.last

end Fold

end Manuscript

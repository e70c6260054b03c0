/-
# Manuscript.Proofs.Pattern.Reading -- what the parts of a pattern read

A match of a pattern that is written as a sequence of parts is a chain of places, one for
each part.  Each kind of part has a lemma that says what stands between its places: one
character of a set, any number of them, nothing (`mem_ends_one`, `mem_ends_many_one`,
`mem_ends_optional`).  A part touches no group but its own (`lookup_of_mem_ends`).

The way back is needed where a pattern has no match.  A list of ends leaves out places
that were reached before, so a chain of parts leads to an end that is at least in the same
place (`seq_ne_nil`); rounds that lead from place to place one way only are all kept
(`mem_many_of_steps`).
-/
import Manuscript.Proofs.Pattern.Groups

namespace Manuscript

set_option autoImplicit false

/-! ## Sets of characters -/

namespace CharSet

@[simp] theorem contains_single {c d : Char} : (single c).contains d = true ↔ d = c := by
  simp only [single, contains, Bool.and_eq_true, decide_eq_true_eq]
  constructor
  · exact fun h => Char.toNat_inj.1 (Nat.le_antisymm h.2 h.1)
  · rintro rfl
    exact ⟨Nat.le_refl _, Nat.le_refl _⟩

@[simp] theorem contains_ofList {cs : List Char} {d : Char} :
    (ofList cs).contains d = true ↔ d ∈ cs := by
  induction cs with
  | nil => simp [ofList, contains]
  | cons c cs ih =>
      rw [show ofList (c :: cs) = union (single c) (ofList cs) from rfl, contains,
        Bool.or_eq_true, contains_single, ih, List.mem_cons]

theorem contains_complement {a : CharSet} {d : Char} :
    (complement a).contains d = true ↔ ¬ a.contains d = true := by
  simp [contains]

end CharSet

namespace Pattern

open Place

variable {a b : Pattern} {p q : Place} {set : CharSet}

/-! ## The parts of a match -/

/-- What stands between two places is what was read. -/
theorem read_eq {read : List Char} (h : p.rest = read ++ q.rest) : p.read q = read := by
  rw [Place.read, Place.left, Place.left, h, List.length_append, Nat.add_sub_cancel,
    List.take_left]

theorem mem_ends_seq (h : q ∈ (seq a b).ends p) : ∃ r ∈ a.ends p, q ∈ b.ends r :=
  List.mem_flatMap.1 (mem_of_mem_distinct h)

theorem mem_ends_either (h : q ∈ (either a b).ends p) : q ∈ a.ends p ∨ q ∈ b.ends p :=
  List.mem_append.1 (mem_of_mem_distinct h)

theorem mem_ends_one (h : q ∈ (one set).ends p) :
    ∃ c, p.rest = c :: q.rest ∧ set.contains c = true ∧ q.groups = p.groups := by
  rw [ends] at h
  split at h
  · cases h
  · rename_i c cs hrest
    split at h
    · rename_i hset
      rw [List.mem_singleton.1 h]
      exact ⟨c, hrest, hset, rfl⟩
    · cases h

theorem mem_ends_char {c : Char} (h : q ∈ (char c).ends p) :
    p.rest = c :: q.rest ∧ q.groups = p.groups := by
  obtain ⟨d, hrest, hset, hgroups⟩ := mem_ends_one h
  rw [CharSet.contains_single.1 hset] at hrest
  exact ⟨hrest, hgroups⟩

theorem mem_ends_assert {assertion : Assertion} (h : q ∈ (assert assertion).ends p) :
    q = p ∧ assertion.holds p = true := by
  rw [ends] at h
  split at h
  · exact ⟨List.mem_singleton.1 h, ‹_›⟩
  · cases h

theorem mem_ends_group {i : Nat} (h : q ∈ (group i a).ends p) :
    ∃ r ∈ a.ends p, q.rest = r.rest ∧ q.groups = (i, p.read r) :: r.groups := by
  obtain ⟨r, hr, rfl⟩ := List.mem_map.1 h
  exact ⟨r, hr, rfl, rfl⟩

theorem rounds_of_mem_many (h : q ∈ (many a).ends p) : Rounds a.ends p q := by
  obtain ⟨r, hr, hrq⟩ := exists_rounds_of_further h
  rwa [List.mem_singleton.1 hr] at hrq

theorem mem_ends_optional (h : q ∈ (optional a).ends p) : q = p ∨ q ∈ a.ends p := by
  obtain ⟨r, hr, hrq⟩ := List.mem_flatMap.1 (mem_of_mem_distinct h)
  obtain rfl := List.mem_singleton.1 hr
  rcases mem_ranked (mem_of_mem_distinct hrq) with rfl | hstep
  · exact .inl rfl
  · obtain ⟨s, hs, hsq⟩ := List.mem_flatMap.1 hstep
    rw [List.mem_singleton.1 hsq]
    exact .inr hs

/-- Characters of a set, one after the other. -/
theorem exists_read_of_rounds (h : Rounds (one set).ends p q) :
    ∃ read, p.rest = read ++ q.rest ∧ (∀ c ∈ read, set.contains c = true) ∧
      q.groups = p.groups := by
  induction h with
  | refl => exact ⟨[], rfl, List.forall_mem_nil _, rfl⟩
  | tail _ hlast ih =>
      obtain ⟨read, hrest, hread, hgroups⟩ := ih
      obtain ⟨c, hc, hset, hgroups'⟩ := mem_ends_one hlast
      refine ⟨read ++ [c], by rw [hrest, hc, List.append_assoc]; rfl, ?_,
        hgroups'.trans hgroups⟩
      exact List.forall_mem_append.2 ⟨hread, List.forall_mem_singleton.2 hset⟩

theorem mem_ends_many_one (h : q ∈ (many (one set)).ends p) :
    ∃ read, p.rest = read ++ q.rest ∧ (∀ c ∈ read, set.contains c = true) ∧
      q.groups = p.groups :=
  exists_read_of_rounds (rounds_of_mem_many h)

theorem mem_ends_manyOne_one (h : q ∈ (manyOne (one set)).ends p) :
    ∃ read, read ≠ [] ∧ p.rest = read ++ q.rest ∧ (∀ c ∈ read, set.contains c = true) ∧
      q.groups = p.groups := by
  obtain ⟨r, hr, hrq⟩ := exists_rounds_of_further h
  obtain ⟨p', hp', s, hs, hsr⟩ := exists_first_round hr
  obtain rfl := List.mem_singleton.1 hp'
  obtain ⟨c, hc, hset, hgroups⟩ := mem_ends_one hs
  obtain ⟨read, hread, hall, hgroups'⟩ := exists_read_of_rounds (hsr.trans hrq)
  exact ⟨c :: read, List.cons_ne_nil c read, by rw [hc, hread]; rfl,
    List.forall_mem_cons.2 ⟨hset, hall⟩, hgroups'.trans hgroups⟩

/-! ## Groups -/

/-- The numbers of the groups in a pattern. -/
def numbers : Pattern → List Nat
  | nothing => []
  | one _ => []
  | assert _ => []
  | seq a b => a.numbers ++ b.numbers
  | either a b => a.numbers ++ b.numbers
  | repeated a _ _ _ => a.numbers
  | group i a => i :: a.numbers

/-- **What a group read stays until the group reads again.** -/
theorem lookup_of_mem_ends (a : Pattern) {i : Nat} (hi : i ∉ a.numbers) {p q : Place}
    (h : q ∈ a.ends p) : q.groups.lookup i = p.groups.lookup i := by
  induction a generalizing p q with
  | nothing => rw [List.mem_singleton.1 h]
  | one set =>
      obtain ⟨c, -, -, hgroups⟩ := mem_ends_one h
      rw [hgroups]
  | assert assertion => rw [(mem_ends_assert h).1]
  | seq a b iha ihb =>
      rw [numbers, List.mem_append, not_or] at hi
      obtain ⟨r, hr, hrq⟩ := mem_ends_seq h
      rw [ihb hi.2 hrq, iha hi.1 hr]
  | either a b iha ihb =>
      rw [numbers, List.mem_append, not_or] at hi
      rcases mem_ends_either h with h | h
      · exact iha hi.1 h
      · exact ihb hi.2 h
  | repeated a least more greedy ih =>
      have hrounds {x y : Place} (hxy : Rounds a.ends x y) :
          y.groups.lookup i = x.groups.lookup i := by
        induction hxy with
        | refl => rfl
        | tail _ hlast hbefore => rw [ih hi hlast, hbefore]
      obtain ⟨r, hr, hrq⟩ := exists_rounds_of_further h
      obtain ⟨p', hp', hpr⟩ := exists_rounds hr
      obtain rfl := List.mem_singleton.1 hp'
      rw [hrounds hrq, hrounds hpr]
  | group j a ih =>
      rw [numbers, List.mem_cons, not_or] at hi
      obtain ⟨r, hr, -, hgroups⟩ := mem_ends_group h
      rw [hgroups, List.lookup_cons, beq_false_of_ne hi.1, ih hi.2 hr]

/-- What a part passes. -/
theorem exists_read_of_mem_ends (h : q ∈ a.ends p) : ∃ read, p.rest = read ++ q.rest := by
  obtain ⟨read, hread⟩ := (leads_of_mem_ends a h).rest
  exact ⟨read, hread.symm⟩

/-! ## Matches that exist -/

/-- A place that is left out was there before. -/
theorem exists_mem_distinctFrom {seen : List Nat} {ps : List Place} (h : p ∈ ps)
    (hseen : p.left ∉ seen) : ∃ q ∈ distinctFrom seen ps, q.left = p.left := by
  induction ps generalizing seen with
  | nil => cases h
  | cons r ps ih =>
      rw [distinctFrom]
      by_cases hr : r.left = p.left
      · rw [if_neg (hr ▸ hseen)]
        exact ⟨r, List.mem_cons_self, hr⟩
      have hp : p ∈ ps := (List.mem_cons.1 h).resolve_left fun heq => hr (heq ▸ rfl)
      split
      · exact ih hp hseen
      · have hseen' : p.left ∉ r.left :: seen := by simpa [Ne.symm hr] using hseen
        obtain ⟨q, hq, hleft⟩ := ih hp hseen'
        exact ⟨q, List.mem_cons_of_mem r hq, hleft⟩

theorem exists_mem_distinct {ps : List Place} (h : p ∈ ps) :
    ∃ q ∈ distinct ps, q.left = p.left := exists_mem_distinctFrom h List.not_mem_nil

/-- A place that no other is mistaken for is not left out. -/
theorem mem_distinct_of_unique {ps : List Place} (h : p ∈ ps)
    (hunique : ∀ q ∈ ps, q.left = p.left → q = p) : p ∈ Place.distinct ps := by
  obtain ⟨q, hq, hleft⟩ := exists_mem_distinct h
  rwa [← hunique q (mem_of_mem_distinct hq) hleft]

theorem seq_ne_nil (ha : q ∈ a.ends p) (hb : b.ends q ≠ []) : (seq a b).ends p ≠ [] := by
  obtain ⟨r, hr⟩ := List.exists_mem_of_ne_nil _ hb
  obtain ⟨s, hs, -⟩ := exists_mem_distinct (List.mem_flatMap.2 ⟨q, ha, hr⟩)
  exact List.ne_nil_of_mem hs

/-- Rounds that can only go one way, and forward. -/
abbrev Steps (step : Place → List Place) : Place → Place → Prop :=
  Relation.ReflTransGen fun p q => step p = [q] ∧ q.left < p.left

theorem mem_anyRounds_of_steps {step : Place → List Place} {greedy : Bool}
    (h : Steps step p q) {n : Nat} {seen : List Nat} (hn : p.left < n)
    (hseen : ∀ l ∈ seen, p.left < l) : q ∈ (anyRounds step greedy n seen [p]).1 := by
  have hnew {p : Place} {seen : List Nat} (hseen : ∀ l ∈ seen, p.left < l) : p.left ∉ seen :=
    fun hmem => Nat.lt_irrefl _ (hseen _ hmem)
  induction h using Relation.ReflTransGen.head_induction_on generalizing n seen with
  | refl =>
      obtain ⟨n, rfl⟩ : ∃ m, n = m + 1 := ⟨n - 1, by omega⟩
      rw [anyRounds_cons (hnew hseen)]
      refine List.mem_append_left _ ?_
      unfold ranked
      split
      · exact List.mem_append_right _ (List.mem_singleton_self _)
      · exact List.mem_cons_self
  | head hstep _ ih =>
      rename_i p r _
      obtain ⟨hnext, hleft⟩ := hstep
      obtain ⟨n, rfl⟩ : ∃ m, n = m + 1 := ⟨n - 1, by omega⟩
      rw [anyRounds_cons (hnew hseen)]
      refine List.mem_append_left _ ?_
      have hlater : q ∈ (anyRounds step greedy n (p.left :: seen)
          ((step p).filter fun q => q.left < p.left)).1 := by
        rw [hnext, List.filter_cons_of_pos (by simpa using hleft), List.filter_nil]
        exact ih (by omega) (List.forall_mem_cons.2
          ⟨hleft, fun l hl => Nat.lt_trans hleft (hseen l hl)⟩)
      unfold ranked
      split
      · exact List.mem_append_left _ hlater
      · exact List.mem_cons_of_mem _ hlater

theorem mem_many_of_steps (h : Steps a.ends p q) : q ∈ (many a).ends p := by
  refine mem_anyRounds_of_steps h ?_ (List.forall_mem_nil _)
  show p.left < max 0 p.left + 1
  omega

/-- A text without a match has none at any place. -/
theorem ends_eq_nil_of_findFrom {before : Option Char} {read rest : List Char}
    (h : a.findFrom before (read ++ rest) = none) :
    a.ends ⟨read.getLast?.or before, rest, []⟩ = [] := by
  induction read generalizing before with
  | nil =>
      cases rest with
      | nil => simpa [findFrom] using h
      | cons c cs =>
          rw [List.nil_append, findFrom] at h
          split at h
          · cases h
          · rename_i hhead
            exact List.head?_eq_none_iff.1 hhead
  | cons c read ih =>
      rw [List.cons_append, findFrom] at h
      split at h
      · cases h
      · have hends := ih h
        rw [List.getLast?_cons]
        cases hlast : read.getLast? with
        | none => rwa [hlast] at hends
        | some d => rwa [hlast] at hends

end Pattern

end Manuscript

/-
# Manuscript.Proofs.Pattern.Groups -- what the groups of a match read

A pattern leads from the place where a match begins to the places where it may end
(`leads_of_mem_ends`): what is left at an end was left at the beginning, and what the
groups remember on the way stands in what was left there.  So every group of a match
that was found stands in the text that was searched (`group?_infix`).

A group need not take part in a match.  `Pattern.sets` tells the groups that do in every
match, whatever branch it takes (`group?_isSome`).

Repetition is the one case where a place is reached by more than one step; the ends of
any number of rounds are joined to their beginning by a chain of rounds (`Rounds`), and
what holds along one round holds along the chain.
-/
import Manuscript.Pattern.Basic
import Mathlib.Logic.Relation

namespace Manuscript

set_option autoImplicit false

/-! ## Places -/

namespace Place

theorem mem_of_mem_distinctFrom {seen : List Nat} {ps : List Place} {q : Place}
    (h : q ∈ distinctFrom seen ps) : q ∈ ps := by
  induction ps generalizing seen with
  | nil => exact h
  | cons p ps ih =>
      rw [distinctFrom] at h
      split at h
      · exact List.mem_cons_of_mem p (ih h)
      · rcases List.mem_cons.1 h with rfl | h
        · exact List.mem_cons_self
        · exact List.mem_cons_of_mem p (ih h)

theorem mem_of_mem_distinct {ps : List Place} {q : Place} (h : q ∈ distinct ps) : q ∈ ps :=
  mem_of_mem_distinctFrom h

/-- The way from one place to a later one: what is left, and what groups read meanwhile. -/
structure Leads (p q : Place) : Prop where
  rest : q.rest <:+ p.rest
  groups : ∃ new, q.groups = new ++ p.groups ∧ ∀ g ∈ new, g.2 <:+: p.rest

variable {p q r : Place}

theorem Leads.refl (p : Place) : p.Leads p :=
  ⟨List.suffix_refl _, [], rfl, fun _ hg => nomatch hg⟩

theorem Leads.trans (hpq : p.Leads q) (hqr : q.Leads r) : p.Leads r := by
  obtain ⟨new, hnew, hread⟩ := hpq.groups
  obtain ⟨later, hlater, hreadLater⟩ := hqr.groups
  refine ⟨hqr.rest.trans hpq.rest, later ++ new, by rw [hlater, hnew, List.append_assoc], ?_⟩
  intro g hg
  rcases List.mem_append.1 hg with hg | hg
  · exact (hreadLater g hg).trans hpq.rest.isInfix
  · exact hread g hg

/-- A group that has read something still has. -/
theorem Leads.lookup_isSome (h : p.Leads q) {i : Nat} (hi : (p.groups.lookup i).isSome = true) :
    (q.groups.lookup i).isSome = true := by
  obtain ⟨new, hnew, -⟩ := h.groups
  rw [hnew, List.lookup_append]
  simp [hi]

end Place

namespace Pattern

open Place

/-! ## Rounds -/

/-- A chain of rounds joins two places. -/
abbrev Rounds (step : Place → List Place) : Place → Place → Prop :=
  Relation.ReflTransGen fun p q => q ∈ step p

section

variable {step : Place → List Place} {greedy : Bool} {p q : Place} {ps : List Place}

theorem Rounds.leads (hstep : ∀ p q, q ∈ step p → p.Leads q) (h : Rounds step p q) : p.Leads q := by
  induction h with
  | refl => exact .refl p
  | tail _ hlast ih => exact ih.trans (hstep _ _ hlast)

theorem exists_rounds {n : Nat} (h : q ∈ rounds step n ps) : ∃ p ∈ ps, Rounds step p q := by
  induction n generalizing ps with
  | zero => exact ⟨q, h, .refl⟩
  | succ n ih =>
      rw [rounds] at h
      split at h
      · cases h
      · obtain ⟨r, hr, hrq⟩ := ih h
        obtain ⟨p, hp, hpr⟩ := List.mem_flatMap.1 (mem_of_mem_distinct hr)
        exact ⟨p, hp, .head hpr hrq⟩

/-- More rounds than none begin with one. -/
theorem exists_first_round {n : Nat} (h : q ∈ rounds step (n + 1) ps) :
    ∃ p ∈ ps, ∃ r ∈ step p, Rounds step r q := by
  rw [rounds] at h
  split at h
  · cases h
  · obtain ⟨r, hr, hrq⟩ := exists_rounds h
    obtain ⟨p, hp, hpr⟩ := List.mem_flatMap.1 (mem_of_mem_distinct hr)
    exact ⟨p, hp, r, hpr, hrq⟩

theorem mem_ranked {later : List Place} (h : q ∈ ranked greedy p later) : q = p ∨ q ∈ later := by
  unfold ranked at h
  split at h
  · rcases List.mem_append.1 h with h | h
    · exact .inr h
    · exact .inl (List.mem_singleton.1 h)
  · exact List.mem_cons.1 h

theorem rounds_of_mem_upTo {n : Nat} (h : q ∈ upTo step greedy n p) : Rounds step p q := by
  induction n generalizing p with
  | zero =>
      rw [List.mem_singleton.1 h]
  | succ n ih =>
      rcases mem_ranked (mem_of_mem_distinct h) with rfl | h
      · exact .refl
      · obtain ⟨r, hr, hrq⟩ := List.mem_flatMap.1 h
        exact .head hr (ih hrq)

theorem exists_rounds_of_anyRounds {n : Nat} {seen : List Nat}
    (h : q ∈ (anyRounds step greedy n seen ps).1) : ∃ p ∈ ps, Rounds step p q := by
  induction n generalizing seen ps with
  | zero => cases h
  | succ n ihlater =>
      induction ps generalizing seen with
      | nil => cases h
      | cons p ps ihothers =>
          by_cases hseen : p.left ∈ seen
          · rw [anyRounds_cons_of_mem hseen] at h
            obtain ⟨r, hr, hrq⟩ := ihothers h
            exact ⟨r, List.mem_cons_of_mem p hr, hrq⟩
          · rw [anyRounds_cons hseen] at h
            rcases List.mem_append.1 h with h | h
            · refine ⟨p, List.mem_cons_self, ?_⟩
              rcases mem_ranked h with rfl | h
              · exact .refl
              · obtain ⟨r, hr, hrq⟩ := ihlater h
                exact .head (List.mem_filter.1 hr).1 hrq
            · obtain ⟨r, hr, hrq⟩ := ihothers h
              exact ⟨r, List.mem_cons_of_mem p hr, hrq⟩

theorem exists_rounds_of_further {most : Option Nat} (h : q ∈ further step greedy most ps) :
    ∃ p ∈ ps, Rounds step p q := by
  cases most with
  | none => exact exists_rounds_of_anyRounds h
  | some n =>
      obtain ⟨p, hp, hpq⟩ := List.mem_flatMap.1 (mem_of_mem_distinct h)
      exact ⟨p, hp, rounds_of_mem_upTo hpq⟩

end

/-! ## Ends -/

/-- **A pattern leads from the place where a match begins to the places where it may end.** -/
theorem leads_of_mem_ends (a : Pattern) {p q : Place} (h : q ∈ a.ends p) : p.Leads q := by
  induction a generalizing p q with
  | nothing =>
      rw [List.mem_singleton.1 h]
      exact .refl p
  | one set =>
      rw [ends] at h
      split at h
      · cases h
      · rename_i c cs hrest
        split at h
        · rw [List.mem_singleton.1 h]
          exact ⟨hrest ▸ List.suffix_cons c cs, [], rfl, fun _ hg => nomatch hg⟩
        · cases h
  | assert a =>
      rw [ends] at h
      split at h
      · rw [List.mem_singleton.1 h]
        exact .refl p
      · cases h
  | seq a b iha ihb =>
      obtain ⟨r, hr, hrq⟩ := List.mem_flatMap.1 (mem_of_mem_distinct h)
      exact (iha hr).trans (ihb hrq)
  | either a b iha ihb =>
      rcases List.mem_append.1 (mem_of_mem_distinct h) with h | h
      · exact iha h
      · exact ihb h
  | repeated a least more greedy ih =>
      obtain ⟨r, hr, hrq⟩ := exists_rounds_of_further h
      obtain ⟨p', hp', hpr⟩ := exists_rounds hr
      obtain rfl := List.mem_singleton.1 hp'
      exact (hpr.leads fun _ _ => ih).trans (hrq.leads fun _ _ => ih)
  | group i a ih =>
      obtain ⟨r, hr, rfl⟩ := List.mem_map.1 h
      obtain ⟨new, hnew, hread⟩ := (ih hr).groups
      refine ⟨(ih hr).rest, (i, p.read r) :: new, by rw [hnew, List.cons_append], ?_⟩
      exact List.forall_mem_cons.2 ⟨(List.take_prefix _ _).isInfix, hread⟩

/-- Whether the group with a number takes part in every match. -/
def sets (i : Nat) : Pattern → Bool
  | nothing => false
  | one _ => false
  | assert _ => false
  | seq a b => a.sets i || b.sets i
  | either a b => a.sets i && b.sets i
  | repeated a least _ _ => least != 0 && a.sets i
  | group j a => j == i || a.sets i

theorem lookup_isSome_of_sets {i : Nat} (a : Pattern) (hsets : a.sets i = true) {p q : Place}
    (h : q ∈ a.ends p) : (q.groups.lookup i).isSome = true := by
  induction a generalizing p q with
  | nothing => cases hsets
  | one set => cases hsets
  | assert a => cases hsets
  | seq a b iha ihb =>
      obtain ⟨r, hr, hrq⟩ := List.mem_flatMap.1 (mem_of_mem_distinct h)
      rcases Bool.or_eq_true_iff.1 hsets with ha | hb
      · exact (leads_of_mem_ends b hrq).lookup_isSome (iha ha hr)
      · exact ihb hb hrq
  | either a b iha ihb =>
      obtain ⟨ha, hb⟩ := Bool.and_eq_true_iff.1 hsets
      rcases List.mem_append.1 (mem_of_mem_distinct h) with h | h
      · exact iha ha h
      · exact ihb hb h
  | repeated a least more greedy ih =>
      obtain ⟨hleast, ha⟩ := Bool.and_eq_true_iff.1 hsets
      obtain ⟨n, rfl⟩ : ∃ n, least = n + 1 := ⟨least - 1, by simp at hleast; omega⟩
      obtain ⟨r, hr, hrq⟩ := exists_rounds_of_further h
      obtain ⟨p', -, r', hr', hrr⟩ := exists_first_round hr
      have hleads {x y : Place} (hxy : Rounds a.ends x y) : x.Leads y :=
        hxy.leads fun _ _ => leads_of_mem_ends a
      exact ((hleads hrr).trans (hleads hrq)).lookup_isSome (ih ha hr')
  | group j a ih =>
      obtain ⟨r, hr, rfl⟩ := List.mem_map.1 h
      rw [List.lookup_cons]
      cases hj : i == j with
      | true => rfl
      | false =>
          rcases Bool.or_eq_true_iff.1 hsets with hji | ha
          · rw [beq_iff_eq.1 hji, BEq.rfl] at hj
            cases hj
          · exact ih ha hr

/-! ## Searches -/

/-- A match begins behind what was passed over, and ends where the pattern leads. -/
theorem exists_of_findFrom {a : Pattern} {before : Option Char} {cs : List Char} {m : Match}
    (h : a.findFrom before cs = some m) :
    ∃ read rest, cs = read ++ rest ∧ m.start = ⟨read.getLast?.or before, rest, []⟩ ∧
      m.stop ∈ a.ends m.start := by
  induction cs generalizing before with
  | nil =>
      rw [findFrom] at h
      obtain ⟨stop, hstop, rfl⟩ := Option.map_eq_some_iff.1 h
      exact ⟨[], [], rfl, rfl, List.mem_of_head? hstop⟩
  | cons c cs ih =>
      rw [findFrom] at h
      split at h
      · rename_i stop hstop
        cases h
        exact ⟨[], c :: cs, rfl, rfl, List.mem_of_head? hstop⟩
      · obtain ⟨read, rest, rfl, hstart, hstop⟩ := ih h
        refine ⟨c :: read, rest, rfl, ?_, hstop⟩
        rw [hstart, List.getLast?_cons]
        cases read.getLast? <;> rfl

variable {a : Pattern} {text : List Char} {m : Match}

theorem exists_of_find? (h : a.find? text = some m) :
    ∃ read, text = read ++ m.start.rest ∧ m.start.before = read.getLast? := by
  obtain ⟨read, rest, htext, hstart, -⟩ := exists_of_findFrom h
  refine ⟨read, by rw [hstart, htext], ?_⟩
  rw [hstart, Option.or_none]

theorem group?_isSome (h : a.find? text = some m) {i : Nat} (hsets : a.sets i = true) :
    (m.group? i).isSome = true := by
  obtain ⟨-, -, -, -, hstop⟩ := exists_of_findFrom h
  exact lookup_isSome_of_sets a hsets hstop

/-- **What a group of a match reads stands in the text.** -/
theorem group?_infix (h : a.find? text = some m) {i : Nat} {read : List Char}
    (hgroup : m.group? i = some read) : read <:+: text := by
  obtain ⟨before, rest, rfl, hstart, hstop⟩ := exists_of_findFrom h
  obtain ⟨new, hnew, hread⟩ := (leads_of_mem_ends a hstop).groups
  rw [hstart, List.append_nil] at hnew
  rw [Match.group?, hnew] at hgroup
  obtain ⟨later, earlier, rfl, -⟩ := List.lookup_eq_some_iff.1 hgroup
  have hinfix := hread (i, read) (List.mem_append_right later List.mem_cons_self)
  rw [hstart] at hinfix
  exact hinfix.trans (List.suffix_append before rest).isInfix

end Pattern

end Manuscript

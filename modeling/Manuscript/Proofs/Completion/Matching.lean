/-
# Manuscript.Proofs.Completion.Matching -- typing on only narrows what is offered

Where case is ignored, the beginning of a candidate that has as many bytes as the typed text
is compared with it.  The letters A to Z take one byte in either case, so lower-casing moves
no boundary (`utf8Length_lower`), and that beginning exists wherever the lower-cased candidate
starts with the lower-cased text.  Both ways of matching are then the same: a text is a prefix
of another, once each is read as the matcher compares it (`accepts_iff`).

What is offered is matched by name, and so it does not matter whether the first candidate of
each name is taken before or after (`firstByName_filter`).  A longer text picks fewer of the
same candidates, in the same order.
-/
import Manuscript.Completion.Offer
import Manuscript.Proofs.Text.Bytes
import Mathlib.Data.List.Basic

namespace Manuscript

set_option autoImplicit false

open Text

/-! ## Lower-casing -/

namespace Text

theorem utf8Size_toLower (c : Char) : c.toLower.utf8Size = c.utf8Size := by
  unfold Char.toLower
  split
  · rename_i hupper
    have hle : c.val.toNat ≤ 'Z'.val.toNat := UInt32.le_iff_toNat_le.1 hupper.2
    have hcapital : c.val ≤ 127 := UInt32.le_trans hupper.2 (by decide)
    have hsmall : c.val + ('a'.val - 'A'.val) ≤ 127 := by
      rw [UInt32.le_iff_toNat_le, UInt32.toNat_add]
      exact Nat.le_trans (Nat.mod_le _ _)
        (Nat.le_trans (Nat.add_le_add_right hle _) (by decide))
    rw [Char.utf8Size_eq_one_iff.2 hcapital, Char.utf8Size_eq_one_iff.2 hsmall]
  · rfl

/-- Lower-casing moves no boundary. -/
theorem utf8Length_lower (cs : List Char) : utf8Length (lower cs) = utf8Length cs := by
  induction cs with
  | nil => rfl
  | cons c cs ih =>
      rw [lower, List.map_cons, utf8Length_cons, utf8Length_cons, utf8Size_toLower]
      exact congrArg _ ih

end Text

/-! ## Matching -/

namespace Matcher

variable {m : Matcher} {candidate typed : List Char}

/-- What a matcher compares of a text. -/
def compared : Matcher → List Char → List Char
  | .exact, cs => cs
  | .ignoreCase, cs => lower cs

theorem compared_prefix (m : Matcher) {earlier : List Char} (h : earlier <+: typed) :
    m.compared earlier <+: m.compared typed := by
  cases m with
  | exact => exact h
  | ignoreCase => exact h.map Char.toLower

theorem accepts_ignoreCase_iff :
    Matcher.ignoreCase.accepts candidate typed = true ↔ lower typed <+: lower candidate := by
  simp only [accepts]
  constructor
  · intro h
    split at h
    · rename_i start hstart
      obtain ⟨rest, rfl, -⟩ := takeBytes?_eq_some.1 hstart
      rw [← (sameLetters_iff start typed).1 h, lower, lower, List.map_append]
      exact List.prefix_append _ _
    · cases h
  · rintro ⟨more, hmore⟩
    obtain ⟨start, rest, rfl, hstart, -⟩ := List.append_eq_map_iff.1 hmore
    -- the beginning that lowers to the typed text takes as many bytes as it
    have hlength : utf8Length typed = utf8Length start := by
      rw [← utf8Length_lower typed, ← hstart]
      exact utf8Length_lower start
    rw [hlength, takeBytes?_append]
    exact (sameLetters_iff start typed).2 hstart

/-- **A candidate goes with what it starts with, as the matcher compares both.** -/
theorem accepts_iff (m : Matcher) :
    m.accepts candidate typed = true ↔ m.compared typed <+: m.compared candidate := by
  cases m with
  | exact => exact List.isPrefixOf_iff_prefix
  | ignoreCase => exact accepts_ignoreCase_iff

/-- What goes with a text goes with its beginnings. -/
theorem accepts_of_prefix {earlier : List Char} (hearlier : earlier <+: typed)
    (h : m.accepts candidate typed = true) : m.accepts candidate earlier = true :=
  m.accepts_iff.2 ((m.compared_prefix hearlier).trans (m.accepts_iff.1 h))

theorem accepts_ignoreCase_of_exact (h : Matcher.exact.accepts candidate typed = true) :
    Matcher.ignoreCase.accepts candidate typed = true :=
  accepts_ignoreCase_iff.2 ((Matcher.exact.accepts_iff.1 h).map Char.toLower)

end Matcher

/-! ## Offers -/

namespace Completion

/-- Only the names that candidates have matter among those that were seen. -/
theorem firstByNameFrom_congr {seen seen' : List String} {cs : List Candidate}
    (h : ∀ c ∈ cs, c.name ∈ seen ↔ c.name ∈ seen') :
    firstByNameFrom seen cs = firstByNameFrom seen' cs := by
  induction cs generalizing seen seen' with
  | nil => rfl
  | cons c cs ih =>
      obtain ⟨hc, hcs⟩ := List.forall_mem_cons.1 h
      rw [firstByNameFrom, firstByNameFrom, ih hcs]
      by_cases hseen : c.name ∈ seen
      · rw [if_pos hseen, if_pos (hc.1 hseen)]
      · rw [if_neg hseen, if_neg (mt hc.2 hseen)]
        refine congrArg (c :: ·) (ih fun d hd => ?_)
        rw [List.mem_cons, List.mem_cons, hcs d hd]

theorem firstByNameFrom_filter (accepts : String → Bool) (seen : List String)
    (cs : List Candidate) : firstByNameFrom seen (cs.filter fun c => accepts c.name) =
      (firstByNameFrom seen cs).filter fun c => accepts c.name := by
  induction cs generalizing seen with
  | nil => rfl
  | cons c cs ih =>
      rw [List.filter_cons, firstByNameFrom]
      by_cases haccepts : accepts c.name = true
      · rw [if_pos haccepts, firstByNameFrom]
        split
        · exact ih seen
        · rw [List.filter_cons, if_pos haccepts, ih]
      · rw [if_neg haccepts]
        split
        · exact ih seen
        · rw [List.filter_cons, if_neg haccepts, ← ih]
          -- no candidate that is kept has the name that is left out
          refine firstByNameFrom_congr fun d hd => ?_
          have hd : accepts d.name = true := (List.mem_filter.1 hd).2
          have hother : d.name ≠ c.name := fun heq => haccepts (heq ▸ hd)
          rw [List.mem_cons, or_iff_right hother]

/-- **Picking names and taking the first candidate of each may be done in either order.** -/
theorem firstByName_filter (accepts : String → Bool) (cs : List Candidate) :
    firstByName (cs.filter fun c => accepts c.name) =
      (firstByName cs).filter fun c => accepts c.name :=
  firstByNameFrom_filter accepts [] cs

/-- What is being typed at a place of a document. -/
def contextAt? (origin : Document) (p : Position) : Option Context :=
  if origin.language ≠ .latex then none
  else (origin.offset? p).bind fun offset => Context.ofLine? (lineBefore origin p.line offset)

/-- The candidates that are offered where something is typed. -/
theorem map_candidate_offers (m : Matcher) {origin : Document} {scope : List Document}
    {p : Position} {context : Context} (h : contextAt? origin p = some context) :
    (offers m origin scope p).map Offer.candidate =
      (firstByName (Candidate.all origin scope context.topic)).filter fun c =>
        m.accepts c.name.toList context.typed := by
  unfold contextAt? at h
  split at h
  · cases h
  · rename_i hlanguage
    obtain ⟨offset, hoffset, hcontext⟩ := Option.bind_eq_some_iff.1 h
    rw [offers, if_neg hlanguage, hoffset]
    dsimp only
    rw [hcontext]
    dsimp only
    rw [List.map_map, ← firstByName_filter fun name => m.accepts name.toList context.typed]
    exact List.map_id _

/-- Typing on leaves out candidates, and adds none. -/
theorem offers_sublist (m : Matcher) {origin origin' : Document} {scope scope' : List Document}
    {p p' : Position} {context context' : Context} (h : contextAt? origin p = some context)
    (h' : contextAt? origin' p' = some context') (htopic : context'.topic = context.topic)
    (htyped : context.typed <+: context'.typed)
    (hsame : Candidate.all origin' scope' context.topic =
      Candidate.all origin scope context.topic) :
    ((offers m origin' scope' p').map Offer.candidate).Sublist
      ((offers m origin scope p).map Offer.candidate) := by
  rw [map_candidate_offers m h, map_candidate_offers m h', htopic, hsame]
  exact List.monotone_filter_right _ fun c hc => Matcher.accepts_of_prefix htyped hc

/-- **Where case is ignored, a candidate goes with what it starts with after lower-casing, and so
it does with what it starts with exactly.**  With either matcher, what goes with a text goes with
its beginnings: typing on leaves out candidates that were offered, and offers no other. -/
theorem matching_narrows :
    (∀ candidate typed : List Char, Matcher.ignoreCase.accepts candidate typed = true ↔
      lower typed <+: lower candidate) ∧
    (∀ candidate typed : List Char, Matcher.exact.accepts candidate typed = true →
      Matcher.ignoreCase.accepts candidate typed = true) ∧
    (∀ (m : Matcher) (candidate typed earlier : List Char), earlier <+: typed →
      m.accepts candidate typed = true → m.accepts candidate earlier = true) ∧
    ∀ (m : Matcher) (origin origin' : Document) (scope scope' : List Document) (p p' : Position)
      (context context' : Context), contextAt? origin p = some context →
      contextAt? origin' p' = some context' → context'.topic = context.topic →
      context.typed <+: context'.typed →
      Candidate.all origin' scope' context.topic = Candidate.all origin scope context.topic →
      ((offers m origin' scope' p').map Offer.candidate).Sublist
        ((offers m origin scope p).map Offer.candidate) := by
  refine ⟨fun candidate typed => Matcher.accepts_ignoreCase_iff,
    fun candidate typed => Matcher.accepts_ignoreCase_of_exact, ?_, ?_⟩
  · intro m candidate typed earlier hearlier haccepts
    exact Matcher.accepts_of_prefix hearlier haccepts
  · intro m origin origin' scope scope' p p' context context' h h' htopic htyped hsame
    exact offers_sublist m h h' htopic htyped hsame

namespace Example

/-- A document with labels that differ in case, and one that is being typed. -/
def verse : Document := ((Document.create ⟨"file", some ⟨"", "", none⟩, "/verse.tex", none, none⟩
  .latex).withText "\\label{ÉTa}\\label{Étb}\\label{Éuc}\\label{ét}\n\\ref\x7bÉT").analyzed

theorem contextAt?_verse : contextAt? verse ⟨1, 6⟩ = some ⟨.label, ['É']⟩ ∧
    contextAt? verse ⟨1, 7⟩ = some ⟨.label, ['É', 'T']⟩ := by
  have hline : verse.offset? ⟨1, 6⟩ = some 55 ∧ verse.offset? ⟨1, 7⟩ = some 56 := by
    decide +kernel
  have hbefore : lineBefore verse 1 55 = "\\ref\x7bÉ".toList ∧
      lineBefore verse 1 56 = "\\ref\x7bÉT".toList := by
    decide +kernel
  have hlanguage : ¬ verse.language ≠ .latex := by decide +kernel
  refine ⟨?_, ?_⟩
  · rw [contextAt?, if_neg hlanguage, hline.1, Option.bind_some, hbefore.1]
    decide +kernel
  · rw [contextAt?, if_neg hlanguage, hline.2, Option.bind_some, hbefore.2]
    decide +kernel

end Example

theorem matching_narrows_verse :
    Matcher.ignoreCase.accepts "Fig:Été".toList "fiG:É".toList = true ∧
    (Matcher.exact.accepts "Fig:Été".toList "Fig:É".toList = true ∧
      Matcher.ignoreCase.accepts "Fig:Été".toList "Fig:É".toList = true) ∧
    ("fiG".toList <+: "fiG:É".toList ∧
      Matcher.ignoreCase.accepts "Fig:Été".toList "fiG".toList = true) ∧
    contextAt? Example.verse ⟨1, 6⟩ = some ⟨.label, ['É']⟩ ∧
    contextAt? Example.verse ⟨1, 7⟩ = some ⟨.label, ['É', 'T']⟩ ∧
    ((offers .ignoreCase Example.verse [Example.verse] ⟨1, 7⟩).map Offer.candidate).map
      Candidate.name = ["ÉTa", "Étb"] ∧
    ((offers .ignoreCase Example.verse [Example.verse] ⟨1, 7⟩).map Offer.candidate).Sublist
      ((offers .ignoreCase Example.verse [Example.verse] ⟨1, 6⟩).map Offer.candidate) := by
  obtain ⟨hlower, hexact, hearlier, hoffers⟩ := matching_narrows
  have haccepts : Matcher.ignoreCase.accepts "Fig:Été".toList "fiG:É".toList = true :=
    (hlower _ _).2 (by decide +kernel)
  have hstarts : Matcher.exact.accepts "Fig:Été".toList "Fig:É".toList = true := by
    decide +kernel
  have hbeginning : "fiG".toList <+: "fiG:É".toList := by decide +kernel
  obtain ⟨hcontext, hcontext'⟩ := Example.contextAt?_verse
  refine ⟨haccepts, ⟨hstarts, hexact _ _ hstarts⟩,
    ⟨hbeginning, hearlier _ _ _ _ hbeginning haccepts⟩, hcontext, hcontext', ?_, ?_⟩
  · rw [map_candidate_offers _ hcontext']
    decide +kernel
  · exact hoffers _ _ _ _ _ _ _ _ _ hcontext hcontext' rfl ⟨['T'], rfl⟩ rfl

end Completion

end Manuscript

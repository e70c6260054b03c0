/-
# Manuscript.Proofs.Query.Order -- what the order of a scope decides

The answers to questions about a document are computed from a list of related
documents.  Problems do not depend on its order: labels are counted and keys are looked
up (`Problem.all_perm`).  A rename depends on it in the order of its changes alone
(`Rename.run?_perm`).  Completions come in the order of the scope, and where documents
share a name the first of them is offered; the candidates they are chosen from and the
names that are offered stay the same (`Completion.offers_perm`).
-/
import Manuscript.Proofs.Latex.Faithful
import Manuscript.Proofs.Rename.Exactness

namespace Manuscript

set_option autoImplicit false

variable {related others : List Document}

/-- Two outcomes that are the same error, or values that are related. -/
inductive Agree {α : Type} (r : α → α → Prop) : Except Error α → Except Error α → Prop where
  | ok {a b : α} : r a b → Agree r (.ok a) (.ok b)
  | error (e : Error) : Agree r (.error e) (.error e)

theorem Agree.map {α β : Type} {r : α → α → Prop} {s : β → β → Prop} {f : α → β}
    {x y : Except Error α} (h : Agree r x y) (hf : ∀ a b, r a b → s (f a) (f b)) :
    Agree s (f <$> x) (f <$> y) := by
  cases h with
  | ok h => exact .ok (hf _ _ h)
  | error e => exact .error e

theorem Agree.eq {α : Type} {x y : Except Error α} (h : Agree (· = ·) x y) : x = y := by
  cases h with
  | ok h => rw [h]
  | error e => rfl

/-! ## Problems -/

namespace Rule

theorem labelNames_perm (h : related.Perm others) :
    (labelNames related).Perm (labelNames others) := h.flatMap_right _

theorem undefinedLabel?_perm {labels labels' : List String} (h : labels.Perm labels') :
    undefinedLabel? labels = undefinedLabel? labels' := by
  funext name
  simp only [undefinedLabel?, h.mem_iff]

theorem duplicateLabel?_perm {labels labels' : List String} (h : labels.Perm labels') :
    duplicateLabel? labels = duplicateLabel? labels' := by
  funext name
  simp only [duplicateLabel?, h.count_eq]

/-- Bibliographies in another order have the same keys, or there is none in either order. -/
theorem citationKeys?_perm (h : related.Perm others) :
    Option.Rel List.Perm (citationKeys? related) (citationKeys? others) := by
  have hfiles := h.filterMap (·.contents.bibtex?)
  unfold citationKeys?
  cases hr : related.filterMap (·.contents.bibtex?) with
  | nil =>
      rw [hr] at hfiles
      rw [List.nil_perm.1 hfiles]
      exact .none
  | cons s ss =>
      cases ho : others.filterMap (·.contents.bibtex?) with
      | nil =>
          rw [hr, ho] at hfiles
          cases List.perm_nil.1 hfiles
      | cons t ts =>
          rw [hr, ho] at hfiles
          exact .some (hfiles.flatMap_right _)

theorem undefinedCitation?_perm {keys keys' : Option (List String)}
    (h : Option.Rel List.Perm keys keys') : undefinedCitation? keys = undefinedCitation? keys' := by
  funext name
  cases h with
  | none => rfl
  | some h => simp only [undefinedCitation?, Option.bind_some, h.mem_iff]

theorem problems_perm (settings : DiagnosticsSettings) (origin : Document)
    (h : related.Perm others) : problems settings origin related = problems settings origin others := by
  simp only [problems, undefinedLabel?_perm (labelNames_perm h),
    duplicateLabel?_perm (labelNames_perm h), undefinedCitation?_perm (citationKeys?_perm h)]

end Rule

/-- **The problems of a document do not depend on the order of the documents related to it.** -/
theorem Problem.all_perm (settings : DiagnosticsSettings) (origin : Document)
    (h : related.Perm others) : all settings origin related = all settings origin others := by
  unfold all
  rw [Rule.problems_perm settings origin h]

/-! ## Renames -/

namespace Rename

/-- The same changes in another order. -/
structure Reordered (r s : Rename) : Prop where
  oldName : r.oldName = s.oldName
  newName : r.newName = s.newName
  changes : r.changes.Perm s.changes
  /-- A document has its edits in one place. -/
  nodup : (r.changes.map Prod.fst).Nodup

theorem definitionCount_perm (sort : NameSort) (name : String) (h : related.Perm others) :
    definitionCount sort name related = definitionCount sort name others := by
  unfold definitionCount
  induction h with
  | nil => rfl
  | cons d _ ih => rw [List.foldr_cons, List.foldr_cons, ih]
  | swap d e ds => simp only [List.foldr_cons]; omega
  | trans _ _ ih ih' => exact ih.trans ih'

theorem changesIn_perm (sort : NameSort) (oldName newName : String) (h : related.Perm others)
    (nodup : (related.map Document.uri).Nodup) :
    (changesIn sort oldName newName related).Perm (changesIn sort oldName newName others) := by
  rw [changesIn_eq sort oldName newName nodup,
    changesIn_eq sort oldName newName ((h.map _).nodup_iff.1 nodup)]
  exact (h.map _).filter _

theorem nodup_changesIn (sort : NameSort) (oldName newName : String)
    (nodup : (related.map Document.uri).Nodup) :
    ((changesIn sort oldName newName related).map Prod.fst).Nodup := by
  rw [changesIn_eq sort oldName newName nodup]
  exact nodup_edited sort oldName newName nodup

/-- A name is renamed alike in any order of a scope. -/
theorem ofName?_perm (sort : NameSort) (oldName newName : String) (h : related.Perm others)
    (nodup : (related.map Document.uri).Nodup) :
    Agree Reordered (ofName? sort oldName newName related)
      (ofName? sort oldName newName others) := by
  unfold ofName?
  rw [definitionCount_perm sort oldName h]
  split
  · split
    · exact .error _
    · exact .ok ⟨rfl, rfl, changesIn_perm sort oldName newName h nodup,
        nodup_changesIn sort oldName newName nodup⟩
  · exact .error _

/-- **A rename in a scope has the same outcome in any order of the scope.** -/
theorem run?_perm (origin : Document) (p : Position) (newName : String)
    (h : related.Perm others) (nodup : (related.map Document.uri).Nodup) :
    Agree Reordered (run? origin related p newName) (run? origin others p newName) := by
  rw [run?_eq, run?_eq]
  cases symbolAt? origin p with
  | error e => exact .error e
  | ok found => exact ofName?_perm found.2 found.1.name newName h nodup

end Rename

/-! ## Completions -/

namespace Completion

open Candidate

theorem Candidate.all_perm (origin : Document) (topic : Topic) (h : related.Perm others) :
    (all origin related topic).Perm (all origin others topic) := by
  cases topic with
  | label => exact h.flatMap_right _
  | citation => exact h.flatMap_right _
  | environment => exact (h.flatMap_right _).append_right _
  | inclusion kind => exact h.filterMap _
  | command => exact (h.flatMap_right _).append_right _

/-- The first candidates of each name have each name once, but for those already seen. -/
theorem map_firstByNameFrom (seen : List String) (cs : List Candidate) :
    (firstByNameFrom seen cs).map Candidate.name =
      ((cs.map Candidate.name).filter (· ∉ seen)).eraseDups := by
  induction cs generalizing seen with
  | nil => rfl
  | cons c cs ih =>
      rw [firstByNameFrom, List.map_cons]
      by_cases hseen : c.name ∈ seen
      · rw [if_pos hseen, ih, List.filter_cons_of_neg (by simpa using hseen)]
      · rw [if_neg hseen, List.map_cons, ih, List.filter_cons_of_pos (by simpa using hseen),
          List.eraseDups_cons, List.filter_filter]
        congr 2
        refine List.filter_congr fun name _ => ?_
        by_cases hname : name = c.name <;> simp [hname]

theorem map_firstByName (cs : List Candidate) :
    (firstByName cs).map Candidate.name = (cs.map Candidate.name).eraseDups := by
  rw [firstByName, map_firstByNameFrom]
  simp

theorem mem_firstByNameFrom {seen : List String} {cs : List Candidate} {name : String} :
    name ∈ (firstByNameFrom seen cs).map Candidate.name ↔
      name ∈ cs.map Candidate.name ∧ name ∉ seen := by
  rw [map_firstByNameFrom, List.mem_eraseDups, List.mem_filter, decide_eq_true_eq]

theorem nodup_firstByNameFrom (seen : List String) (cs : List Candidate) :
    ((firstByNameFrom seen cs).map Candidate.name).Nodup := by
  rw [map_firstByNameFrom]
  exact Latex.nodup_eraseDups _

/-- The names of some candidates do not depend on their order. -/
theorem firstByName_perm {cs ds : List Candidate} (h : cs.Perm ds) :
    ((firstByName cs).map Candidate.name).Perm ((firstByName ds).map Candidate.name) := by
  refine (List.perm_ext_iff_of_nodup (nodup_firstByNameFrom _ _)
    (nodup_firstByNameFrom _ _)).2 fun name => ?_
  rw [mem_firstByNameFrom, mem_firstByNameFrom, (h.map _).mem_iff]

/-- The first offers of each name among the same candidates in another order. -/
structure Reordered (offers offers' : List Offer) : Prop where
  /-- Both are chosen from the same candidates, for the same place. -/
  candidates : ∃ range cs ds, cs.Perm ds ∧ offers = (firstByName cs).map (⟨·, range⟩) ∧
    offers' = (firstByName ds).map (⟨·, range⟩)
  /-- The same names are offered, each once. -/
  names : (offers.map (·.candidate.name)).Perm (offers'.map (·.candidate.name))
  nodup : (offers.map (·.candidate.name)).Nodup

theorem reordered_firstByName (range : Range) {cs ds : List Candidate} (h : cs.Perm ds) :
    Reordered ((firstByName cs).map (⟨·, range⟩)) ((firstByName ds).map (⟨·, range⟩)) := by
  have hnames := firstByName_perm h
  have hnodup := nodup_firstByNameFrom [] cs
  refine ⟨⟨range, cs, ds, h, rfl, rfl⟩, ?_, ?_⟩
  · rw [List.map_map, List.map_map]
    exact hnames
  · rw [List.map_map]
    exact hnodup

/-- **Completions in a scope are chosen from the same candidates in any order of the scope.** -/
theorem offers_perm (matcher : Matcher) (origin : Document) (p : Position)
    (h : related.Perm others) :
    Reordered (offers matcher origin related p) (offers matcher origin others p) := by
  have nothing : Reordered [] [] := reordered_firstByName default (.refl [])
  unfold offers
  split
  · exact nothing
  split
  · exact nothing
  split
  · exact nothing
  · exact reordered_firstByName _ ((Candidate.all_perm origin _ h).filter _)

end Completion

end Manuscript

/-
# Manuscript.Proofs.Rename.Origin -- a rename does not depend on where it starts

The cursor decides which name is renamed.  A cursor on an occurrence of a name is on no
other symbol, so it decides for that name (`Rename.run?_of_on`), be the occurrence a
definition or a use.  All else is decided by the documents of the scope, whose order
is the order of the changes and nothing more.

So two renames that start from occurrences of one name agree if their scopes have the
same documents: they are refused for the same reason, or they have the same edits in
every document.  Any two documents of a project have such scopes where includes are
followed backwards too.

A preparation asks for the symbol under the cursor and stops there.  It fails where
every rename fails for want of a symbol, and what it finds else is what a rename
replaces (`Workspace.rename_origin`).
-/
import Manuscript.Proofs.Workspace.Sources

namespace Manuscript

set_option autoImplicit false

namespace Rename

variable {origin : Document} {p q : Position} {sort : NameSort} {name newName : String}

/-- The cursor is on an occurrence of a name. -/
def On (origin : Document) (p : Position) (sort : NameSort) (name : String) : Prop :=
  ∃ symbol ∈ occurrences sort origin.contents, symbol.name = name ∧
    ∃ offset, origin.offset? p = some offset ∧ symbol.span.touches offset = true

/-- A rename from an occurrence of a name renames that name. -/
theorem run?_of_on (horigin : origin.Settled) (h : On origin p sort name) (related : List Document)
    (newName : String) : run? origin related p newName = ofName? sort name newName related := by
  obtain ⟨symbol, hsymbol, rfl, offset, hoffset, htouches⟩ := h
  rw [run?_eq, symbolAt?_touched horigin hsymbol hoffset htouches]
  rfl

/-! ## Preparations -/

theorem ofName?_ne_symbolNotFound (related : List Document) :
    ofName? sort name newName related ≠ .error (.symbolNotFound q) := by
  unfold ofName?
  intro h
  split at h
  · split at h <;> cases h
  · cases h

/-- A preparation fails where every rename fails for want of a symbol. -/
theorem prepare?_eq_symbolNotFound_iff (related : List Document) (newName : String) :
    prepare? origin p = .error (.symbolNotFound q) ↔
      run? origin related p newName = .error (.symbolNotFound q) := by
  rw [run?_eq]
  unfold prepare?
  cases symbolAt? origin p with
  | error e => exact ⟨fun h => by cases h; rfl, fun h => by cases h; rfl⟩
  | ok found =>
      exact ⟨fun h => (by cases h), fun h => absurd h (ofName?_ne_symbolNotFound related)⟩

/-- A preparation finds a symbol, or there is none. -/
theorem prepare?_cases (origin : Document) (p : Position) :
    prepare? origin p = .error (.symbolNotFound p) ∨
      ∃ symbol sort, symbolAt? origin p = .ok (symbol, sort) ∧
        prepare? origin p = .ok (origin.range symbol.span, symbol.name) := by
  unfold prepare? symbolAt?
  cases origin.offset? p >>= target? origin.contents with
  | none => exact Or.inl rfl
  | some found => exact Or.inr ⟨found.1, found.2, rfl, rfl⟩

/-- A rename replaces every occurrence of its name in a document of the scope. -/
theorem exists_edit {related : List Document} (hnodup : (related.map Document.uri).Nodup)
    (hmem : origin ∈ related) (horigin : origin.Settled) {symbol : Symbol}
    (hsymbol : symbol ∈ occurrences sort origin.contents) (newName : String) :
    ∃ edits, (origin.uri, edits) ∈ changesIn sort symbol.name newName related ∧
      ⟨origin.range symbol.span, newName⟩ ∈ edits := by
  have hedit : (⟨origin.range symbol.span, newName⟩ : Edit) ∈
      edits sort symbol.name newName origin := by
    rw [edits_eq sort symbol.name newName horigin]
    refine List.mem_map.2 ⟨symbol, mem_named.2 ⟨?_, rfl⟩, rfl⟩
    exact (perm_inOrder sort horigin).mem_iff.1 hsymbol
  refine ⟨_, ?_, hedit⟩
  rw [changesIn_eq sort symbol.name newName hnodup]
  refine List.mem_filter.2 ⟨List.mem_map_of_mem hmem, ?_⟩
  simpa using List.ne_nil_of_mem hedit

end Rename

namespace Workspace

variable {w : Workspace} {settings : Settings} {uri a b : Url} {origin origin' : Document}
  {as bs : List Document} {p q : Position} {sort : NameSort} {name : String}

/-! ## Requests -/

theorem answer?_rename_of_get? (h : w.get? uri = some origin) (hscope : w.scope? uri = .ok as)
    (p : Position) (newName : String) :
    (w.rename? uri p newName >>= Request.answer? settings) =
      Response.rename <$> Rename.run? origin as p newName := by
  rw [scope?_of_get? h] at hscope
  cases hscope
  rw [answer?_rename, scope?_of_get? h]
  show (origin? uri _ >>= _) = _
  rw [origin?_traverse h]
  rfl

theorem prepareRename?_of_get? (h : w.get? uri = some origin) (p : Position) :
    w.prepareRename? uri p = Rename.prepare? origin p := by
  rw [prepareRename?, scope?_of_get? h]
  show (origin? uri _ >>= _) = _
  rw [origin?_traverse h]
  rfl

/-- A document that is not there has no symbols, and is missed before any is looked for. -/
theorem prepareRename?_of_not_contains (h : ¬ w.contains uri = true) (p : Position)
    (newName : String) :
    w.prepareRename? uri p = .error (.documentNotFound uri) ∧
      (w.rename? uri p newName >>= Request.answer? settings) =
        .error (.documentNotFound uri) := by
  have hscope : w.scope? uri = .error (.documentNotFound uri) := by
    rw [scope?, reached?, if_neg h]
  constructor
  · rw [prepareRename?, hscope]
    rfl
  · rw [answer?_rename, hscope]
    rfl

/-! ## Two origins -/

/-- Renames of one name agree if their scopes have the same documents. -/
theorem agree_rename (sound : w.Sound) (has : w.scope? a = .ok as) (hbs : w.scope? b = .ok bs)
    (same : ∀ d, d ∈ as ↔ d ∈ bs) (ha : w.get? a = some origin) (hb : w.get? b = some origin')
    (hp : Rename.On origin p sort name) (hq : Rename.On origin' q sort name) (newName : String) :
    Agree Response.Reordered (w.rename? a p newName >>= Request.answer? settings)
      (w.rename? b q newName >>= Request.answer? settings) := by
  have hnodup := (sound.of_scope? has).1
  have hperm : as.Perm bs :=
    (List.perm_ext_iff_of_nodup hnodup.of_map (sound.of_scope? hbs).1.of_map).2 same
  rw [answer?_rename_of_get? ha has, answer?_rename_of_get? hb hbs,
    Rename.run?_of_on (sound.settled origin (mem_of_get? ha)) hp,
    Rename.run?_of_on (sound.settled origin' (mem_of_get? hb)) hq]
  exact (Rename.ofName?_perm sort name newName hperm hnodup).map fun _ _ h => .rename h

/-- The documents of a project have the same documents in their scopes. -/
theorem exists_scope?_same (nodup : w.uris.Nodup) (hfollow : w.options.followParents = true)
    (has : w.scope? a = .ok as) (hb : b ∈ as.map Document.uri) :
    ∃ bs, w.scope? b = .ok bs ∧ ∀ d, d ∈ as ↔ d ∈ bs := by
  unfold scope? at has ⊢
  rw [hfollow] at has ⊢
  have hcontains : w.contains b = true :=
    contains_of_reach (reached?_eq_ok_iff.1 has).1 ((mem_uris_of_reached? has).1 hb)
  obtain ⟨bs, hbs⟩ := exists_reached? hcontains true
  exact ⟨bs, hbs, fun d => (project?_perm nodup has hbs hb).mem_iff⟩

/-- What a preparation finds is what a rename replaces. -/
theorem exists_prepared (sound : w.Sound) (hcontains : w.contains uri = true)
    (hfound : ∀ q, w.prepareRename? uri p ≠ .error (.symbolNotFound q)) :
    ∃ range name, w.prepareRename? uri p = .ok (range, name) ∧
      ∀ newName r, (w.rename? uri p newName >>= Request.answer? settings) = .ok (.rename r) →
        r.oldName = name ∧ ∃ edits, (uri, edits) ∈ r.changes ∧ ⟨range, newName⟩ ∈ edits := by
  obtain ⟨origin, hget⟩ := contains_iff_get?.1 hcontains
  rw [prepareRename?_of_get? hget] at hfound ⊢
  rcases Rename.prepare?_cases origin p with hnone | ⟨symbol, sort, hsymbol, hprepare⟩
  · exact absurd hnone (hfound p)
  refine ⟨_, _, hprepare, fun newName r h => ?_⟩
  obtain ⟨scope, origin', hscope, hget', hrun⟩ := rename?_eq_ok_iff.1 h
  cases hget.symm.trans hget'
  obtain ⟨symbol', sort', hsymbol', -, -, rfl⟩ := Rename.run?_eq_ok_iff.1 hrun
  cases hsymbol.symm.trans hsymbol'
  refine ⟨rfl, ?_⟩
  rw [← uri_of_get? hget]
  exact Rename.exists_edit (sound.of_scope? hscope).1 (mem_scope_of_get? hget hscope)
    (sound.settled origin (mem_of_get? hget)) (Rename.mem_occurrences_of_symbolAt? hsymbol).1
    newName

/-- **A rename does not depend on where it starts, and a preparation foretells it.** -/
theorem rename_origin (reached : w.Reached) (settings : Settings) :
    (∀ a b as bs, w.scope? a = .ok as → w.scope? b = .ok bs → (∀ d, d ∈ as ↔ d ∈ bs) →
      ∀ origin origin' p q sort name, w.get? a = some origin → w.get? b = some origin' →
        Rename.On origin p sort name → Rename.On origin' q sort name →
        ∀ newName, Agree Response.Reordered (w.rename? a p newName >>= Request.answer? settings)
          (w.rename? b q newName >>= Request.answer? settings)) ∧
    (w.options.followParents = true → ∀ a b as, w.scope? a = .ok as → b ∈ as.map Document.uri →
      ∃ bs, w.scope? b = .ok bs ∧ ∀ d, d ∈ as ↔ d ∈ bs) ∧
    (∀ uri p q newName, w.prepareRename? uri p = .error (.symbolNotFound q) ↔
      (w.rename? uri p newName >>= Request.answer? settings) = .error (.symbolNotFound q)) ∧
    ∀ uri p, w.contains uri = true →
      (∀ q, w.prepareRename? uri p ≠ .error (.symbolNotFound q)) →
      ∃ range name, w.prepareRename? uri p = .ok (range, name) ∧
        ∀ newName r, (w.rename? uri p newName >>= Request.answer? settings) = .ok (.rename r) →
          r.oldName = name ∧ ∃ edits, (uri, edits) ∈ r.changes ∧ ⟨range, newName⟩ ∈ edits := by
  have sound := reached.sound
  refine ⟨fun a b as bs has hbs same origin origin' p q sort name ha hb hp hq newName =>
      agree_rename sound has hbs same ha hb hp hq newName,
    fun hfollow a b as has hb => exists_scope?_same sound.nodup hfollow has hb,
    fun uri p q newName => ?_, fun uri p hcontains hfound => exists_prepared sound hcontains hfound⟩
  by_cases hcontains : w.contains uri = true
  · obtain ⟨origin, hget⟩ := contains_iff_get?.1 hcontains
    rw [prepareRename?_of_get? hget, answer?_rename_of_get? hget (scope?_of_get? hget),
      Rename.prepare?_eq_symbolNotFound_iff
        (w.graph.traverse w.options.followParents uri) newName]
    cases Rename.run? origin (w.graph.traverse w.options.followParents uri) p newName with
    | error e => exact ⟨fun h => by cases h; rfl, fun h => by cases h; rfl⟩
    | ok r => exact ⟨fun h => (by cases h), fun h => (by cases h)⟩
  · obtain ⟨hprepare, hrename⟩ :=
      @prepareRename?_of_not_contains w settings uri hcontains p newName
    rw [hprepare, hrename]
    exact ⟨fun h => (by cases h), fun h => (by cases h)⟩

namespace Example

/-- The reference in the part, and the definition in the book that includes it. -/
theorem on_shared :
    Rename.On part ⟨0, 5⟩ .label "x" ∧ Rename.On first ⟨0, 7⟩ .label "x" := by
  constructor
  · exact ⟨⟨"x", ⟨5, 6⟩⟩, by decide +kernel, rfl, 5, by decide +kernel, rfl⟩
  · exact ⟨⟨"x", ⟨7, 8⟩⟩, by decide +kernel, rfl, 7, by decide +kernel, rfl⟩

end Example

theorem rename_origin_shared :
    (Example.shared.Reached ∧ Example.shared.options.followParents = true ∧
      Rename.On Example.part ⟨0, 5⟩ .label "x" ∧ Rename.On Example.first ⟨0, 7⟩ .label "x") ∧
    Agree Response.Reordered
      (Example.shared.rename? Example.part.uri ⟨0, 5⟩ "y" >>= Request.answer? Settings.default)
      (Example.shared.rename? Example.first.uri ⟨0, 7⟩ "y" >>= Request.answer? Settings.default) := by
  obtain ⟨agree, component, -⟩ := rename_origin Example.reached_shared Settings.default
  obtain ⟨hpart, hfirst⟩ := Example.on_shared
  have hgetPart : Example.shared.get? Example.part.uri = some Example.part := by decide +kernel
  have hgetFirst : Example.shared.get? Example.first.uri = some Example.first := by decide +kernel
  have hwalk : Example.shared.graph.visitWithin true 8 [] [Example.part.uri] =
      some [Example.part, Example.first, Example.second] := by decide +kernel
  have hscope : Example.shared.scope? Example.part.uri =
      .ok [Example.part, Example.first, Example.second] := scope?_of_within hgetPart hwalk
  obtain ⟨bs, hbs, same⟩ := component rfl _ Example.first.uri _ hscope (by decide +kernel)
  exact ⟨⟨Example.reached_shared, rfl, hpart, hfirst⟩,
    agree _ _ _ _ hscope hbs same _ _ _ _ _ _ hgetPart hgetFirst hpart hfirst "y"⟩

end Workspace

end Manuscript

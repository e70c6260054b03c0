/-
# Manuscript.Proofs.Latex.RespeltGroup -- the names of a group in two spellings

A command reads at most one kind of group, and what it makes of the group is names and a
reader that goes on after it (`Reading.group`).  So one lemma follows all of them over a
form (`respells_group`): the form of the group's names is put back between its braces,
before the form of what comes after.

Which names are left open is a matter of trimming and commas alone (`Opens`): a name is
solid between blanks, and so is an inert one in its place.  Names of another sort stay.
-/
import Manuscript.Proofs.Latex.Respelling

namespace Manuscript.Latex

set_option autoImplicit false

open Text Text.Form

variable {sort : NameSort} {u v : List Char}

/-! ## Names in a group -/

/-- The form `C` of a text leaves the name open where it is among the names of the sort. -/
structure Opens (sort : NameSort) (u v : List Char) (names : Nat → List Char → List Event)
    (content : List Char) (C : Form) : Prop where
  fill_eq : fill u C = content
  guarded : Guarded true C
  holes_eq : ∀ o, holes u o C = nameSpans sort u (names o content)
  respelt : ∀ same o o', Along u v same o o' C →
    List.Forall₂ (Event.Respelt sort u v same) (names o content) (names o' (fill v C))

theorem Opens.not_mem {names : Nat → List Char → List Event} {content : List Char} {C : Form}
    (h : Opens sort u v names content C) (hv : Inert v) {d : Char} (hd : isInert d = false)
    (hcontent : d ∉ content) : d ∉ fill v C := by
  intro hmem
  rcases mem_or_mem_of_fill hmem with hmem | hmem
  · exact ne_of_isInert (hv.inert d hmem) hd rfl
  · rw [h.fill_eq] at hmem
    exact hcontent hmem

/-- Names that are of another sort, and do not tell where they stand. -/
theorem opens_ofText {names : Nat → List Char → List Event} {content : List Char}
    (hnames : ∀ o, (names o content).filterMap (Event.named? sort) = [])
    (h : ∀ same o o',
      List.Forall₂ (Event.Respelt sort u v same) (names o content) (names o' content)) :
    Opens sort u v names content (Form.ofText content) where
  fill_eq := fill_ofText
  guarded := guarded_ofText true content
  holes_eq o := by rw [holes_ofText, nameSpans_eq_nil (hnames o)]
  respelt same o o' _ := by
    rw [fill_ofText]
    exact h same o o'

/-- The name of a text is the same wherever it stands. -/
theorem forall₂_trimmed? (content : List Char) (o o' : Nat) :
    List.Forall₂ (fun s s' : Symbol => s.name = s'.name) (Symbol.trimmed? o content).toList
      (Symbol.trimmed? o' content).toList := by
  unfold Symbol.trimmed?
  cases trim content with
  | nil => exact .nil
  | cons c word => exact .cons rfl .nil

theorem forall₂_namesFrom (stretches : List (List Char)) (o o' : Nat) :
    List.Forall₂ (fun s s' : Symbol => s.name = s'.name) (namesFrom o stretches)
      (namesFrom o' stretches) := by
  induction stretches generalizing o o' with
  | nil => exact .nil
  | cons s ss ih => exact List.rel_append (forall₂_trimmed? s o o') (ih _ _)

/-- Names of another sort. -/
theorem opens_closed {names : Nat → List Char → List Symbol} {event : Symbol → Event}
    {content : List Char} (hother : ∀ s, (event s).named? sort = none)
    (hsame : ∀ same s s', s.name = s'.name → Event.Respelt sort u v same (event s) (event s'))
    (hnames : ∀ o o', List.Forall₂ (fun s s' : Symbol => s.name = s'.name) (names o content)
      (names o' content)) :
    Opens sort u v (fun o content => (names o content).map event) content
      (Form.ofText content) := by
  refine opens_ofText (fun o => ?_) fun same o o' => List.rel_map (hsame same) (hnames o o')
  rw [List.filterMap_map, List.filterMap_eq_nil_iff]
  exact fun s _ => hother s

theorem opens_nothing (content : List Char) :
    Opens sort u v (fun _ _ => []) content (Form.ofText content) :=
  opens_ofText (fun _ => rfl) fun _ _ _ => .nil

theorem guarded_blanks {blanks : List Char} (h : AllBlank isBlank blanks) {F : Form}
    (hF : Guarded true F) : Guarded true (Form.ofText blanks ++ F) := by
  induction blanks with
  | nil => exact hF
  | cons c blanks ih =>
      have hc : isSeparator c = true := by simp [isSeparator, h c List.mem_cons_self]
      show Guarded (isSeparator c) (Form.ofText blanks ++ F)
      rw [hc]
      exact ih fun d hd => h d (List.mem_cons_of_mem c hd)

/-- What blanks around a name trim to. -/
theorem trimmed?_of_solid {left name right : List Char} (hleft : AllBlank isBlank left)
    (h : Solid isBlank name) (hright : AllBlank isBlank right) (o : Nat) :
    Symbol.trimmed? o (left ++ (name ++ right)) =
      some (Symbol.ofText (o + utf8Length left) name) := by
  unfold Symbol.trimmed?
  rw [trim_of_solid hleft h hright, takeWhile_of_solid hleft h]
  cases hname : name with
  | nil => exact absurd hname h.nonempty
  | cons c cs => rfl

theorem exists_solid {content : List Char} (h : trim content ≠ []) :
    ∃ left name right, content = left ++ (name ++ right) ∧ AllBlank isBlank left ∧
      AllBlank isBlank right ∧ Solid isBlank name := by
  obtain ⟨right, hcontent, hleft, hright, hsolid⟩ := exists_trim content
  exact ⟨_, _, right, hcontent, hleft, hright, hsolid h⟩

theorem trimmed?_of_nil {content : List Char} (h : trim content = []) (o : Nat) :
    Symbol.trimmed? o content = none := by
  unfold Symbol.trimmed?
  rw [h]

theorem symbolRespelt_ofText {same : Nat → Nat → Prop} {o o' : Nat} {w w' : List Char}
    (hname : String.ofList w' = respell u v (String.ofList w)) (hstart : same o o')
    (hstop : same (o + utf8Length w) (o' + utf8Length w')) :
    SymbolRespelt u v same (Symbol.ofText o w) (Symbol.ofText o' w') :=
  ⟨hname, hstart, hstop⟩

section Labels

variable {event : Symbol → Event} (hevent : ∀ s, (event s).named? sort = some s)
  (hrespelt : ∀ same s s', SymbolRespelt u v same s s' →
    Event.Respelt sort u v same (event s) (event s'))

include hevent

theorem filterMap_named? (symbols : List Symbol) :
    (symbols.map event).filterMap (Event.named? sort) = symbols := by
  rw [List.filterMap_map]
  exact (congrArg (List.filterMap · symbols) (funext hevent)).trans (List.filterMap_some)

theorem nameSpans_singleton (o : Nat) (w : List Char) :
    nameSpans sort u [event (Symbol.ofText o w)] =
      if w = u then [⟨o, o + utf8Length w⟩] else [] := by
  by_cases hw : w = u
  · rw [if_pos hw]
    simp [nameSpans, hevent, Symbol.ofText, hw]
  · have hne : String.ofList w ≠ String.ofList u := fun heq => hw (String.ofList_injective heq)
    rw [if_neg hw]
    simp [nameSpans, hevent, Symbol.ofText, hne]

include hrespelt

/-- The name between the blanks of a text. -/
theorem exists_opens_trimmed (hu : Inert u) (hv : Inert v) (content : List Char) :
    ∃ C, Opens sort u v (fun o content => (Symbol.trimmed? o content).toList.map event) content
      C := by
  by_cases hnil : trim content = []
  · refine ⟨Form.ofText content, opens_ofText ?_ ?_⟩
    · intro o
      rw [trimmed?_of_nil hnil]
      rfl
    · intro same o o'
      rw [trimmed?_of_nil hnil, trimmed?_of_nil hnil]
      exact .nil
  obtain ⟨left, name, right, rfl, hleft, hright, hsolid⟩ := exists_solid hnil
  have hname (o : Nat) := trimmed?_of_solid hleft hsolid hright o
  by_cases hu' : name = u
  · subst hu'
    refine ⟨Form.ofText left ++ none :: Form.ofText right, ?_, ?_, ?_, ?_⟩
    · simp
    · exact guarded_blanks hleft ⟨rfl, guarded_ofText false right⟩
    · intro o
      show _ = nameSpans sort name ((Symbol.trimmed? o _).toList.map event)
      rw [hname]
      show _ = nameSpans sort name [event _]
      rw [nameSpans_singleton hevent, if_pos rfl, holes_append, holes_ofText, fill_ofText]
      simp [holes]
    · intro same o o' halong
      have hfill : fill v (Form.ofText left ++ none :: Form.ofText right) =
          left ++ (v ++ right) := by simp
      rw [hfill, hname, trimmed?_of_solid hleft hv.solid hright]
      refine .cons (hrespelt _ _ _ (symbolRespelt_ofText respell_self.symm ?_ ?_)) .nil
      · have := halong (Form.ofText left) _ rfl
        simpa using this
      · have := halong (Form.ofText left ++ [none]) (Form.ofText right) (by simp)
        simpa [Nat.add_assoc] using this
  · refine ⟨Form.ofText (left ++ (name ++ right)), fill_ofText, guarded_ofText _ _, ?_, ?_⟩
    · intro o
      show _ = nameSpans sort u ((Symbol.trimmed? o _).toList.map event)
      rw [hname, holes_ofText]
      show _ = nameSpans sort u [event _]
      rw [nameSpans_singleton hevent, if_neg hu']
    · intro same o o' halong
      rw [fill_ofText, hname, hname]
      refine .cons (hrespelt _ _ _ (symbolRespelt_ofText (respell_of_ne hu').symm ?_ ?_)) .nil
      · have := halong (Form.ofText left) (Form.ofText (name ++ right)) (Form.ofText_append _ _)
        simpa using this
      · have := halong (Form.ofText (left ++ name)) (Form.ofText right)
          (by rw [← Form.ofText_append, List.append_assoc])
        simpa [Nat.add_assoc] using this

/-- The names between the commas of a text. -/
theorem exists_opens_namesFrom (hu : Inert u) (hv : Inert v) (content : List Char) :
    ∃ C, Opens sort u v (fun o content => (namesFrom o (betweenCommas content)).map event) content
      C := by
  induction content using betweenCommas_induction with
  | last s hs =>
      obtain ⟨C, hC⟩ := exists_opens_trimmed hevent hrespelt hu hv s
      have hcomma : ',' ∉ fill v C := hC.not_mem hv (by decide) hs
      refine ⟨C, hC.fill_eq, hC.guarded, ?_, ?_⟩
      · intro o
        rw [betweenCommas_last hs, namesFrom, namesFrom, List.append_nil]
        exact hC.holes_eq o
      · intro same o o' halong
        rw [betweenCommas_last hs, betweenCommas_last hcomma, namesFrom, namesFrom, namesFrom,
          namesFrom, List.append_nil, List.append_nil]
        exact hC.respelt same o o' halong
  | more s cs hs ih =>
      obtain ⟨C, hC⟩ := exists_opens_trimmed hevent hrespelt hu hv s
      obtain ⟨D, hD⟩ := ih
      have hcomma : ',' ∉ fill v C := hC.not_mem hv (by decide) hs
      have hsize : Char.utf8Size ',' = 1 := by decide
      refine ⟨C ++ some ',' :: D, ?_, hC.guarded.append hD.guarded, ?_, ?_⟩
      · rw [fill_append, fill_some, hC.fill_eq, hD.fill_eq]
      · intro o
        rw [betweenCommas_append hs, namesFrom, List.map_append, nameSpans_append, holes_append,
          hC.fill_eq]
        exact congrArg₂ _ (hC.holes_eq o) (hsize ▸ hD.holes_eq (o + utf8Length s + 1))
      · intro same o o' halong
        rw [fill_append, fill_some, betweenCommas_append hs, betweenCommas_append hcomma, namesFrom,
          namesFrom, List.map_append, List.map_append]
        refine List.rel_append (hC.respelt same o o' halong.left) (hD.respelt same _ _ ?_)
        have := Along.right (P := C ++ [some ',']) (Q := D) (by simpa using halong)
        simpa [hsize, hC.fill_eq, Nat.add_assoc] using this

/-- Names may be left out for what they are, as long as neither spelling is. -/
theorem exists_opens_kept (hu : Inert u) (hv : Inert v)
    (hname : ∀ same s s', Event.Respelt sort u v same (event s) (event s') →
      s'.name = respell u v s.name)
    {kept : Symbol → Bool} (hkept : ∀ s s' : Symbol, s.name = s'.name → kept s = kept s')
    (hboth : ∀ s : Symbol, s.name = String.ofList u ∨ s.name = String.ofList v → kept s = true)
    (content : List Char) :
    ∃ C, Opens sort u v
      (fun o content => ((namesFrom o (betweenCommas content)).filter kept).map event) content
      C := by
  obtain ⟨C, hC⟩ := exists_opens_namesFrom hevent hrespelt hu hv content
  refine ⟨C, hC.fill_eq, hC.guarded, fun o => ?_, fun same o o' halong => ?_⟩
  · rw [hC.holes_eq, nameSpans, nameSpans, filterMap_named? hevent, filterMap_named? hevent,
      List.filter_filter]
    refine congrArg _ (List.filter_congr fun s _ => ?_)
    by_cases hs : s.name = String.ofList u
    · simp [hs, hboth s (Or.inl hs)]
    · simp [hs]
  · have hall := hC.respelt same o o' halong
    rw [List.forall₂_map_left_iff, List.forall₂_map_right_iff] at hall ⊢
    refine List.rel_filter (fun s s' h => ?_) hall
    show kept s = true ↔ kept s' = true
    have hs' := hname same s s' h
    by_cases hs : s.name = String.ofList u
    · rw [hs, respell_self] at hs'
      rw [hboth s (Or.inl hs), hboth s' (Or.inr hs')]
    · rw [respell, if_neg hs] at hs'
      rw [hkept s s' hs'.symm]

end Labels

/-! ## Groups -/

namespace Group

variable {layout : List Char} {C : Form} {closed : Bool}

theorem guarded_form (hC : Guarded true C) : Guarded false (form layout C closed) := by
  refine (guarded_ofText false layout).append ?_
  show Guarded (isSeparator '{') (C ++ Form.ofText (closer closed))
  rw [show isSeparator '{' = true by decide]
  exact hC.append (guarded_ofText false _)

theorem holes_form (o : Nat) :
    holes u o (form layout C closed) = holes u (o + utf8Length layout + 1) C := by
  have hsize : Char.utf8Size '{' = 1 := by decide
  rw [form, holes_append, holes_ofText, fill_ofText, List.nil_append, holes, hsize, holes_append,
    holes_ofText, List.append_nil]

/-- The places of a group in two fillings. -/
theorem along_form {same : Nat → Nat → Prop} {o o' : Nat}
    (h : Along u v same o o' (form layout C closed)) :
    same (o + utf8Length layout) (o' + utf8Length layout) ∧
      same (o + utf8Length layout + 1) (o' + utf8Length layout + 1) ∧
      Along u v same (o + utf8Length layout + 1) (o' + utf8Length layout + 1) C := by
  have hsize : Char.utf8Size '{' = 1 := by decide
  have hbrace := Along.right (P := Form.ofText layout) h
  have hinside := Along.right (P := [some '{']) hbrace
  simp only [fill_ofText, fill_some, fill_nil, utf8Length_cons, utf8Length_nil, hsize,
    Nat.add_zero] at hbrace hinside
  exact ⟨hbrace.start, hinside.start, hinside.left⟩

end Group

namespace Reading

/-- One key group: the names in it, and what is read after it. -/
def group (names : Nat → List Char → List Event) (f : List Char → Nat → Cursor → Reading)
    (start : Nat) (k : Cursor) : Reading :=
  match Group.read? k with
  | some g => ⟨g.faults ++ names g.inside g.content ++ (f g.content start g.next).events,
      (f g.content start g.next).next⟩
  | none => nothing k

variable {names : Nat → List Char → List Event} {f : List Char → Nat → Cursor → Reading}
  {start : Nat} {k : Cursor}

theorem group_of_read? {g : Group} (h : Group.read? k = some g) :
    group names f start k = ⟨g.faults ++ names g.inside g.content ++
      (f g.content start g.next).events, (f g.content start g.next).next⟩ := by
  unfold group
  rw [h]

theorem group_of_none (h : Group.read? k = none) : group names f start k = nothing k := by
  unfold group
  rw [h]

/-- A half typed group is one in both spellings. -/
theorem respelt_faults {same : Nat → Nat → Prop} {g : Group} {brace' : Nat}
    (hbrace : same g.brace brace') (hinside : same (g.brace + 1) (brace' + 1))
    (content rest : List Char) :
    List.Forall₂ (Event.Respelt sort u v same) g.faults
      (Group.parts g.closed brace' content rest).faults := by
  unfold Group.faults
  rw [Group.parts_closed, Group.parts_brace]
  cases g.closed with
  | true => exact .nil
  | false => exact .cons (.fault ⟨rfl, rfl, rfl, hbrace, hinside⟩) .nil

theorem respells_group (hu : Inert u) (hv : Inert v)
    (hnames : ∀ content, ∃ C, Opens sort u v names content C ∧ f (fill v C) = f content)
    (hf : ∀ content k, Respells sort u v (f content) start k) :
    Respells sort u v (group names f) start k := by
  intro Q hQ hrest
  cases hread : Group.read? k with
  | none =>
      rw [group_of_none hread] at hrest ⊢
      refine ⟨[], ?_, ?_, trivial, rfl, ?_⟩
      · rw [List.nil_append, cursor, hrest]
        rfl
      · rw [past, hrest]
        rfl
      · intro same start' o' _ _
        rw [List.nil_append, group_of_none (Group.read?_eq_none hu hv hread hrest o')]
        exact ⟨rfl, .nil⟩
  | some g =>
      rw [group_of_read? hread] at hrest ⊢
      obtain ⟨C, hC, hcontent⟩ := hnames g.content
      obtain ⟨R, hnext, hafter, hR, hholes, hrespelt⟩ := hf g.content g.next Q hQ hrest
      have hRQ : fill u (R ++ Q) = g.next.rest := by
        rw [hnext]
        rfl
      obtain ⟨layout, hk, hbrace, hg, hthere⟩ := Group.exists_form hu hv hread hC.fill_eq hRQ
      have hinside : g.inside = k.offset + utf8Length layout + 1 := by rw [Group.inside, hbrace]
      refine ⟨Group.form layout C g.closed ++ R, by rw [List.append_assoc]; exact hk, ?_,
        (Group.guarded_form hC.guarded).append hR, ?_, fun same start' o' hstart halong => ?_⟩
      · show (f g.content start g.next).next = _
        rw [hafter, ← past_past, ← hg]
      · show _ = nameSpans sort u (g.faults ++ names g.inside g.content ++ _)
        rw [nameSpans_append, nameSpans_append, nameSpans_eq_nil (filterMap_faults
          (fun _ => rfl) g), ← hholes, hinside, ← hC.holes_eq, holes_append, Group.holes_form, hg]
        rfl
      · -- the group is read there with the other filling of its names
        obtain ⟨hbrace', hinside', hwithin⟩ := Group.along_form halong.left
        have hread' := hthere o'
        rw [List.append_assoc, group_of_read? hread', Group.parts_content, hcontent]
        have hg' := @Group.parts_next v g.closed o' layout C (R ++ Q)
        have hinsideof : (Group.parts g.closed (o' + utf8Length layout) (fill v C)
            (fill v (R ++ Q))).inside = o' + utf8Length layout + 1 := by
          rw [Group.inside, Group.parts_brace]
        rw [hg', hinsideof]
        have hright := halong.right
        rw [hg] at hrespelt
        obtain ⟨hnext', hevents'⟩ := hrespelt same start' _ hstart hright
        refine ⟨?_, ?_⟩
        · rw [← past_past]
          exact hnext'
        · refine List.rel_append (List.rel_append ?_ ?_) ?_
          · rw [← hbrace] at hbrace' hinside'
            exact respelt_faults hbrace' hinside' _ _
          · rw [hinside]
            exact hC.respelt same _ _ hwithin
          · rw [hg]
            exact hevents'

end Reading

end Manuscript.Latex

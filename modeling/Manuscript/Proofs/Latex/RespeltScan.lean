/-
# Manuscript.Proofs.Latex.RespeltScan -- a scan does not tell spellings of a name apart

Every command is a group with a reader after it, or a reader without names, so both
spellings of a form are read alike up to the end of the command (`respells_readCommand`).
From the readings of single places the scan is followed as it was written, by induction
from its end (`exists_form`).
-/
import Manuscript.Proofs.Latex.Reading
import Manuscript.Proofs.Latex.RespeltGroup

namespace Manuscript.Latex

set_option autoImplicit false

open Text Text.Form

variable {sort : NameSort} {u v : List Char}

namespace Reading

/-! ## Environments -/

/-- A place found by searching for a text stays where it is when what follows changes. -/
theorem split_isPrefixOf {ending body rest : List Char} (hne : ending ≠ [])
    (h : Cursor.split ending.isPrefixOf (body ++ (ending ++ rest)) = (body, ending ++ rest))
    (rest' : List Char) :
    Cursor.split ending.isPrefixOf (body ++ (ending ++ rest')) = (body, ending ++ rest') := by
  have hprefix (x : List Char) (hx : ending.length ≤ x.length) (s s' : List Char) :
      ending.isPrefixOf (x ++ s) = true → ending.isPrefixOf (x ++ s') = true := by
    simp only [List.isPrefixOf_iff_prefix]
    intro hs
    have hin := List.prefix_of_prefix_length_le hs (List.prefix_append x s) hx
    exact hin.trans (List.prefix_append x s')
  induction body with
  | nil =>
      cases ending with
      | nil => exact absurd rfl hne
      | cons d ending =>
          have hfound : (d :: ending).isPrefixOf (d :: ending ++ rest') = true :=
            List.isPrefixOf_iff_prefix.2 (List.prefix_append _ _)
          simp only [List.nil_append, List.cons_append] at hfound ⊢
          rw [Cursor.split, if_pos hfound]
  | cons c body ih =>
      have hlength : ending.length ≤ (c :: (body ++ ending)).length := by
        rw [List.length_cons, List.length_append]
        omega
      have hhere : ¬ ending.isPrefixOf (c :: (body ++ (ending ++ rest))) = true := by
        intro hfound
        rw [List.cons_append, Cursor.split, if_pos hfound] at h
        cases (Prod.mk.inj h).1
      have hthere : ¬ ending.isPrefixOf (c :: (body ++ (ending ++ rest'))) = true := by
        intro hfound
        have := hprefix (c :: (body ++ ending)) hlength rest' rest
          (by simpa using hfound)
        exact hhere (by simpa using this)
      rw [List.cons_append, Cursor.split, if_neg hhere] at h
      rw [List.cons_append, Cursor.split, if_neg hthere,
        ih (Prod.ext (List.cons.inj (Prod.mk.inj h).1).2 (Prod.mk.inj h).2)]

theorem respells_verbatim (hu : Inert u) (name : String) (start : Nat) (k : Cursor) :
    Respells sort u v (fun start k => verbatim name ⟨start, k.offset⟩ k) start k := by
  intro Q hQ hrest
  beta_reduce at hrest ⊢
  have happend := Cursor.split_append (terminator name).isPrefixOf k.rest
  generalize hsplit : Cursor.split (terminator name).isPrefixOf k.rest = parts at happend
  obtain ⟨body, after⟩ := parts
  cases after with
  | nil =>
      -- no end is found, and nothing is left to be read
      rw [List.append_nil] at happend
      subst happend
      rw [verbatim_of_nil hsplit] at hrest ⊢
      obtain rfl := fill_eq_nil hu.nonempty hrest
      refine ⟨Form.ofText k.rest, ?_, ?_, guarded_ofText false _, ?_, ?_⟩
      · simp [cursor]
      · simp [past, Cursor.after]
      · rw [holes_ofText]
        rfl
      · intro same start' o' hstart halong
        have hrest' : (cursor v o' (Form.ofText k.rest ++ [])).rest = k.rest := by simp [cursor]
        rw [verbatim_of_nil (by rw [hrest']; exact hsplit)]
        refine ⟨by simp [past, Cursor.after, cursor], .cons (.fault ⟨rfl, rfl, rfl, ?_⟩) .nil⟩
        exact ⟨hstart, halong.start⟩
  | cons c cs =>
      obtain ⟨rest, hcs⟩ := List.isPrefixOf_iff_prefix.1 (isPrefixOf_of_split hsplit)
      rw [← hcs] at hsplit happend
      rw [verbatim_of_found hsplit] at hrest ⊢
      have hrest : fill u Q = rest := hrest
      subst hrest
      have hfill (w : List Char) (o : Nat) :
          (cursor w o (Form.ofText (body ++ terminator name) ++ Q)).rest =
            body ++ (terminator name ++ fill w Q) := by simp [cursor]
      refine ⟨Form.ofText (body ++ terminator name), ?_, ?_, guarded_ofText false _, ?_, ?_⟩
      · have hk : fill u (Form.ofText (body ++ terminator name) ++ Q) = k.rest :=
          (hfill u k.offset).trans happend
        rw [cursor, hk]
      · simp [past, Nat.add_assoc]
      · rw [holes_ofText]
        rfl
      · intro same start' o' _ _
        have hthere := split_isPrefixOf (by simp [terminator]) (happend ▸ hsplit) (fill v Q)
        rw [verbatim_of_found (by rw [hfill]; exact hthere)]
        exact ⟨by simp [past, cursor, Nat.add_assoc], .cons (.verbatim rfl) .nil⟩

/-- What the name in the group of a begin command opens. -/
def opened (content : List Char) (start : Nat) (k : Cursor) : Reading :=
  match trim content with
  | [] => nothing k
  | word =>
      if Command.isVerbatim (String.ofList word) then
        verbatim (String.ofList word) ⟨start, k.offset⟩ k
      else ⟨[.environmentOpened (String.ofList word) ⟨start, k.offset⟩], k⟩

/-- What the name in the group of an end command closes. -/
def closed (content : List Char) (start : Nat) (k : Cursor) : Reading :=
  match trim content with
  | [] => nothing k
  | word => ⟨[.environmentClosed (String.ofList word) ⟨start, k.offset⟩], k⟩

theorem opening_eq (start : Nat) (k : Cursor) :
    opening start k = group (fun _ _ => []) opened start k := by
  unfold opening group
  cases Group.read? k with
  | none => rfl
  | some g =>
      simp only [Group.name?, Symbol.trimmed?, opened]
      cases trim g.content with
      | nil => simp [nothing]
      | cons c word =>
          by_cases hverbatim : Command.isVerbatim (String.ofList (c :: word)) = true
          · simp only [Symbol.ofText, hverbatim, if_true, List.append_nil]
          · simp only [Symbol.ofText, hverbatim, List.append_nil]
            rfl

theorem closing_eq (start : Nat) (k : Cursor) :
    closing start k = group (fun _ _ => []) closed start k := by
  unfold closing group
  cases Group.read? k with
  | none => rfl
  | some g =>
      simp only [Group.name?, Symbol.trimmed?, closed]
      cases trim g.content with
      | nil => simp [nothing]
      | cons c word => simp [Symbol.ofText]

theorem respells_opened (hu : Inert u) (content : List Char) (start : Nat) (k : Cursor) :
    Respells sort u v (opened content) start k := by
  unfold opened
  cases trim content with
  | nil => exact respells_nothing start k
  | cons c word =>
      by_cases hverbatim : Command.isVerbatim (String.ofList (c :: word)) = true
      · simp only [hverbatim, if_true]
        exact respells_verbatim hu _ start k
      · simp only [hverbatim]
        exact @respells_here sort u v (fun start offset => [.environmentOpened _ ⟨start, offset⟩])
          start k rfl
          fun _ _ _ hstart hoffset => .cons (.environmentOpened _ ⟨hstart, hoffset⟩) .nil

theorem respells_closed (content : List Char) (start : Nat) (k : Cursor) :
    Respells sort u v (closed content) start k := by
  unfold closed
  cases trim content with
  | nil => exact respells_nothing start k
  | cons c word =>
      exact @respells_here sort u v (fun start offset => [.environmentClosed _ ⟨start, offset⟩])
        start k rfl fun _ _ _ hstart hoffset => .cons (.environmentClosed _ ⟨hstart, hoffset⟩) .nil

theorem respells_opening (hu : Inert u) (hv : Inert v) (start : Nat) (k : Cursor) :
    Respells sort u v opening start k := by
  rw [show opening = group (fun _ _ => []) opened from
    funext fun start => funext fun k => opening_eq start k]
  exact respells_group hu hv (fun content => ⟨_, opens_nothing content, by rw [fill_ofText]⟩)
    fun content k => respells_opened hu content start k

theorem respells_closing (hu : Inert u) (hv : Inert v) (start : Nat) (k : Cursor) :
    Respells sort u v closing start k := by
  rw [show closing = group (fun _ _ => []) closed from
    funext fun start => funext fun k => closing_eq start k]
  exact respells_group hu hv (fun content => ⟨_, opens_nothing content, by rw [fill_ofText]⟩)
    fun content k => respells_closed content start k

/-! ## Keys -/

theorem label_eq (start : Nat) (k : Cursor) :
    label k = group (fun o content => (Symbol.trimmed? o content).toList.map .label)
      (fun _ _ k => nothing k) start k := by
  unfold label group
  cases Group.read? k with
  | none => rfl
  | some g =>
      simp only [Group.name?, nothing, List.append_nil]
      cases Symbol.trimmed? g.inside g.content <;> rfl

theorem keys_eq (event : Symbol → Event) (start : Nat) (k : Cursor) :
    keys event k = group (fun o content => (namesFrom o (betweenCommas content)).map event)
      (fun _ _ k => nothing k) start k := by
  unfold keys group
  cases Group.read? k with
  | none => rfl
  | some g => simp [Group.names, nothing]

theorem references_eq (isRange : Bool) (start : Nat) (k : Cursor) :
    references isRange k = group
      (fun o content => (namesFrom o (betweenCommas content)).map .reference)
      (fun _ _ k => if isRange then keys .reference k else nothing k) start k := by
  unfold references group
  cases Group.read? k with
  | none => rfl
  | some g => rfl

/-- A group of names that nothing more is read after. -/
theorem respells_names (hu : Inert u) (hv : Inert v) {names : Nat → List Char → List Event}
    (hnames : ∀ content, ∃ C, Opens sort u v names content C) (start : Nat) (k : Cursor) :
    Respells sort u v (group names fun _ _ k => nothing k) start k := by
  refine respells_group hu hv (fun content => ?_) fun _ k => respells_nothing start k
  obtain ⟨C, hC⟩ := hnames content
  exact ⟨C, hC, rfl⟩

theorem respells_label (hu : Inert u) (hv : Inert v) (start : Nat) (k : Cursor) :
    Respells sort u v (fun _ k => label k) start k := by
  rw [show (fun _ k => label k) = group _ _ from
    funext fun start => funext fun k => label_eq start k]
  refine respells_names hu hv (fun content => ?_) start k
  cases sort with
  | label =>
      exact @exists_opens_trimmed .label u v Event.label (fun _ => rfl) (fun _ _ _ h => .label h)
        hu hv content
  | citation =>
      exact ⟨_, opens_closed (fun _ => rfl) (fun _ _ _ h => .label h)
        (forall₂_trimmed? content)⟩

theorem respells_references (hu : Inert u) (hv : Inert v) (isRange : Bool) (start : Nat)
    (k : Cursor) : Respells sort u v (fun _ k => references isRange k) start k := by
  have hnames (content : List Char) : ∃ C, Opens sort u v
      (fun o content => (namesFrom o (betweenCommas content)).map .reference) content C := by
    cases sort with
    | label =>
        exact @exists_opens_namesFrom .label u v Event.reference (fun _ => rfl)
          (fun _ _ _ h => .reference h) hu hv content
    | citation =>
        exact ⟨_, opens_closed (fun _ => rfl) (fun _ _ _ h => .reference h)
          (forall₂_namesFrom (betweenCommas content))⟩
  have hkeys (start : Nat) (k : Cursor) :
      Respells sort u v (fun _ k => keys .reference k) start k := by
    rw [show (fun _ k => keys .reference k) = group _ _ from
      funext fun start => funext fun k => keys_eq .reference start k]
    exact respells_names hu hv hnames start k
  rw [show (fun _ k => references isRange k) = group _ _ from
    funext fun start => funext fun k => references_eq isRange start k]
  refine respells_group hu hv (fun content => ?_) fun _ k => ?_
  · obtain ⟨C, hC⟩ := hnames content
    exact ⟨C, hC, rfl⟩
  · cases isRange with
    | true => exact hkeys start k
    | false => exact respells_nothing start k

/-- A reader after optional arguments. -/
theorem respells_options (hu : Inert u) (hv : Inert v) {f : Nat → Cursor → Reading} {start : Nat}
    {k : Cursor} (hf : Respells sort u v f start (skipOptions k)) :
    Respells sort u v (fun start k => f start (skipOptions k)) start k := by
  have hoptions : Respells sort u v (fun _ k => nothing (skipOptions k)) start k :=
    respells_of_uniform hu hv (reaches_skipOptions k) rfl fun F _ => uniform_options F
  exact hoptions.andThen hf

theorem citations_eq (start : Nat) (k : Cursor) : citations k = group (fun o content =>
      ((namesFrom o (betweenCommas content)).filter (·.name ≠ "*")).map .citation)
    (fun _ _ k => nothing k) start (skipOptions k) := by
  unfold citations group
  cases Group.read? (skipOptions k) with
  | none => rfl
  | some g => simp only [Group.names, nothing, List.append_nil]

/-- A star is no key that a text can cite. -/
theorem respells_citations (hu : Inert u) (hv : Inert v)
    (hstar : sort = .citation → String.ofList u ≠ "*" ∧ String.ofList v ≠ "*")
    (start : Nat) (k : Cursor) : Respells sort u v (fun _ k => citations k) start k := by
  rw [show (fun _ k => citations k) = fun start k => group _ _ start (skipOptions k) from
    funext fun start => funext fun k => citations_eq start k]
  refine respells_options hu hv (respells_names hu hv (fun content => ?_) start _)
  cases sort with
  | label =>
      exact ⟨_, opens_closed (fun _ => rfl) (fun _ _ _ h => .citation h) fun o o' =>
        List.rel_filter (fun s s' h => by simp only [h]) (forall₂_namesFrom _ o o')⟩
  | citation =>
      obtain ⟨hold, hnew⟩ := hstar rfl
      refine @exists_opens_kept .citation u v Event.citation (fun _ => rfl)
        (fun _ _ _ h => .citation h) hu hv ?_ _ ?_ ?_ content
      · rintro same s s' (_ | _ | _ | _ | _ | h)
        exact h.name
      · intro s s' h
        rw [h]
      · rintro s (hs | hs) <;> simp [hs, hold, hnew]

theorem includes_eq (kind : IncludeKind) (start : Nat) (k : Cursor) :
    includes kind k = group (fun o content => (namesFrom o (betweenCommas content)).map fun path =>
        .inclusion ⟨kind, path.name, path.span⟩)
      (fun _ _ k => nothing k) start (skipOptions k) :=
  keys_eq _ start _

theorem respells_includes (hu : Inert u) (hv : Inert v) (kind : IncludeKind) (start : Nat)
    (k : Cursor) : Respells sort u v (fun _ k => includes kind k) start k := by
  rw [show (fun _ k => includes kind k) = fun start k => group _ _ start (skipOptions k) from
    funext fun start => funext fun k => includes_eq kind start k]
  refine respells_options hu hv (respells_names hu hv (fun content => ?_) start _)
  exact ⟨_, opens_closed (fun _ => rfl) (fun _ _ _ h => .inclusion rfl h)
    (forall₂_namesFrom (betweenCommas content))⟩

/-! ## Commands -/

theorem respells_heading (hu : Inert u) (hv : Inert v) (level start : Nat) (k : Cursor) :
    Respells sort u v (fun start k => heading start level k) start k := by
  refine respells_of_uniform hu hv (from_heading start level k) ?_
    fun F _ => uniform_heading level F
  simp only [heading]
  split <;> rfl

theorem respells_definition (hu : Inert u) (hv : Inert v) (start : Nat) (k : Cursor) :
    Respells sort u v (fun _ k => definition k) start k := by
  refine respells_of_uniform hu hv (from_definition k) ?_ fun F hF => uniform_definition hF
  simp only [definition]
  split <;> split <;> rfl

theorem respells_arguments (hu : Inert u) (hv : Inert v)
    (hstar : sort = .citation → String.ofList u ≠ "*" ∧ String.ofList v ≠ "*")
    (name : String) (start : Nat) (k : Cursor) :
    Respells sort u v (fun start k => arguments start name k) start k := by
  unfold arguments
  by_cases hbegin : name = "begin"
  · simp only [hbegin, if_true]
    exact respells_opening hu hv start k
  by_cases hend : name = "end"
  · simp only [hend, if_true]
    exact respells_closing hu hv start k
  by_cases hlabel : name = "label"
  · simp only [hlabel, if_true]
    exact respells_label hu hv start k
  simp only [hbegin, hend, hlabel, if_false]
  cases Command.includeKind? name with
  | some kind => exact respells_includes hu hv kind start k
  | none =>
  cases Command.isLabelReference name with
  | true => exact respells_references hu hv _ start k
  | false =>
  cases Command.isCitation name with
  | true => exact respells_citations hu hv hstar start k
  | false =>
  cases Command.sectionLevel? name with
  | some level => exact respells_heading hu hv level start k
  | none =>
  cases Command.isDefinition name with
  | true => exact respells_definition hu hv start k
  | false => exact respells_nothing start k

end Reading

/-- A command whose name has been read in one filling has it in the other. -/
theorem commandName_respelt {F : Form} {name : List Char}
    (hF : Guarded false (Form.ofText name ++ F))
    (h : commandName (fill u (Form.ofText name ++ F)) = (name, fill u F)) :
    commandName (fill v (Form.ofText name ++ F)) = (name, fill v F) := by
  obtain ⟨name', F', hform, -, hall⟩ := commandName_form hF
  have hu := hall u
  rw [h] at hu
  obtain rfl := (Prod.mk.inj hu).1
  have hv := hall v
  rwa [← List.append_cancel_left hform] at hv

/-- The name is the same, and so is the first place after it. -/
theorem respells_readCommand_letters (hu : Inert u) (hv : Inert v)
    (hstar : sort = .citation → String.ofList u ≠ "*" ∧ String.ofList v ≠ "*")
    (start : Nat) {k : Cursor} {c : Char} {cs : List Char} (hk : k.rest = c :: cs)
    (hletter : isLetter c = true) : Reading.Respells sort u v readCommand start k := by
  intro Q hQ hrest
  generalize hname : commandName k.rest = parts
  obtain ⟨name, rest⟩ := parts
  have happend := commandName_append k.rest
  rw [hname] at happend
  rw [readCommand_letters hk hletter hname] at hrest ⊢
  obtain ⟨P, hafter, hnext, hP, hholes, hrespelt⟩ :=
    Reading.respells_arguments hu hv hstar (String.ofList name) start (k.after name rest) Q hQ hrest
  have hrest' : fill u (P ++ Q) = rest := (congrArg Cursor.rest hafter).symm
  have hfill : fill u (Form.ofText name ++ (P ++ Q)) = k.rest := by
    rw [fill_append, fill_ofText, hrest', happend]
  have hF : Guarded false (Form.ofText name ++ (P ++ Q)) :=
    (guarded_ofText false name).append (hP.append hQ)
  have hthere : commandName (fill v (Form.ofText name ++ (P ++ Q))) = (name, fill v (P ++ Q)) :=
    commandName_respelt hF (by rw [hfill, hname, hrest'])
  obtain ⟨R, hR⟩ := hF.exists_of_fill (hfill.trans hk)
  refine ⟨Form.ofText name ++ P, ?_, ?_, (guarded_ofText false name).append hP, ?_, ?_⟩
  · rw [List.append_assoc, cursor, hfill]
  · show (Reading.arguments _ _ _).next = _
    rw [hnext, ← past_past]
    simp [past, Cursor.after]
  · rw [holes_append, holes_ofText, fill_ofText]
    exact hholes
  · intro same start' o' hstart halong
    have hright := halong.right
    rw [fill_ofText, fill_ofText] at hright
    obtain ⟨hnext', hevents'⟩ := hrespelt same start' _ hstart hright
    have hcursor : (cursor v o' (Form.ofText name ++ P ++ Q)).rest =
        fill v (Form.ofText name ++ (P ++ Q)) := by rw [List.append_assoc, cursor]
    have hname' : commandName (cursor v o' (Form.ofText name ++ P ++ Q)).rest =
        (name, fill v (P ++ Q)) := by rw [hcursor, hthere]
    have hmove : (cursor v o' (Form.ofText name ++ P ++ Q)).after name (fill v (P ++ Q)) =
        cursor v (o' + utf8Length name) (P ++ Q) := rfl
    rw [readCommand_letters (hcursor.trans (by rw [hR]; rfl)) hletter hname', hmove]
    refine ⟨?_, .cons (.command _) hevents'⟩
    rw [hnext', ← past_past]
    simp [past]

theorem respells_readCommand_symbol (start : Nat) {k : Cursor} {c : Char} {cs : List Char}
    (hk : k.rest = c :: cs) (hletter : isLetter c ≠ true) :
    Reading.Respells sort u v readCommand start k := by
  intro Q hQ hrest
  rw [readCommand_symbol hk hletter] at hrest ⊢
  have hrest : fill u Q = cs := hrest
  subst hrest
  refine ⟨[some c], ?_, ?_, trivial, rfl, ?_⟩
  · rw [cursor, ← show k.rest = fill u ([some c] ++ Q) from hk]
  · simp [past, Reading.nothing]
  · intro same start' o' _ _
    have hthere : (cursor v o' ([some c] ++ Q)).rest = c :: fill v Q := rfl
    rw [readCommand_symbol hthere hletter]
    exact ⟨by simp [past, cursor, Reading.nothing], .nil⟩

theorem respells_readCommand (hu : Inert u) (hv : Inert v)
    (hstar : sort = .citation → String.ofList u ≠ "*" ∧ String.ofList v ≠ "*")
    (start : Nat) (k : Cursor) :
    Reading.Respells sort u v readCommand start k := by
  cases hk : k.rest with
  | nil =>
      intro Q hQ hrest
      rw [readCommand_nil hk] at hrest ⊢
      obtain rfl := fill_eq_nil hu.nonempty (hrest.trans hk)
      obtain ⟨offset, rest⟩ := k
      obtain rfl : rest = [] := hk
      refine ⟨[], rfl, rfl, trivial, rfl, ?_⟩
      intro same start' o' _ _
      rw [readCommand_nil rfl]
      exact ⟨rfl, .nil⟩
  | cons c cs =>
      by_cases hletter : isLetter c = true
      · exact respells_readCommand_letters hu hv hstar start hk hletter
      · exact respells_readCommand_symbol start hk hletter

/-! ## The scan -/

/-- The reading at a cursor. -/
def Reading.here (k : Cursor) : Reading :=
  match k.rest with
  | [] => .nothing k
  | c :: cs => .at k.offset c cs

theorem along_cons {same : Nat → Nat → Prop} {o o' : Nat} {c : Char} {P : Form}
    (h : Along u v same o o' (some c :: P)) :
    same o o' ∧ Along u v same (o + c.utf8Size) (o' + c.utf8Size) P := by
  have hright := Along.right (P := [some c]) (Q := P) h
  simp only [fill_some, fill_nil, utf8Length_cons, utf8Length_nil, Nat.add_zero] at hright
  exact ⟨h.start, hright⟩

/-- What a character begins is read alike if what follows it is. -/
theorem respells_of_token {offset : Nat} {c : Char} {cs : List Char}
    (h : Reading.Respells sort u v (fun start k => Reading.token start c k) offset
      ⟨offset + c.utf8Size, cs⟩) :
    Reading.Respells sort u v (fun _ => Reading.here) offset ⟨offset, c :: cs⟩ := by
  intro Q hQ hrest
  obtain ⟨P, hk, hnext, hP, hholes, hrespelt⟩ := h Q hQ hrest
  refine ⟨some c :: P, ?_, ?_, hP.mono _, hholes, ?_⟩
  · have hcs := congrArg Cursor.rest hk
    exact congrArg (fun rest => Cursor.mk offset (c :: rest)) hcs
  · show (Reading.token offset c _).next = _
    rw [hnext]
    simp [past, Nat.add_assoc]
  · intro same _ o' _ halong
    obtain ⟨hstart, hright⟩ := along_cons halong
    obtain ⟨hnext', hevents'⟩ := hrespelt same o' _ hstart hright
    refine ⟨?_, hevents'⟩
    show (Reading.token o' c (cursor v (o' + c.utf8Size) (P ++ Q))).next = _
    rw [hnext']
    simp [past, Nat.add_assoc]

/-- A brace that is read by itself. -/
theorem respells_brace {offset : Nat} {c : Char} {cs : List Char} {event : Nat → Event}
    (hat : ∀ o cs, Reading.at o c cs = ⟨[event o], ⟨o + c.utf8Size, cs⟩⟩) (hsize : c.utf8Size = 1)
    (hnone : ∀ o, (event o).named? sort = none)
    (hrespelt : ∀ same o o', same o o' → same (o + 1) (o' + 1) →
      Event.Respelt sort u v same (event o) (event o')) :
    Reading.Respells sort u v (fun _ => Reading.here) offset ⟨offset, c :: cs⟩ := by
  intro Q hQ hrest
  have hhere (o : Nat) (cs : List Char) :
      Reading.here ⟨o, c :: cs⟩ = ⟨[event o], ⟨o + c.utf8Size, cs⟩⟩ := hat o cs
  beta_reduce at hrest ⊢
  rw [hhere] at hrest ⊢
  have hrest : fill u Q = cs := hrest
  subst hrest
  refine ⟨[some c], rfl, by simp [past], trivial, ?_, ?_⟩
  · exact (nameSpans_eq_nil (by simp [hnone])).symm
  · intro same _ o' _ halong
    obtain ⟨hstart, hright⟩ := along_cons halong
    have hstop := hright.start
    rw [hsize] at hstop
    rw [show cursor v o' ([some c] ++ Q) = ⟨o', c :: fill v Q⟩ from rfl, hhere]
    exact ⟨by simp [past], .cons (hrespelt same _ _ hstart hstop) .nil⟩

theorem respells_at (hu : Inert u) (hv : Inert v)
    (hstar : sort = .citation → String.ofList u ≠ "*" ∧ String.ofList v ≠ "*")
    (offset : Nat) (c : Char) (cs : List Char) :
    Reading.Respells sort u v (fun _ => Reading.here) offset ⟨offset, c :: cs⟩ := by
  by_cases hopen : c = '{'
  · subst hopen
    exact respells_brace (fun _ _ => rfl) (by decide) (fun _ => rfl)
      fun _ _ _ hstart hstop => .braceOpened hstart hstop
  by_cases hclose : c = '}'
  · subst hclose
    exact respells_brace (fun _ _ => rfl) (by decide) (fun _ => rfl)
      fun _ _ _ hstart hstop => .braceClosed hstart hstop
  apply respells_of_token
  by_cases hcommand : c = '\\'
  · subst hcommand
    exact respells_readCommand hu hv hstar offset _
  by_cases hcomment : c = '%'
  · subst hcomment
    exact Reading.respells_of_uniform hu hv (Cursor.reaches_upTo _ _) rfl
      fun F _ => Reading.uniform_comment F
  · unfold Reading.token
    simp only [hcommand, hcomment, hopen, hclose, if_false]
    exact Reading.respells_nothing offset _

theorem scan_of_cons {k : Cursor} {c : Char} {cs : List Char} (h : k.rest = c :: cs) :
    scan k = (Reading.here k).events ++ scan (Reading.here k).next := by
  obtain ⟨offset, rest⟩ := k
  obtain rfl : rest = c :: cs := h
  exact scan_cons offset c cs

/-- **A form of the text, with the name open wherever it is of the sort, is read alike with any
inert name.** -/
theorem exists_form (hu : Inert u) (hv : Inert v)
    (hstar : sort = .citation → String.ofList u ≠ "*" ∧ String.ofList v ≠ "*")
    (k : Cursor) :
    ∃ F, fill u F = k.rest ∧ Guarded false F ∧ holes u k.offset F = nameSpans sort u (scan k) ∧
      ∀ same o', Along u v same k.offset o' F →
        List.Forall₂ (Event.Respelt sort u v same) (scan k) (scan (cursor v o' F)) := by
  induction k using scan_induction with
  | nil offset =>
      refine ⟨[], rfl, trivial, ?_, ?_⟩
      · rw [scan_nil]
        rfl
      · intro same o' _
        rw [scan_nil, cursor, fill_nil, scan_nil]
        exact .nil
  | cons offset c cs ih =>
      obtain ⟨Q, hQ, hguarded, hholes, hscan⟩ := ih
      obtain ⟨P, hk, hnext, hP, hholes', hrespelt⟩ :=
        respells_at hu hv hstar offset c cs Q hguarded hQ
      have hnext : (Reading.at offset c cs).next = past u offset P Q := hnext
      have hfill : fill u (P ++ Q) = c :: cs := (congrArg Cursor.rest hk).symm
      -- the first character stands in the form as well, so the scan of the other filling goes on
      obtain ⟨R, hR⟩ := (hP.append hguarded).exists_of_fill hfill
      refine ⟨P ++ Q, hfill, hP.append hguarded, ?_, ?_⟩
      · rw [scan_cons, nameSpans_append, ← hholes, holes_append, hnext]
        exact congrArg (· ++ _) hholes'
      · intro same o' halong
        obtain ⟨hnext', hevents'⟩ := hrespelt same o' o' halong.start halong.left
        have hthere : (cursor v o' (P ++ Q)).rest = c :: fill v R := by
          rw [hR]
          rfl
        rw [scan_cons, scan_of_cons hthere, hnext']
        refine List.rel_append hevents' ?_
        have hright := halong.right
        have := hscan same (o' + utf8Length (fill v P))
        rw [hnext] at this ⊢
        exact this hright

end Manuscript.Latex

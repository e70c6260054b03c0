/-
# Manuscript.Proofs.Latex.Group -- what a key group takes from a text

A key group is blanks and comments, a brace, its content and, if it is closed, one
more brace; reading goes on right after it (`Group.exists_of_read?`).  Whatever its
names are, they are written in it in their order: the first after the brace, any other
after a comma, and a blank before a name is a separator too (`Group.placed_names`,
`Group.placed_name?`).
-/
import Manuscript.Latex.Group
import Manuscript.Proofs.Text.Placement

namespace Manuscript.Latex

set_option autoImplicit false

open Text

/-! ## Names and separators -/

/-- The name between the blanks of a text that a separator comes before. -/
theorem placed_trimmed? (offset : Nat) {sep : Char} (hsep : isSeparator sep = true)
    (content : List Char) :
    Placed (Solid isBlank) offset (sep :: content)
      (Symbol.trimmed? (offset + sep.utf8Size) content).toList := by
  obtain ⟨right, hcontent, hleft, -, hsolid⟩ := exists_trim content
  unfold Symbol.trimmed?
  split
  · exact .nil _ _
  · rename_i hne
    have hplaced := Placed.single offset hsep hleft (hsolid hne) right
    rw [← hcontent] at hplaced
    simpa [Nat.add_assoc] using hplaced

theorem betweenCommas_comma (cs : List Char) :
    betweenCommas (',' :: cs) = [] :: betweenCommas cs := by
  rw [betweenCommas, if_pos rfl]

theorem betweenCommas_cons {c : Char} (hc : c ≠ ',') {cs s : List Char} {ss : List (List Char)}
    (h : betweenCommas cs = s :: ss) : betweenCommas (c :: cs) = (c :: s) :: ss := by
  rw [betweenCommas, if_neg hc, h]

/-- The stretches of a text, as what comes before the first comma and what comes after. -/
theorem betweenCommas_induction {motive : List Char → Prop}
    (last : ∀ s, ',' ∉ s → motive s)
    (more : ∀ s cs, ',' ∉ s → motive cs → motive (s ++ ',' :: cs)) (cs : List Char) :
    motive cs := by
  induction hn : cs.length using Nat.strong_induction_on generalizing cs with
  | _ n ih =>
      by_cases hcomma : ',' ∈ cs
      · obtain ⟨s, rest, rfl, hs⟩ := List.eq_append_cons_of_mem hcomma
        refine more s rest hs (ih rest.length ?_ rest rfl)
        rw [← hn, List.length_append, List.length_cons]
        omega
      · exact last cs hcomma

theorem betweenCommas_last {s : List Char} (hs : ',' ∉ s) : betweenCommas s = [s] := by
  induction s with
  | nil => rfl
  | cons c s ih =>
      rw [List.mem_cons, not_or] at hs
      exact betweenCommas_cons (Ne.symm hs.1) (ih hs.2)

theorem betweenCommas_append {s : List Char} (hs : ',' ∉ s) (cs : List Char) :
    betweenCommas (s ++ ',' :: cs) = s :: betweenCommas cs := by
  induction s with
  | nil => exact betweenCommas_comma cs
  | cons c s ih =>
      rw [List.mem_cons, not_or] at hs
      exact betweenCommas_cons (Ne.symm hs.1) (ih hs.2)

/-- The names between the commas of a text that a separator of one byte comes before. -/
theorem placed_namesFrom (content : List Char) {offset : Nat} {sep : Char}
    (hsep : isSeparator sep = true) (hsize : sep.utf8Size = 1) :
    Placed (Solid isBlank) offset (sep :: content)
      (namesFrom (offset + 1) (betweenCommas content)) := by
  induction content using betweenCommas_induction generalizing offset sep with
  | last s hs =>
      rw [betweenCommas_last hs, namesFrom, namesFrom, List.append_nil, ← hsize]
      exact placed_trimmed? offset hsep s
  | more s cs hs ih =>
      rw [betweenCommas_append hs, namesFrom, ← List.cons_append]
      have hfirst := placed_trimmed? offset hsep s
      rw [hsize] at hfirst
      apply hfirst.append
      rw [utf8Length_cons, hsize, show offset + (1 + utf8Length s) = offset + 1 + utf8Length s by
        omega]
      exact ih (by decide) (by decide)

namespace Group

/-! ## Where a group stands -/

/-- The brace that closes a group, if it is closed. -/
def closing (g : Group) : List Char := if g.closed then ['}'] else []

/-- The group is written in its body, and reading goes on after it. -/
structure Takes (brace : Nat) (body : List Char) (g : Group) : Prop where
  brace_eq : g.brace = brace
  body_eq : body = g.content ++ (g.closing ++ g.next.rest)
  next_eq : g.next.offset = brace + 1 + utf8Length g.content + utf8Length g.closing

theorem takes_closedBy {brace : Nat} {body content rest : List Char}
    (h : body = content ++ '}' :: rest) : Takes brace body (closedBy brace content rest) :=
  ⟨rfl, h, rfl⟩

theorem takes_abandoned {brace : Nat} {body content rest : List Char}
    (h : body = content ++ rest) : Takes brace body (abandoned brace content rest) :=
  ⟨rfl, h, rfl⟩

theorem takes_balanced? {brace : Nat} {body : List Char} {g : Group}
    (h : balanced? brace body = some g) : Takes brace body g := by
  unfold balanced? at h
  split at h
  · rename_i content c rest hc
    obtain ⟨after, hafter⟩ := untilClosing?_rest hc
    cases hafter
    split at h
    · cases h
    · cases h
      exact takes_closedBy (untilClosing?_append hc).symm
  · cases h

theorem takes_ofBody (brace : Nat) (body : List Char) : Takes brace body (ofBody brace body) := by
  have hplain := (Cursor.split_append endsPlain body).symm
  simp only [ofBody]
  split
  · rename_i rest hrest
    rw [hrest] at hplain
    exact takes_closedBy hplain
  · exact takes_abandoned hplain
  · exact takes_abandoned hplain
  · cases hb : balanced? brace body with
    | none => exact takes_abandoned hplain
    | some g => exact takes_balanced? hb

/-- A group that is read starts after blanks and comments with a brace. -/
theorem exists_of_read? {k : Cursor} {g : Group} (h : read? k = some g) :
    ∃ layout body, afterLayout false k.rest = (layout, '{' :: body) ∧
      g = ofBody (k.offset + utf8Length layout) body := by
  simp only [read?, skipLayout] at h
  generalize hl : afterLayout false k.rest = parts at h
  obtain ⟨layout, rest⟩ := parts
  simp only [Cursor.after] at h
  split at h
  · rename_i body
    cases h
    exact ⟨layout, body, rfl, rfl⟩
  · cases h

/-! ## The names of a group -/

theorem placed_names (g : Group) :
    Placed (Solid isBlank) g.brace ('{' :: g.content) g.names :=
  placed_namesFrom g.content (by decide) (by decide)

theorem placed_name? (g : Group) :
    Placed (Solid isBlank) g.brace ('{' :: g.content) g.name?.toList :=
  placed_trimmed? g.brace (by decide) g.content

/-- What is placed in the content of a group is held by the text up to where reading goes on. -/
theorem holds_of_read? {k : Cursor} {g : Group} (h : read? k = some g) {symbols : List Symbol}
    (hplaced : Placed (Solid isBlank) g.brace ('{' :: g.content) symbols) :
    k.Holds (Solid isBlank) g.next symbols := by
  obtain ⟨layout, body, hlayout, rfl⟩ := exists_of_read? h
  obtain ⟨hbrace, hbody, hnext⟩ := takes_ofBody (k.offset + utf8Length layout) body
  have hrest := afterLayout_append false k.rest
  rw [hlayout] at hrest
  generalize ofBody (k.offset + utf8Length layout) body = g at *
  refine ⟨layout ++ (('{' :: g.content) ++ g.closing), ?_, ?_, ?_⟩
  · rw [← hrest]
    show layout ++ '{' :: body = _
    rw [hbody]
    simp
  · rw [hnext]
    simp only [utf8Length_append, utf8Length_cons, show Char.utf8Size '{' = 1 by decide]
    omega
  · rw [hbrace] at hplaced
    have hall := hplaced.append (.nil _ g.closing)
    rw [List.append_nil] at hall
    exact hall.skip

end Group

end Manuscript.Latex

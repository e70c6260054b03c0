/-
# Manuscript.Proofs.Latex.Bridge -- from the name of a command to its keys

Between the name of a command and the group of its keys there may be layout, optional
arguments of a command that takes them, and the first group of a range of labels (`Bridge`).
Behind a bridge the keys are those of the group that comes next, for a command that skips
optional arguments (`Bridge.read?_skipOptions`) and for label references
(`Bridge.mem_references`).

The last key of a group stands behind the last comma (`mem_namesFrom_last`).
-/
import Manuscript.Proofs.Latex.Exposed
import Manuscript.Proofs.Latex.MarkupReading

namespace Manuscript.Latex

set_option autoImplicit false

open Text

/-! ## From the name of a command to its group -/

/-- What the analysis reads over between the name of a command and the group of its keys. -/
inductive Bridge (command : String) : List Char → Prop where
  | layout {w : List Char} : AllBlank isLayout w → Bridge command w
  /-- An optional argument whose brackets and braces match. -/
  | option {w content rest : List Char} : Command.takesOptions command = true →
      AllBlank isLayout w →
      untilBracket? 0 false (content ++ [']']) = some (content ++ [']'], []) →
      Bridge command rest → Bridge command (w ++ '[' :: (content ++ ']' :: rest))
  /-- The first group of a range of labels. -/
  | first {w content w' : List Char} : Command.isLabelRange command = true →
      AllBlank isLayout w → (∀ c ∈ content, Markup.isKey c = true) → AllBlank isLayout w' →
      Bridge command (w ++ '{' :: (content ++ '}' :: w'))

theorem afterLayout_layout {w : List Char} (hw : AllBlank isLayout w) {c : Char}
    (hc : isLayout c = false) (hpercent : c ≠ '%') (rest : List Char) :
    afterLayout false (w ++ c :: rest) = (w, c :: rest) := by
  induction w with
  | nil => simp [afterLayout, hc, hpercent]
  | cons d w ih =>
      have hd : isLayout d = true := hw d List.mem_cons_self
      have htail := ih fun e he => hw e (List.mem_cons_of_mem d he)
      simp [afterLayout, hd, htail]

theorem skipLayout_layout {w : List Char} (hw : AllBlank isLayout w) {c : Char}
    (hc : isLayout c = false) (hpercent : c ≠ '%') (o : Nat) (rest : List Char) :
    skipLayout ⟨o, w ++ c :: rest⟩ = ⟨o + utf8Length w, c :: rest⟩ := by
  rw [skipLayout, afterLayout_layout hw hc hpercent]
  rfl

theorem Group.read?_layout {w : List Char} (hw : AllBlank isLayout w) (o : Nat)
    (body : List Char) :
    Group.read? ⟨o, w ++ '{' :: body⟩ = some (Group.ofBody (o + utf8Length w) body) := by
  have hskip := skipLayout_layout hw (show isLayout '{' = false by decide) (by decide) o body
  rw [Group.read?_brace (by rw [hskip]), hskip]

theorem option?_layout {w content : List Char} (hw : AllBlank isLayout w)
    (hcontent : untilBracket? 0 false (content ++ [']']) = some (content ++ [']'], []))
    (o : Nat) (rest : List Char) :
    option? ⟨o, w ++ '[' :: (content ++ ']' :: rest)⟩ =
      some ⟨o + utf8Length (w ++ '[' :: (content ++ [']'])), rest⟩ := by
  have hskip := skipLayout_layout hw (show isLayout '[' = false by decide) (by decide) o
    (content ++ ']' :: rest)
  have hread := (of_untilBracket? hcontent).2 rest
  rw [List.append_assoc] at hread
  rw [option?_bracket (by rw [hskip]), hskip, utf8Length_append, ← Nat.add_assoc]
  exact congrArg _ hread

theorem takesOptions_of_isLabelReference :
    (∀ command ∈ Command.labelReferences, Command.takesOptions command = false) ∧
      ∀ command ∈ Command.labelRanges, command ∈ Command.labelReferences := by
  decide +kernel

namespace Bridge

variable {command : String} {between : List Char}

/-- A name ends where a bridge begins. -/
theorem endsName (h : Bridge command between) (body : List Char) :
    Markup.EndsName (between ++ '{' :: body) := by
  have hlayout {w : List Char} {c : Char} {rest : List Char} (hw : AllBlank isLayout w)
      (hc : isLetter c = false ∧ c ≠ '*') : Markup.EndsName (w ++ c :: rest) := by
    cases w with
    | nil => exact ⟨c, rest, rfl, hc⟩
    | cons d w =>
        refine ⟨d, w ++ c :: rest, rfl, ?_⟩
        have hd := hw d List.mem_cons_self
        simp only [isLayout, Bool.or_eq_true, beq_iff_eq] at hd
        rcases hd with ((rfl | rfl) | rfl) | rfl <;> decide
  cases h with
  | layout hw => exact hlayout hw (by decide)
  | option _ hw _ _ => exact (hlayout hw (by decide)).append _
  | first _ hw _ _ => exact (hlayout hw (by decide)).append _

/-- Optional arguments are skipped in front of the group. -/
theorem read?_skipOptions (h : Bridge command between)
    (htakes : Command.takesOptions command = true) (o : Nat) (body : List Char) :
    Group.read? (skipOptions ⟨o, between ++ '{' :: body⟩) =
      some (Group.ofBody (o + utf8Length between) body) := by
  induction h generalizing o with
  | layout hw =>
      have hskip := skipLayout_layout hw (show isLayout '{' = false by decide) (by decide) o body
      have hnone := option?_nothing fun inside hinside => by
        rw [hskip] at hinside
        cases hinside
      rw [skipOptions_of_none hnone, Group.read?_layout hw]
  | @option w content rest _ hw hcontent _ ih =>
      have hoption := option?_layout hw hcontent o (rest ++ '{' :: body)
      have hsplit : w ++ '[' :: (content ++ ']' :: rest) =
          w ++ '[' :: (content ++ [']']) ++ rest := by simp
      have htext : w ++ '[' :: (content ++ ']' :: rest) ++ '{' :: body =
          w ++ '[' :: (content ++ ']' :: (rest ++ '{' :: body)) := by simp
      rw [htext, skipOptions_of_some hoption, ih, hsplit, utf8Length_append _ rest, Nat.add_assoc]
  | first hrange _ _ _ =>
      have hreference := takesOptions_of_isLabelReference.2 command (of_decide_eq_true hrange)
      rw [takesOptions_of_isLabelReference.1 command hreference] at htakes
      cases htakes

/-- The keys of a label reference stand in the only group, or in the last one of a range. -/
theorem mem_references (h : Bridge command between)
    (htakes : Command.takesOptions command = false) (o : Nat) (body : List Char) :
    ∀ symbol ∈ (Group.ofBody (o + utf8Length between) body).names,
      Event.reference symbol ∈
        (Reading.references (Command.isLabelRange command) ⟨o, between ++ '{' :: body⟩).events := by
  intro symbol hsymbol
  cases h with
  | layout hw =>
      rw [Reading.references, Group.read?_layout hw]
      simp [hsymbol]
  | option htakes' _ _ _ =>
      rw [htakes] at htakes'
      cases htakes'
  | @first w content w' hrange hw hcontent hw' =>
      have htext : w ++ '{' :: (content ++ '}' :: w') ++ '{' :: body =
          w ++ '{' :: (content ++ '}' :: (w' ++ '{' :: body)) := by simp
      have hoffset : o + utf8Length (w ++ '{' :: (content ++ '}' :: w')) =
          o + utf8Length w + 1 + utf8Length content + 1 + utf8Length w' := by
        simp only [utf8Length_append, utf8Length_cons, show Char.utf8Size '{' = 1 from rfl,
          show Char.utf8Size '}' = 1 from rfl]
        omega
      rw [hoffset] at hsymbol
      rw [htext, Reading.references, Group.read?_layout hw, Markup.ofBody_keys hcontent]
      refine List.mem_append_right _ ?_
      simp only [hrange, if_true, Group.closedBy]
      rw [Reading.keys, Group.read?_layout hw']
      exact List.mem_append_right _ (List.mem_map_of_mem hsymbol)

end Bridge

/-! ## The scan at a command -/

/-- What a command meets, the scan meets. -/
theorem mem_scan_of_visits {k : Cursor} {start : Nat} {command rest : List Char} {e : Event}
    (hcommand : Markup.isCommandName command = true) (hrest : Markup.EndsName rest)
    (hvisits : Visits k ⟨start, '\\' :: (command ++ rest)⟩)
    (he : e ∈ (Reading.arguments start (String.ofList command)
      ⟨start + 1 + utf8Length command, rest⟩).events) : e ∈ scan k := by
  have hname := Markup.commandName_of_isCommandName hcommand hrest
  obtain ⟨before, hbefore⟩ := hvisits.exists_append
  cases command with
  | nil => cases hcommand
  | cons c command =>
      simp only [Markup.isCommandName, Bool.and_eq_true] at hcommand
      rw [List.cons_append] at hname
      rw [hbefore, scan_cons, List.cons_append, Reading.at_letters hcommand.1 hname]
      exact List.mem_append_right _ (List.mem_append_left _ (List.mem_cons_of_mem _ he))

/-! ## The last key -/

theorem mem_namesFrom_only {pad typed : List Char} (hpad : AllBlank isBlank pad)
    (htyped : Solid isBlank typed) (hcomma : ',' ∉ pad ++ typed) (o : Nat) :
    Symbol.ofText (o + utf8Length pad) typed ∈ namesFrom o (betweenCommas (pad ++ typed)) := by
  have htrim := trimmed?_of_solid hpad htyped (fun _ h => nomatch h : AllBlank isBlank []) o
  rw [List.append_nil] at htrim
  rw [betweenCommas_last hcomma, namesFrom, htrim]
  exact List.mem_cons_self

/-- The name behind the last comma is read, and it stands at the end. -/
theorem mem_namesFrom_last {earlier pad typed : List Char} (hpad : AllBlank isBlank pad)
    (htyped : Solid isBlank typed) (hcomma : ',' ∉ pad ++ typed) (o : Nat) :
    Symbol.ofText (o + utf8Length earlier + 1 + utf8Length pad) typed ∈
      namesFrom o (betweenCommas (earlier ++ ',' :: (pad ++ typed))) := by
  induction earlier using betweenCommas_induction generalizing o with
  | last s hs =>
      rw [betweenCommas_append hs, namesFrom]
      exact List.mem_append_right _ (mem_namesFrom_only hpad htyped hcomma _)
  | more s cs hs ih =>
      have hcommas : s ++ ',' :: cs ++ ',' :: (pad ++ typed) =
          s ++ ',' :: (cs ++ ',' :: (pad ++ typed)) := by simp
      have hoffset : o + utf8Length (s ++ ',' :: cs) = o + utf8Length s + 1 + utf8Length cs := by
        rw [utf8Length_append, utf8Length_cons, show Char.utf8Size ',' = 1 from rfl]
        omega
      rw [hcommas, hoffset, betweenCommas_append hs, namesFrom]
      exact List.mem_append_right _ (ih _)

end Manuscript.Latex

/-
# Manuscript.Proofs.Latex.Respelling -- two spellings of a name are read alike

Take a LaTeX text and an inert name in it, of labels or of citations, and leave that name
open wherever the scan met it as a name of its sort.  The scan of the form filled with
another inert name meets the same events in the same places, with the other name for the
open one.  `Event.Respelt` says what this means for one event, and `Reading.Respells` what
it takes of a reader.

The form is found along the scan, from its end: a reader is given a form of what
follows and finds one of what it reads.  Where it reads names of the sort, the open places
are among them; whatever else it reads has no open place, since open places are names and
names do not touch.  A reader may look ahead over any number of open places that others
will read; one that reads no names of the sort and does not see them is followed over forms
alone (`Uniform`, `respells_of_uniform`).
-/
import Manuscript.Proofs.Latex.Lookahead
import Manuscript.Proofs.Latex.Placement
import Manuscript.Rename

namespace Manuscript.Latex

set_option autoImplicit false

open Text Text.Form

/-! ## Events of two spellings -/

/-- The symbols stand in the same place and their names are the same up to respelling. -/
structure SymbolRespelt (u v : List Char) (same : Nat → Nat → Prop) (s s' : Symbol) : Prop where
  name : s'.name = respell u v s.name
  span : SameSpan same s.span s'.span

/-- The problems stand in the same place. -/
structure DiagnosticRespelt (same : Nat → Nat → Prop) (d d' : Diagnostic) : Prop where
  severity : d.severity = d'.severity
  message : d.message = d'.message
  code : d.code = d'.code
  span : SameSpan same d.span d'.span

/-- A symbol whose name is of a sort, where names of a sort are respelt. -/
def SymbolKept (u v : List Char) (same : Nat → Nat → Prop) :
    NameSort → NameSort → Symbol → Symbol → Prop
  | .label, .label, s, s' => SymbolRespelt u v same s s'
  | .citation, .citation, s, s' => SymbolRespelt u v same s s'
  | _, _, s, s' => s.name = s'.name

/-- The events differ in a name of a sort and in the places of what follows it.  Headings may
hold names, and are not compared. -/
inductive Event.Respelt (sort : NameSort) (u v : List Char) (same : Nat → Nat → Prop) :
    Event → Event → Prop where
  | command (name : String) : Respelt sort u v same (.command name) (.command name)
  | braceOpened {o o' : Nat} : same o o' → same (o + 1) (o' + 1) →
      Respelt sort u v same (.braceOpened o) (.braceOpened o')
  | braceClosed {o o' : Nat} : same o o' → same (o + 1) (o' + 1) →
      Respelt sort u v same (.braceClosed o) (.braceClosed o')
  | label {s s' : Symbol} : SymbolKept u v same sort .label s s' →
      Respelt sort u v same (.label s) (.label s')
  | reference {s s' : Symbol} : SymbolKept u v same sort .label s s' →
      Respelt sort u v same (.reference s) (.reference s')
  | citation {s s' : Symbol} : SymbolKept u v same sort .citation s s' →
      Respelt sort u v same (.citation s) (.citation s')
  | inclusion {i i' : Include} : i.kind = i'.kind → i.path = i'.path →
      Respelt sort u v same (.inclusion i) (.inclusion i')
  | heading (part part' : Section) : Respelt sort u v same (.heading part) (.heading part')
  | definition {s s' : Symbol} : s.name = s'.name →
      Respelt sort u v same (.definition s) (.definition s')
  | environmentOpened (name : String) {s s' : Span} : SameSpan same s s' →
      Respelt sort u v same (.environmentOpened name s) (.environmentOpened name s')
  | environmentClosed (name : String) {s s' : Span} : SameSpan same s s' →
      Respelt sort u v same (.environmentClosed name s) (.environmentClosed name s')
  | verbatim {e e' : Environment} : e.name = e'.name →
      Respelt sort u v same (.verbatim e) (.verbatim e')
  | fault {d d' : Diagnostic} : DiagnosticRespelt same d d' →
      Respelt sort u v same (.fault d) (.fault d')

/-- The name of a sort that an event gives. -/
def Event.named? (sort : NameSort) : Event → Option Symbol
  | .label s => if sort = .label then some s else none
  | .reference s => if sort = .label then some s else none
  | .citation s => if sort = .citation then some s else none
  | _ => none

theorem Event.named?_label : Event.named? .label = Event.labelled? := by
  funext e
  cases e <;> rfl

theorem Event.named?_citation : Event.named? .citation = Event.citation? := by
  funext e
  cases e <;> rfl

/-- The spans of the symbols of a sort with a name. -/
def nameSpans (sort : NameSort) (name : List Char) (events : List Event) : List Span :=
  ((events.filterMap (Event.named? sort)).filter (·.name = String.ofList name)).map Symbol.span

variable {sort : NameSort} {u v : List Char}

theorem nameSpans_append (events more : List Event) :
    nameSpans sort u (events ++ more) = nameSpans sort u events ++ nameSpans sort u more := by
  simp [nameSpans]

theorem nameSpans_eq_nil {events : List Event} (h : events.filterMap (Event.named? sort) = []) :
    nameSpans sort u events = [] := by
  rw [nameSpans, h]
  rfl

/-! ## Readers -/

namespace Reading

/-- For every form of what follows there is a form of what is read, with the name open where
the reading gives it, such that the other filling is read alike. -/
def Respells (sort : NameSort) (u v : List Char) (f : Nat → Cursor → Reading) (start : Nat)
    (k : Cursor) : Prop :=
  ∀ Q, Guarded false Q → fill u Q = (f start k).next.rest →
    ∃ P, k = cursor u k.offset (P ++ Q) ∧ (f start k).next = past u k.offset P Q ∧
      Guarded false P ∧ holes u k.offset P = nameSpans sort u (f start k).events ∧
      ∀ same start' o', same start start' → Along u v same k.offset o' P →
        (f start' (cursor v o' (P ++ Q))).next = past v o' P Q ∧
        List.Forall₂ (Event.Respelt sort u v same) (f start k).events
          (f start' (cursor v o' (P ++ Q))).events

/-- A reading that goes on with another reader. -/
def andThen (r : Reading) (f : Cursor → Reading) : Reading :=
  ⟨r.events ++ (f r.next).events, (f r.next).next⟩

theorem Respells.andThen {f g : Nat → Cursor → Reading} {start : Nat} {k : Cursor}
    (hf : Respells sort u v f start k) (hg : Respells sort u v g start (f start k).next) :
    Respells sort u v (fun start k => (f start k).andThen (g start)) start k := by
  intro Q hQ hrest
  obtain ⟨P', hk', hnext', hP', hholes', hread'⟩ := hg Q hQ hrest
  obtain ⟨P, hk, hnext, hP, hholes, hread⟩ := hf (P' ++ Q) (hP'.append hQ) (by rw [hk']; rfl)
  refine ⟨P ++ P', by rw [List.append_assoc]; exact hk, ?_, hP.append hP', ?_, ?_⟩
  · show (g start (f start k).next).next = _
    rw [hnext', hnext, past_past]
  · show _ = nameSpans sort u ((f start k).events ++ _)
    rw [nameSpans_append, holes_append, hholes, ← hholes', hnext]
    rfl
  · intro same start' o' hstart halong
    obtain ⟨hfnext, hfevents⟩ := hread same start' o' hstart halong.left
    rw [hnext] at hread'
    obtain ⟨hgnext, hgevents⟩ := hread' same start' _ hstart halong.right
    rw [List.append_assoc]
    refine ⟨?_, ?_⟩
    · show (g start' (f start' (cursor v o' (P ++ (P' ++ Q)))).next).next = _
      rw [hfnext, ← past_past]
      exact hgnext
    · show List.Forall₂ _ ((f start k).events ++ _)
        ((f start' (cursor v o' (P ++ (P' ++ Q)))).events ++ _)
      rw [hfnext, hnext]
      exact List.rel_append hfevents hgevents

/-! ## Readers without names -/

/-- A reading that goes on where it is. -/
theorem respells_here {events : Nat → Nat → List Event} {start : Nat} {k : Cursor}
    (hnames : (events start k.offset).filterMap (Event.named? sort) = [])
    (h : ∀ same start' o', same start start' → same k.offset o' →
      List.Forall₂ (Event.Respelt sort u v same) (events start k.offset) (events start' o')) :
    Respells sort u v (fun start k => ⟨events start k.offset, k⟩) start k := by
  intro Q _ hrest
  refine ⟨[], ?_, ?_, trivial, (nameSpans_eq_nil hnames).symm, ?_⟩
  · rw [List.nil_append, cursor, hrest]
  · rw [past, hrest]
    rfl
  · intro same start' o' hstart halong
    exact ⟨rfl, h same start' o' hstart halong.start⟩

theorem respells_nothing (start : Nat) (k : Cursor) :
    Respells sort u v (fun _ k => nothing k) start k :=
  @respells_here sort u v (fun _ _ => []) start k rfl fun _ _ _ _ _ => .nil

/-- A reader that goes on in one place of a form, whatever is filled in, and whose events do
not show it. -/
def Uniform (sort : NameSort) (f : Nat → Cursor → Reading) (F : Form) : Prop :=
  ∃ P Q, F = P ++ Q ∧
    (∀ w start o, Inert w → (f start (cursor w o F)).next = past w o P Q) ∧
    ∀ u v same start start' o o', Inert u → Inert v → List.Forall₂ (Event.Respelt sort u v same)
      (f start (cursor u o F)).events (f start' (cursor v o' F)).events

theorem respells_of_uniform {f : Nat → Cursor → Reading} (hu : Inert u) (hv : Inert v)
    {start : Nat} {k : Cursor} (hfrom : (f start k).From k)
    (hnames : (f start k).events.filterMap (Event.named? sort) = [])
    (huniform : ∀ F, Guarded false F → Uniform sort f F) : Respells sort u v f start k := by
  intro Q hQ hrest
  obtain ⟨read, hread, hoffset⟩ := hfrom
  have hk : k = cursor u k.offset (Form.ofText read ++ Q) := by
    rw [cursor, fill_append, fill_ofText, hrest, ← hread]
  have hnext : (f start k).next = past u k.offset (Form.ofText read) Q := by
    rw [past, fill_ofText, hrest, ← hoffset]
  obtain ⟨P', Q', hPQ, hmove, hevents⟩ :=
    huniform _ ((guarded_ofText false read).append hQ)
  -- the reader goes on after what it read, so this is where it goes on in the form
  obtain ⟨rfl, rfl⟩ : Form.ofText read = P' ∧ Q = Q' := by
    have hu' := hmove u start k.offset hu
    rw [← hk, hnext] at hu'
    have hlength := Nat.add_left_cancel (congrArg Cursor.offset hu')
    have hfill := congrArg (fill u) hPQ
    rw [fill_append, fill_append] at hfill
    exact append_inj_of_fill hu.nonempty hPQ (append_inj_of_utf8Length hfill hlength).1
  refine ⟨Form.ofText read, hk, hnext, guarded_ofText false read, ?_, ?_⟩
  · rw [holes_ofText, nameSpans_eq_nil hnames]
  · intro same start' o' _ _
    refine ⟨hmove v start' o' hv, ?_⟩
    have := hevents u v same start start' k.offset o' hu hv
    rwa [← hk] at this

theorem uniform_options (F : Form) : Uniform sort (fun _ k => nothing (skipOptions k)) F := by
  obtain ⟨P, Q, rfl, hmove⟩ := skipOptions_form F
  exact ⟨P, Q, rfl, fun w _ o hw => hmove w o hw, fun _ _ _ _ _ _ _ _ _ => .nil⟩

theorem uniform_comment (F : Form) :
    Uniform sort (fun _ k => nothing (k.upTo (startsWith (· == '\n'))).2) F := by
  obtain ⟨cut, hcut, hsplit⟩ := cuts_newline F
  cases cut with
  | none => exact absurd (hsplit _ inert_x) (Option.some_ne_none _)
  | some cut =>
      obtain ⟨P, Q⟩ := cut
      refine ⟨P, Q, hcut P Q rfl, fun w _ o hw => ?_, fun _ _ _ _ _ _ _ _ _ => .nil⟩
      have h := Option.some.inj (hsplit w hw)
      show (Cursor.upTo _ (cursor w o F)).2 = _
      simp only [Cursor.upTo, cursor, h]
      rfl

/-- Whether a form goes on with a brace. -/
theorem exists_brace_or (F : Form) :
    (∃ R, F = some '{' :: R) ∨ ∀ w, Inert w → ∀ body, fill w F ≠ '{' :: body := by
  by_cases hbrace : ∃ R, F = some '{' :: R
  · exact Or.inl hbrace
  · exact Or.inr fun w hw body h => hbrace (hw.exists_of_fill (by decide) h)

theorem heading_brace {start level : Nat} {k : Cursor} {body : List Char}
    (h : (skipLayout (skipOptions k)).rest = '{' :: body) :
    ∃ part, heading start level k = ⟨[.heading part], skipLayout (skipOptions k)⟩ := by
  unfold heading
  dsimp only
  rw [h]
  exact ⟨_, rfl⟩

theorem heading_nothing {start level : Nat} {k : Cursor}
    (h : ∀ body, (skipLayout (skipOptions k)).rest ≠ '{' :: body) :
    heading start level k = nothing (skipOptions k) := by
  unfold heading
  dsimp only
  split
  · rename_i body hbody
    exact absurd hbody (h body)
  · rfl

theorem uniform_heading (level : Nat) (F : Form) :
    Uniform sort (fun start k => heading start level k) F := by
  obtain ⟨P, Q, rfl, hoptions⟩ := skipOptions_form F
  obtain ⟨A, B, rfl, hlayout⟩ := skipLayout_form Q
  have hhere (w : List Char) (o : Nat) (hw : Inert w) :
      skipLayout (skipOptions (cursor w o (P ++ (A ++ B)))) = past w o (P ++ A) B := by
    rw [hoptions w o hw, ← past_past]
    exact hlayout w _ hw
  rcases exists_brace_or B with ⟨R, rfl⟩ | hnone
  · have hheading (w : List Char) (start o : Nat) (hw : Inert w) :=
      @heading_brace start level (cursor w o (P ++ (A ++ some '{' :: R))) (fill w R)
        (by rw [hhere w o hw]; rfl)
    refine ⟨P ++ A, some '{' :: R, by simp, ?_, ?_⟩
    · intro w start o hw
      obtain ⟨part, hpart⟩ := hheading w start o hw
      show (heading start level _).next = _
      rw [hpart]
      exact hhere w o hw
    · intro u v same start start' o o' hu hv
      obtain ⟨part, hpart⟩ := hheading u start o hu
      obtain ⟨part', hpart'⟩ := hheading v start' o' hv
      show List.Forall₂ _ (heading start level _).events (heading start' level _).events
      rw [hpart, hpart']
      exact .cons (.heading part part') .nil
  · have hheading (w : List Char) (start o : Nat) (hw : Inert w) :=
      @heading_nothing start level (cursor w o (P ++ (A ++ B))) fun body h =>
        hnone w hw body (by rwa [hhere w o hw] at h)
    refine ⟨P, A ++ B, rfl, ?_, ?_⟩
    · intro w start o hw
      show (heading start level _).next = _
      rw [hheading w start o hw]
      exact hoptions w o hw
    · intro u v same start start' o o' hu hv
      show List.Forall₂ _ (heading start level _).events (heading start' level _).events
      rw [hheading u start o hu, hheading v start' o' hv]
      exact .nil

/-- A name in braces is looked at, and read again. -/
theorem uniform_definition_brace {A R : Form}
    (hlayout : ∀ w o, Inert w →
      skipLayout (cursor w o (A ++ some '{' :: R)) = past w o A (some '{' :: R))
    (hF : Guarded false (A ++ some '{' :: R)) :
    Uniform sort (fun _ k => definition k) (A ++ some '{' :: R) := by
  obtain ⟨cut, hcut, hblanks⟩ := cuts_asciiBlanks R
  cases cut with
  | none => exact absurd (hblanks _ inert_x) (Option.some_ne_none _)
  | some cut =>
      obtain ⟨S, T⟩ := cut
      obtain rfl := hcut S T rfl
      obtain ⟨after, hT⟩ := hF.tail.drop
      have hdefinition (w : List Char) (o : Nat) (hw : Inert w) :
          definition (cursor w o (A ++ some '{' :: (S ++ T))) =
            ⟨((definedName? (cursor w (o + utf8Length (fill w A) + 1 + utf8Length (fill w S))
              T)).map fun found => Event.definition found.1).toList,
              cursor w o (A ++ some '{' :: (S ++ T))⟩ := by
        have h := Option.some.inj (hblanks w hw)
        rw [definition_brace (by rw [hlayout w o hw]; rfl), hlayout w o hw]
        simp only [past, fill_some, Cursor.bump, Cursor.upTo, h]
        rfl
      refine ⟨[], _, rfl, ?_, ?_⟩
      · intro w _ o hw
        show (definition _).next = _
        rw [hdefinition w o hw]
        rfl
      · intro u v same _ _ o o' hu hv
        show List.Forall₂ _ (definition _).events (definition _).events
        rw [hdefinition u o hu, hdefinition v o' hv]
        rcases definedName?_form hT with hnone | ⟨letters, Q, rfl, -, hsome⟩
        · rw [hnone u _ hu, hnone v _ hv]
          exact .nil
        · rw [hsome u, hsome v]
          exact .cons (.definition rfl) .nil

/-- A name that stands without braces is read up to its end. -/
theorem uniform_definition_plain {A B : Form}
    (hlayout : ∀ w o, Inert w → skipLayout (cursor w o (A ++ B)) = past w o A B)
    (hbrace : ∀ w, Inert w → ∀ body, fill w B ≠ '{' :: body) (hF : Guarded false (A ++ B)) :
    Uniform sort (fun _ k => definition k) (A ++ B) := by
  have hdefinition (w : List Char) (o : Nat) (hw : Inert w) :=
    @definition_plain (cursor w o (A ++ B)) fun body h =>
      hbrace w hw body (by rwa [hlayout w o hw] at h)
  obtain ⟨after, hB⟩ := hF.drop
  rcases definedName?_form hB with hnone | ⟨letters, Q, rfl, -, hsome⟩
  · have hnothing (w : List Char) (o : Nat) (hw : Inert w) :
        definition (cursor w o (A ++ B)) = nothing (cursor w o (A ++ B)) := by
      have h : definedName? (past w o A B) = none := hnone w _ hw
      rw [hdefinition w o hw, hlayout w o hw, h]
    refine ⟨[], _, rfl, ?_, ?_⟩
    · intro w _ o hw
      show (definition _).next = _
      rw [hnothing w o hw]
      rfl
    · intro u v same _ _ o o' hu hv
      show List.Forall₂ _ (definition _).events (definition _).events
      rw [hnothing u o hu, hnothing v o' hv]
      exact .nil
  · have hfound (w : List Char) (o : Nat) (hw : Inert w) :
        ∃ span, definition (cursor w o (A ++ (Form.ofText ('\\' :: letters) ++ Q))) =
          ⟨[.definition ⟨String.ofList letters, span⟩],
            past w o (A ++ Form.ofText ('\\' :: letters)) Q⟩ := by
      have h := hsome w (o + utf8Length (fill w A))
      refine ⟨⟨o + utf8Length (fill w A),
        o + utf8Length (fill w A) + utf8Length ('\\' :: letters)⟩, ?_⟩
      rw [hdefinition w o hw, hlayout w o hw, show past w o A
        (Form.ofText ('\\' :: letters) ++ Q) = cursor w (o + utf8Length (fill w A))
        (Form.ofText ('\\' :: letters) ++ Q) from rfl, h, ← past_past]
      rfl
    refine ⟨A ++ Form.ofText ('\\' :: letters), Q, by simp, ?_, ?_⟩
    · intro w _ o hw
      obtain ⟨span, hspan⟩ := hfound w o hw
      show (definition _).next = _
      rw [hspan]
    · intro u v same _ _ o o' hu hv
      obtain ⟨span, hspan⟩ := hfound u o hu
      obtain ⟨span', hspan'⟩ := hfound v o' hv
      show List.Forall₂ _ (definition _).events (definition _).events
      rw [hspan, hspan']
      exact .cons (.definition rfl) .nil

theorem uniform_definition {F : Form} (hF : Guarded false F) :
    Uniform sort (fun _ k => definition k) F := by
  obtain ⟨A, B, rfl, hlayout⟩ := skipLayout_form F
  rcases exists_brace_or B with ⟨R, rfl⟩ | hbrace
  · exact uniform_definition_brace hlayout hF
  · exact uniform_definition_plain hlayout hbrace hF

end Reading

end Manuscript.Latex

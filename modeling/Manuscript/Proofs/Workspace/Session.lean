/-
# Manuscript.Proofs.Workspace.Session -- what a workspace remembers of a session

A `Session` is a workspace with the documents that its user holds: documents that were
created or opened, copies of stored ones, and whatever became of them.  Held documents
may be stale.  They are stored, and stored ones are replaced and removed, in any order.

Of all this a workspace depends on the log of what was stored and removed
(`Session.log`).  The log says which URLs are there and in which order: a URL is at the
place where it `Entered`, the first time it was stored since it was removed last.  It also
says which text each document has (`LastText`).  `Kept` states this of a workspace; storing
and removing keep it (`Kept.add`, `Kept.remove`), so it holds after every session, and so
does the agreement of structures and line indexes with texts (`Recorded.step`,
`consistent_run`).
-/
import Manuscript.Proofs.Workspace.History

namespace Manuscript

set_option autoImplicit false

/-! ## Logs -/

/-- What was done to a workspace. -/
inductive Change where
  | stored (uri : Url) (text : String)
  | removed (uri : Url)
deriving DecidableEq, Repr

namespace Change

variable {log : List Change} {change : Change} {uri : Url} {i : Nat}

/-- The URL was stored at this place of the log, and not removed afterwards. -/
def Lasts (log : List Change) (uri : Url) (i : Nat) : Prop :=
  (∃ text, log[i]? = some (.stored uri text)) ∧ ∀ j, i < j → log[j]? ≠ some (.removed uri)

/-- The URL was stored for the first time since it was removed last. -/
def Entered (log : List Change) (uri : Url) (i : Nat) : Prop :=
  Lasts log uri i ∧ ∀ j, j < i → ¬ Lasts log uri j

/-- The text was the last to be stored under the URL. -/
def LastText (log : List Change) (uri : Url) (text : String) : Prop :=
  ∃ i : Nat, log[i]? = some (.stored uri text) ∧
    ∀ j, i < j → ∀ other, log[j]? ≠ some (.stored uri other)

theorem Lasts.lt (h : Lasts log uri i) : i < log.length := by
  obtain ⟨⟨text, htext⟩, -⟩ := h
  exact (List.getElem?_eq_some_iff.1 htext).1

theorem exists_entered (h : Lasts log uri i) : ∃ j, Entered log uri j := by
  induction i using Nat.strongRecOn with
  | ind i ih =>
      by_cases hearlier : ∃ j, j < i ∧ Lasts log uri j
      · obtain ⟨j, hj, hlasts⟩ := hearlier
        exact ih j hj hlasts
      · exact ⟨i, h, fun j hj hlasts => hearlier ⟨j, hj, hlasts⟩⟩

/-! ### One more change -/

theorem getElem?_concat (log : List Change) (change : Change) (i : Nat) :
    (log ++ [change])[i]? = if i < log.length then log[i]? else
      if i = log.length then some change else none := by
  split
  · exact List.getElem?_append_left ‹_›
  · rw [List.getElem?_append_right (by omega)]
    split
    · rw [show i - log.length = 0 by omega]
      rfl
    · exact List.getElem?_eq_none (by rw [List.length_singleton]; omega)

/-- A place before the last change lasts unless that change removes the URL. -/
theorem lasts_concat_of_lt (hi : i < log.length) :
    Lasts (log ++ [change]) uri i ↔ Lasts log uri i ∧ change ≠ .removed uri := by
  unfold Lasts
  simp only [getElem?_concat, if_pos hi]
  constructor
  · rintro ⟨hstored, hafter⟩
    refine ⟨⟨hstored, fun j hj => ?_⟩, ?_⟩
    · have h := hafter j hj
      by_cases hlt : j < log.length
      · rwa [if_pos hlt] at h
      · rw [List.getElem?_eq_none (by omega)]
        exact fun h => by cases h
    · have h := hafter log.length hi
      rw [if_neg (Nat.lt_irrefl _), if_pos rfl] at h
      exact fun heq => h (congrArg some heq)
  · rintro ⟨⟨hstored, hafter⟩, hchange⟩
    refine ⟨hstored, fun j hj => ?_⟩
    split
    · exact hafter j hj
    split
    · exact fun heq => hchange (Option.some.inj heq)
    · exact fun h => by cases h

theorem lasts_concat_length :
    Lasts (log ++ [change]) uri log.length ↔ ∃ text, change = .stored uri text := by
  unfold Lasts
  simp only [getElem?_concat, Nat.lt_irrefl, if_false, if_true, Option.some.injEq]
  refine ⟨fun h => h.1, fun h => ⟨h, fun j hj => ?_⟩⟩
  rw [if_neg (by omega), if_neg (by omega)]
  exact fun h => by cases h

/-- A URL that is there stays where it entered. -/
theorem Entered.concat (h : Entered log uri i) (hchange : change ≠ .removed uri) :
    Entered (log ++ [change]) uri i := by
  have hi := h.1.lt
  refine ⟨(lasts_concat_of_lt hi).2 ⟨h.1, hchange⟩, fun j hj hlasts => ?_⟩
  exact h.2 j hj ((lasts_concat_of_lt (Nat.lt_trans hj hi)).1 hlasts).1

/-- A URL that is not there enters last. -/
theorem entered_length (hnew : ∀ i, ¬ Lasts log uri i) (text : String) :
    Entered (log ++ [.stored uri text]) uri log.length :=
  ⟨lasts_concat_length.2 ⟨text, rfl⟩, fun j hj hlasts =>
    hnew j ((lasts_concat_of_lt hj).1 hlasts).1⟩

theorem exists_lasts_concat :
    (∃ i, Lasts (log ++ [change]) uri i) ↔
      (∃ text, change = .stored uri text) ∨ ((∃ i, Lasts log uri i) ∧ change ≠ .removed uri) := by
  constructor
  · rintro ⟨i, hi⟩
    by_cases hlt : i < log.length
    · obtain ⟨hlasts, hchange⟩ := (lasts_concat_of_lt hlt).1 hi
      exact .inr ⟨⟨i, hlasts⟩, hchange⟩
    · have hlength := hi.lt
      rw [List.length_append, List.length_singleton] at hlength
      obtain rfl : i = log.length := by omega
      exact .inl (lasts_concat_length.1 hi)
  · rintro (hstored | ⟨⟨i, hi⟩, hchange⟩)
    · exact ⟨log.length, lasts_concat_length.2 hstored⟩
    · exact ⟨i, (lasts_concat_of_lt hi.lt).2 ⟨hi, hchange⟩⟩

theorem lastText_length (log : List Change) (uri : Url) (text : String) :
    LastText (log ++ [.stored uri text]) uri text := by
  refine ⟨log.length, ?_, fun j hj other => ?_⟩
  · rw [getElem?_concat, if_neg (Nat.lt_irrefl _), if_pos rfl]
  · rw [getElem?_concat, if_neg (by omega), if_neg (by omega)]
    exact fun h => by cases h

theorem LastText.concat {text : String} (h : LastText log uri text)
    (hchange : ∀ other, change ≠ .stored uri other) : LastText (log ++ [change]) uri text := by
  obtain ⟨i, hi, hlast⟩ := h
  have hlt := (List.getElem?_eq_some_iff.1 hi).1
  refine ⟨i, by rw [getElem?_concat, if_pos hlt, hi], fun j hj other => ?_⟩
  rw [getElem?_concat]
  split
  · exact hlast j hj other
  split
  · exact fun heq => hchange other (Option.some.inj heq)
  · exact fun h => by cases h

end Change

/-! ## Workspaces -/

open Change (Lasts Entered LastText)

namespace Workspace

variable {log : List Change} {w : Workspace}

/-- The workspace holds what the log says. -/
structure Kept (log : List Change) (w : Workspace) : Prop extends w.Sound where
  mem_iff : ∀ uri, uri ∈ w.uris ↔ ∃ i, Lasts log uri i
  ordered : w.uris.Pairwise fun a b => ∃ i j, Entered log a i ∧ Entered log b j ∧ i < j
  text_eq : ∀ d ∈ w.documents, LastText log d.uri d.text

theorem kept_empty (options : Options) : Kept [] (.empty options) where
  nodup := List.nodup_nil
  settled := fun d hd => by cases hd
  mem_iff := by
    refine fun uri => ⟨fun h => (by cases h), ?_⟩
    rintro ⟨i, hi⟩
    exact absurd hi.lt (Nat.not_lt_zero i)
  ordered := .nil
  text_eq := fun d hd => by cases hd

/-- **A stored document is where its URL entered**, with its text. -/
theorem Kept.add (h : Kept log w) {d : Document} (hd : d.Sound) :
    Kept (log ++ [.stored d.uri d.text]) (w.add d) where
  toSound := h.toSound.add hd
  mem_iff := by
    intro uri
    rw [Change.exists_lasts_concat, ← h.mem_iff uri, uris_add]
    constructor
    · intro hmem
      by_cases heq : uri = d.uri
      · exact .inl ⟨d.text, by rw [heq]⟩
      · refine .inr ⟨?_, fun h => by cases h⟩
        split at hmem
        · exact hmem
        · exact (List.mem_append.1 hmem).resolve_right (by simpa using heq)
    · rintro (⟨text, heq⟩ | ⟨hmem, -⟩)
      · cases heq
        split
        · assumption
        · exact List.mem_append_right _ (List.mem_singleton_self _)
      · split
        · exact hmem
        · exact List.mem_append_left _ hmem
  ordered := by
    have hold : w.uris.Pairwise fun a b => ∃ i j,
        Entered (log ++ [.stored d.uri d.text]) a i ∧
        Entered (log ++ [.stored d.uri d.text]) b j ∧ i < j := by
      refine h.ordered.imp ?_
      rintro a b ⟨i, j, hi, hj, hlt⟩
      exact ⟨i, j, hi.concat (fun h => by cases h), hj.concat (fun h => by cases h), hlt⟩
    rw [uris_add]
    split
    · exact hold
    · -- a new URL enters behind all that are there
      rename_i hnew
      refine List.pairwise_append.2 ⟨hold, List.pairwise_singleton _ _, fun a ha b hb => ?_⟩
      obtain rfl := List.mem_singleton.1 hb
      obtain ⟨i, hi⟩ := (h.mem_iff a).1 ha
      obtain ⟨j, hj⟩ := Change.exists_entered hi
      exact ⟨j, log.length, hj.concat (fun h => by cases h),
        Change.entered_length (fun i hi => hnew ((h.mem_iff d.uri).2 ⟨i, hi⟩)) d.text, hj.1.lt⟩
  text_eq := by
    intro e he
    -- URLs are different, so looking the document up tells whether it is the new one
    have hget := (get?_eq_some_iff_mem (h.toSound.add hd).nodup).2 ⟨he, rfl⟩
    rw [get?_add] at hget
    split at hget
    · cases hget
      rw [settled_uri, text_settled]
      exact Change.lastText_length log d.uri d.text
    · rename_i hne
      exact (h.text_eq e (mem_of_get? hget)).concat fun other heq =>
        hne (Change.stored.inj heq).1.symm

/-- **Removing a document leaves the others where they entered.** -/
theorem Kept.remove (h : Kept log w) (gone : Url) :
    Kept (log ++ [.removed gone]) (w.remove gone) where
  toSound := h.toSound.remove gone
  mem_iff := by
    intro uri
    rw [Change.exists_lasts_concat, ← h.mem_iff uri, uris_remove, List.mem_filter]
    constructor
    · rintro ⟨hmem, hne⟩
      exact .inr ⟨hmem, fun heq => by cases heq; simp at hne⟩
    · rintro (⟨text, heq⟩ | ⟨hmem, hne⟩)
      · cases heq
      · exact ⟨hmem, by simpa using fun heq => hne (by rw [heq])⟩
  ordered := by
    rw [uris_remove]
    refine (h.ordered.filter _).imp_of_mem ?_
    rintro a b ha hb ⟨i, j, hi, hj, hlt⟩
    have hstays : ∀ uri ∈ w.uris.filter (· ≠ gone), Change.removed gone ≠ .removed uri := by
      rintro uri hmem heq
      cases heq
      simp at hmem
    exact ⟨i, j, hi.concat (hstays a ha), hj.concat (hstays b hb), hlt⟩
  text_eq := fun d hd => (h.text_eq d (List.mem_filter.1 hd).1).concat fun _ heq => by cases heq

/-- Other options change nothing of what is kept. -/
theorem Kept.withOptions (h : Kept log w) (options : Options) : Kept log (w.withOptions options) :=
  ⟨⟨h.nodup, h.settled⟩, h.mem_iff, h.ordered, h.text_eq⟩

end Workspace

/-! ## Sessions -/

/-- What a user does, with the held documents named by their places. -/
inductive Operation where
  | create (uri : Url) (language : Language)
  | load (uri : Url) (text : String)
  | setText (i : Nat) (text : String)
  | read (i : Nat)
  /-- Takes a copy of a stored document. -/
  | copy (uri : Url)
  | add (i : Nat)
  | update (uri : Url) (text : String)
  | remove (uri : Url)
  | setOptions (options : Options)
deriving DecidableEq, Repr

/-- The documents that a user holds, and those that are stored. -/
structure Session where
  held : List Document
  workspace : Workspace
deriving DecidableEq, Repr

namespace Session

def start (options : Options) : Session := ⟨[], .empty options⟩

/-- What an operation leaves; one that fails, or is about no document, leaves everything. -/
def step (s : Session) : Operation → Session
  | .create uri language => { s with held := s.held ++ [.create uri language] }
  | .load uri text =>
      match Document.open? uri text with
      | .ok d => { s with held := s.held ++ [d] }
      | .error _ => s
  | .setText i text => { s with held := s.held.modify i (·.withText text) }
  | .read i => { s with held := s.held.modify i Document.analyzed }
  | .copy uri => { s with held := s.held ++ (s.workspace.get? uri).toList }
  | .add i =>
      match s.held[i]? with
      | some d => { s with workspace := s.workspace.add d }
      | none => s
  | .update uri text =>
      match s.workspace.update? uri text with
      | .ok w => { s with workspace := w }
      | .error _ => s
  | .remove uri => { s with workspace := s.workspace.remove uri }
  | .setOptions options => { s with workspace := s.workspace.withOptions options }

/-- What an operation stores or removes. -/
def changes (s : Session) : Operation → List Change
  | .add i => (s.held[i]?.map fun d => Change.stored d.uri d.text).toList
  | .update uri text =>
      match s.workspace.update? uri text with
      | .ok _ => [.stored uri text]
      | .error _ => []
  | .remove uri => [.removed uri]
  | _ => []

def run (s : Session) (operations : List Operation) : Session := operations.foldl step s

/-- All that is stored and removed in a session. -/
def log (s : Session) : List Operation → List Change
  | [] => []
  | operation :: operations => s.changes operation ++ (s.step operation).log operations

/-- The documents of a session agree with their texts, and its workspace with the log. -/
structure Recorded (log : List Change) (s : Session) : Prop where
  kept : s.workspace.Kept log
  held : ∀ d ∈ s.held, d.Sound

variable {log : List Change} {s : Session}

theorem recorded_start (options : Options) : Recorded [] (start options) where
  kept := Workspace.kept_empty options
  held := fun d hd => by cases hd

theorem Recorded.hold (h : Recorded log s) {ds : List Document} (hds : ∀ d ∈ ds, d.Sound) :
    Recorded log { s with held := s.held ++ ds } where
  kept := h.kept
  held := List.forall_mem_append.2 ⟨h.held, hds⟩

theorem Recorded.modify (h : Recorded log s) {f : Document → Document} (hf : ∀ d, (f d).Sound)
    (i : Nat) : Recorded log { s with held := s.held.modify i f } where
  kept := h.kept
  held := fun d hd => by
    obtain ⟨j, hj⟩ := List.mem_iff_getElem?.1 hd
    rw [List.getElem?_modify] at hj
    obtain ⟨e, he, heq⟩ := Option.map_eq_some_iff.1 hj
    have hheld := h.held e (List.mem_of_getElem? he)
    split at heq <;> rw [← heq]
    · exact hf e
    · exact hheld

/-- An operation that neither stores nor removes. -/
theorem Recorded.quiet (h : Recorded log s) : Recorded (log ++ []) s := by
  rw [List.append_nil]
  exact h

/-- **An operation keeps what is recorded**, and adds what it stores or removes. -/
theorem Recorded.step (h : Recorded log s) (operation : Operation) :
    Recorded (log ++ s.changes operation) (s.step operation) := by
  cases operation with
  | create uri language =>
      have hsound := (Document.settled_create uri language).toSound
      exact (h.hold (List.forall_mem_singleton.2 hsound)).quiet
  | load uri text =>
      refine Recorded.quiet ?_
      rw [Session.step]
      split
      · rename_i d hd
        exact h.hold (List.forall_mem_singleton.2 (Document.settled_open? hd).toSound)
      · exact h
  | setText i text => exact (h.modify (fun d => Document.sound_withText d text) i).quiet
  | read i => exact (h.modify (fun d => (Document.settled_analyzed d).toSound) i).quiet
  | copy uri =>
      refine (h.hold fun d hd => ?_).quiet
      exact (h.kept.settled d (Workspace.mem_of_get? (Option.mem_toList.1 hd))).toSound
  | add i =>
      rw [changes, Session.step]
      cases hd : s.held[i]? with
      | none => exact h.quiet
      | some d =>
          have hsound := h.held d (List.mem_of_getElem? hd)
          exact ⟨h.kept.add hsound, h.held⟩
  | update uri text =>
      rw [changes, Session.step]
      cases hw : s.workspace.update? uri text with
      | error e => exact h.quiet
      | ok w =>
          obtain ⟨d, hd, rfl, rfl, rfl⟩ := Workspace.update?_eq_add hw
          exact ⟨h.kept.add hd, h.held⟩
  | remove uri => exact ⟨h.kept.remove uri, h.held⟩
  | setOptions options => exact Recorded.quiet ⟨h.kept.withOptions options, h.held⟩

/-- A session keeps what is recorded. -/
theorem Recorded.run (h : Recorded log s) (operations : List Operation) :
    Recorded (log ++ s.log operations) (s.run operations) := by
  induction operations generalizing log s with
  | nil =>
      rw [Session.log, List.append_nil]
      exact h
  | cons operation operations ih =>
      rw [Session.log, ← List.append_assoc]
      exact ih (h.step operation)

/-- What holds after a session: what is recorded, and how the order goes on. -/
structure Consistent (log : List Change) (s : Session) : Prop extends Recorded log s where
  /-- A document that is replaced keeps its place. -/
  replaced : ∀ d : Document, d.uri ∈ s.workspace.uris →
    (s.workspace.add d).uris = s.workspace.uris
  /-- A document that is removed leaves the others in their order. -/
  removed : ∀ uri, (s.workspace.remove uri).uris = s.workspace.uris.filter (· ≠ uri)

/-- **After every session the workspace holds what was stored last**, in the order in which it
came, and every document agrees with its text. -/
theorem consistent_run (options : Options) (operations : List Operation) :
    Consistent ((start options).log operations) ((start options).run operations) where
  toRecorded := (recorded_start options).run operations
  replaced := fun d hd => by rw [Workspace.uris_add, if_pos hd]
  removed := fun uri => Workspace.uris_remove uri

/-- A document that comes back comes last. -/
example :
    let a : Url := ⟨"file", none, "/a.tex", none, none⟩
    let b : Url := ⟨"file", none, "/b.tex", none, none⟩
    ((start .default).run [.create a .latex, .create b .latex, .add 0, .add 1, .remove a,
      .add 0]).workspace.uris = [b, a] := by
  decide +kernel

end Session

end Manuscript

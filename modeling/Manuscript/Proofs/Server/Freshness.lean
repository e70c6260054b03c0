/-
# Manuscript.Proofs.Server.Freshness -- an editor shows the problems there are

An editor keeps, for every document, the last list of problems it was sent.  The
server answers a notice with the problems of some documents only, so what it leaves
out has to be up to date already.

`Informed s sent` says that it is: what was sent last for an open document is what a
request about it would answer now, and what was sent last for any other URL is empty.
Where includes are followed forwards, every notice keeps this
(`informed_of_forward`): the documents that are left out do not come to the changed
document, and walks that do not come to it are the walks there were before.

Where includes are followed backwards too, closing a document keeps it as well, but
a new text need not.  Its dependents are taken in the workspace it has already
changed, so a document that was connected to the changed one before, or to a document
that includes something else now, and is no longer connected to it, is left out
although it sees fewer documents than before.  Such a document is `Separated`, and
`fresh_iff_spares` says that this is all that can go wrong: a run stays fresh exactly
if no new text changes the problems of a document that it separates.
-/
import Manuscript.Proofs.Workspace.Scope
import Manuscript.Server.Reply
import Mathlib.Data.List.Induction

namespace Manuscript

set_option autoImplicit false

/-! ## What a notice brings, and what was sent last -/

/-- The new text that a notice brings. -/
def Notice.text? : Notice → Option (Url × String)
  | .started => none
  | .opened uri text => some (uri, text)
  | .changed uri texts => texts.getLast?.map fun text => (uri, text)
  | .closed _ => none

def Sent.problems? (uri : Url) : Sent → Option (List Problem)
  | .log _ => none
  | .problems other ps => if other = uri then some ps else none

/-- The last list of problems that was sent for a URL. -/
def lastProblems? (uri : Url) : List Sent → Option (List Problem)
  | [] => none
  | sent :: more => (lastProblems? uri more).or (sent.problems? uri)

theorem lastProblems?_append (uri : Url) (first second : List Sent) :
    lastProblems? uri (first ++ second) =
      (lastProblems? uri second).or (lastProblems? uri first) := by
  induction first with
  | nil => simp [lastProblems?]
  | cons sent more ih => rw [List.cons_append, lastProblems?, ih, lastProblems?, Option.or_assoc]

namespace Server

variable {s t : Server} {sent : List Sent} {uri : Url}

/-! ## Problems of a document -/

/-- The problems of an open document come from the documents its walk lists. -/
theorem problems?_of_get? {d : Document} (h : s.workspace.get? uri = some d) :
    s.problems? uri = some (Problem.all s.settings.diagnostics d
      (s.workspace.graph.traverse s.workspace.options.followParents uri)) := by
  simp only [problems?, Workspace.problems?, Workspace.scope?_of_get? h, bind, Except.bind, pure,
    Except.pure, Request.answer?, Workspace.origin?_traverse h]

theorem problems?_of_not_contains (h : uri ∉ s.workspace.uris) : s.problems? uri = none := by
  have hc : ¬ s.workspace.contains uri = true := fun hc => h (Workspace.contains_iff.1 hc)
  simp only [problems?, Workspace.problems?, Workspace.scope?, Workspace.reached?, hc, if_false,
    bind, Except.bind, Bool.false_eq_true]

theorem exists_problems? (h : uri ∈ s.workspace.uris) : ∃ ps, s.problems? uri = some ps := by
  obtain ⟨d, hd⟩ := Workspace.contains_iff_get?.1 (Workspace.contains_iff.2 h)
  exact ⟨_, problems?_of_get? hd⟩

/-- A document keeps its problems if it stays the same and its walk lists the same documents. -/
theorem problems?_congr (settings : s.settings = t.settings)
    (get : s.workspace.get? uri = t.workspace.get? uri)
    (walk : s.workspace.graph.traverse s.workspace.options.followParents uri =
      t.workspace.graph.traverse t.workspace.options.followParents uri) :
    s.problems? uri = t.problems? uri := by
  cases hd : s.workspace.get? uri with
  | none =>
      rw [problems?_of_not_contains (Workspace.get?_eq_none_iff.1 hd),
        problems?_of_not_contains (Workspace.get?_eq_none_iff.1 (get ▸ hd))]
  | some d => rw [problems?_of_get? hd, problems?_of_get? (get ▸ hd), settings, walk]

/-! ## Publishing -/

/-- Problems that are sent for a list of documents are those they have. -/
theorem lastProblems?_filterMap (s : Server) (v : Url) (uris : List Url) :
    lastProblems? v (uris.filterMap fun u => (s.problems? u).map (Sent.problems u)) =
      if v ∈ uris then s.problems? v else none := by
  induction uris with
  | nil => rfl
  | cons u us ih =>
      cases hu : s.problems? u with
      | none =>
          rw [List.filterMap_cons_none (by rw [hu]; rfl), ih]
          by_cases hv : v = u
          · subst hv
            simp [hu]
          · simp [hv]
      | some ps =>
          rw [List.filterMap_cons_some (by rw [hu]; rfl), lastProblems?, ih, Sent.problems?]
          by_cases hv : v = u
          · subst hv
            by_cases hmem : v ∈ us <;> simp [hu, hmem]
          · simp [hv, Ne.symm hv]

theorem lastProblems?_publish (s : Server) (v u : Url) :
    lastProblems? v (s.publish u) =
      if v ∈ s.workspace.dependents u then s.problems? v else none :=
  lastProblems?_filterMap s v _

theorem lastProblems?_publishAll (s : Server) (v : Url) (us : List Url) :
    lastProblems? v (us.flatMap s.publish) =
      if ∃ u ∈ us, v ∈ s.workspace.dependents u then s.problems? v else none := by
  induction us with
  | nil => simp [lastProblems?]
  | cons u us ih =>
      rw [List.flatMap_cons, lastProblems?_append, ih, lastProblems?_publish]
      by_cases hus : ∃ u ∈ us, v ∈ s.workspace.dependents u
      · have ⟨x, hx, hv⟩ := hus
        have hcons : ∃ x ∈ u :: us, v ∈ s.workspace.dependents x :=
          ⟨x, List.mem_cons_of_mem _ hx, hv⟩
        rw [if_pos hus, if_pos hcons]
        split
        · rw [Option.or_self]
        · rw [Option.or_none]
      · rw [if_neg hus, Option.none_or]
        by_cases hu : v ∈ s.workspace.dependents u
        · rw [if_pos hu, if_pos ⟨u, List.mem_cons_self, hu⟩]
        · rw [if_neg hu, if_neg]
          rintro ⟨x, hx, hv⟩
          rcases List.mem_cons.1 hx with rfl | hx
          · exact hu hv
          · exact hus ⟨x, hx, hv⟩

/-! ## Runs -/

/-- The server of a session with these settings, before any document is open. -/
def ofSettings (settings : Settings) (root : Option Url) : Server :=
  ⟨.empty (Options.ofSettings settings root), settings⟩

/-- A session starts with the settings it was set up with. -/
theorem configured_fresh {setup : Setup} {settings : Settings}
    (h : Settings.load? setup.config setup.sent = some settings) :
    fresh.configured setup = ofSettings settings setup.root := by
  rw [configured, h]
  rfl

/-- Handles notices one after the other, and collects what is sent. -/
def run (s : Server) (notices : List Notice) : Server × List Sent :=
  notices.foldl (fun done n => ((done.1.receive n).1, done.2 ++ (done.1.receive n).2)) (s, [])

theorem run_concat (s : Server) (notices : List Notice) (n : Notice) :
    s.run (notices ++ [n]) =
      (((s.run notices).1.receive n).1,
        (s.run notices).2 ++ ((s.run notices).1.receive n).2) := by
  rw [run, List.foldl_append]
  rfl

/-- What was sent last for every open document is what a request about it answers now. -/
def Fresh (s : Server) (sent : List Sent) : Prop :=
  ∀ v ∈ s.workspace.uris, ∃ ps,
    s.workspace.problems? v >>= Request.answer? s.settings = .ok (.problems ps) ∧
      lastProblems? v sent = some ps

/-- What was sent last for a URL without an open document is empty. -/
def Cleared (s : Server) (sent : List Sent) : Prop :=
  ∀ v ∉ s.workspace.uris, ∀ ps, lastProblems? v sent = some ps → ps = []

structure Informed (s : Server) (sent : List Sent) : Prop where
  fresh : Fresh s sent
  cleared : Cleared s sent

/-- The problems a server sends are the answers to requests. -/
theorem problems?_eq_some_iff {ps : List Problem} :
    s.problems? uri = some ps ↔
      s.workspace.problems? uri >>= Request.answer? s.settings = .ok (.problems ps) := by
  unfold problems?
  split
  · rename_i qs h
    rw [h]
    simp
  · rename_i h
    constructor
    · intro hn
      cases hn
    · intro hr
      exact absurd hr (h ps)

theorem fresh_iff :
    Fresh s sent ↔ ∀ v ∈ s.workspace.uris, lastProblems? v sent = s.problems? v := by
  constructor
  · intro h v hv
    obtain ⟨ps, hanswer, hlast⟩ := h v hv
    rw [hlast, problems?_eq_some_iff.2 hanswer]
  · intro h v hv
    obtain ⟨ps, hps⟩ := exists_problems? hv
    exact ⟨ps, problems?_eq_some_iff.1 hps, hps ▸ h v hv⟩

/-! ## New texts -/

/-- A new text is ignored for a document of no language, and stored otherwise. -/
theorem withText_cases (s : Server) (uri : Url) (text : String) :
    (s.withText uri text = s ∧ uri ∉ s.workspace.uris) ∨
      ∃ d, d.Sound ∧ d.uri = uri ∧
        s.withText uri text = { s with workspace := s.workspace.add d } := by
  unfold withText
  cases h : s.workspace.update? uri text with
  | error e =>
      refine Or.inl ⟨rfl, ?_⟩
      intro hmem
      obtain ⟨d, hd⟩ := Workspace.contains_iff_get?.1 (Workspace.contains_iff.2 hmem)
      rw [Workspace.update?, hd] at h
      cases h
  | ok workspace =>
      obtain ⟨d, hd, huri, -, rfl⟩ := Workspace.update?_eq_add h
      exact Or.inr ⟨d, hd, huri, rfl⟩

/-- After a new text, exactly the dependents of its document have to be told; everyone else
must have kept the problems there were. -/
theorem fresh_publish_iff (ext : Workspace.Extends uri s.workspace t.workspace)
    (stored : uri ∈ t.workspace.uris) (before : Fresh s sent) :
    Fresh t (sent ++ t.publish uri) ↔
      ∀ v ∈ t.workspace.uris, v ∉ t.workspace.dependents uri →
        t.problems? v = s.problems? v := by
  have last : ∀ v ∈ t.workspace.uris, v ∉ t.workspace.dependents uri →
      lastProblems? v (sent ++ t.publish uri) = s.problems? v := by
    intro v hv hdep
    have hne : v ≠ uri := fun heq => by
      subst heq
      exact hdep (Workspace.mem_dependents_iff.2 ⟨Workspace.contains_iff.2 hv, .refl⟩)
    have hold : v ∈ s.workspace.uris := by
      rw [← Workspace.contains_iff, ext.contains_eq hne, Workspace.contains_iff]
      exact hv
    rw [lastProblems?_append, lastProblems?_publish, if_neg hdep, Option.none_or]
    exact fresh_iff.1 before v hold
  rw [fresh_iff]
  constructor
  · intro h v hv hdep
    rw [← h v hv, last v hv hdep]
  · intro h v hv
    by_cases hdep : v ∈ t.workspace.dependents uri
    · obtain ⟨ps, hps⟩ := exists_problems? hv
      rw [lastProblems?_append, lastProblems?_publish, if_pos hdep, hps, Option.some_or]
    · rw [last v hv hdep, h v hv hdep]

theorem cleared_publish (ext : Workspace.Extends uri s.workspace t.workspace)
    (stored : uri ∈ t.workspace.uris) (before : Cleared s sent) :
    Cleared t (sent ++ t.publish uri) := by
  intro v hv ps hps
  have hne : v ≠ uri := fun heq => hv (heq ▸ stored)
  have hdep : v ∉ t.workspace.dependents uri := fun hmem =>
    hv (Workspace.contains_iff.1 (Workspace.mem_dependents_iff.1 hmem).1)
  rw [lastProblems?_append, lastProblems?_publish, if_neg hdep, Option.none_or] at hps
  refine before v ?_ ps hps
  rwa [← Workspace.contains_iff, ext.contains_eq hne, Workspace.contains_iff]

/-- A document of no language has no dependents. -/
theorem publish_of_not_contains (h : uri ∉ s.workspace.uris) : s.publish uri = [] := by
  have hd : s.workspace.dependents uri = [] := by
    apply List.eq_nil_iff_forall_not_mem.2
    intro v hv
    apply h
    obtain ⟨hc, hreach⟩ := Workspace.mem_dependents_iff.1 hv
    exact Workspace.contains_iff.1 (Workspace.contains_of_reach hc hreach)
  rw [publish, hd]
  rfl

/-! ## Closing -/

/-- The documents that are told anew when one is closed. -/
theorem lastProblems?_closed (s : Server) (sent : List Sent) (uri v : Url) :
    lastProblems? v (sent ++ (s.receive (.closed uri)).2) =
      (if ∃ u ∈ (s.workspace.dependents uri).filter (· ≠ uri),
          v ∈ (s.workspace.remove uri).dependents u
        then (s.receive (.closed uri)).1.problems? v else none).or
      (if uri = v then some [] else lastProblems? v sent) := by
  rw [lastProblems?_append, receive, lastProblems?, lastProblems?_publishAll, Sent.problems?,
    Option.or_assoc]
  congr 1
  split
  · rfl
  · rw [Option.none_or]

/-- What is open after a document was closed. -/
theorem mem_uris_closed {v : Url} (hv : v ≠ uri) :
    v ∈ (s.workspace.remove uri).uris ↔ v ∈ s.workspace.uris := by
  rw [← Workspace.contains_iff, (Workspace.extends_remove s.workspace uri).contains_eq hv,
    Workspace.contains_iff]

theorem not_mem_uris_closed (s : Server) (uri : Url) : uri ∉ (s.workspace.remove uri).uris := by
  rw [Workspace.uris_remove]
  simp

/-- A document that is not told of the closing of another is connected to none that included it,
so all it is connected to includes what it included before. -/
theorem kept_of_untold (backward : s.workspace.options.followParents = true) {v : Url}
    (hv : v ∈ (s.workspace.remove uri).uris)
    (untold : ¬ ∃ u ∈ (s.workspace.dependents uri).filter (· ≠ uri),
      v ∈ (s.workspace.remove uri).dependents u) {e : Url}
    (hreach : (s.workspace.remove uri).graph.Reach true v e) :
    e ≠ uri ∧ (s.workspace.remove uri).targetsAt e = s.workspace.targetsAt e := by
  have ext := Workspace.extends_remove s.workspace uri
  have hnew := Workspace.contains_iff.2 hv
  have he := Workspace.contains_of_reach hnew hreach
  have hne : e ≠ uri := by
    rintro rfl
    exact not_mem_uris_closed s e (Workspace.contains_iff.1 he)
  refine ⟨hne, ?_⟩
  obtain ⟨d, hd⟩ := Workspace.contains_iff_get?.1 he
  rw [Workspace.targetsAt, Workspace.targetsAt, ← ext.get?_eq hne, hd]
  apply congrArg some
  apply ext.targets_eq
  intro hmem
  refine untold ⟨e, ?_, ?_⟩
  · refine List.mem_filter.2 ⟨Workspace.mem_dependents_iff.2 ⟨?_, .single ?_⟩, by simpa using hne⟩
    · rw [← ext.contains_eq hne]
      exact he
    · rw [backward]
      exact Workspace.edge_true_iff.2 ⟨d, ext.get?_eq hne ▸ hd, Or.inl hmem⟩
  · refine Workspace.mem_dependents_iff.2 ⟨hnew, ?_⟩
    rw [show (s.workspace.remove uri).options = s.workspace.options from rfl, backward]
    exact hreach

/-- **Closing a document keeps everyone up to date**, whichever way includes are followed: what
included it is told, together with all that is connected to that now. -/
theorem fresh_closed (sound : s.workspace.Sound) (before : Fresh s sent) (uri : Url) :
    Fresh (s.receive (.closed uri)).1 (sent ++ (s.receive (.closed uri)).2) := by
  have ext := Workspace.extends_remove s.workspace uri
  apply fresh_iff.2
  intro v hmem
  have hv : v ∈ (s.workspace.remove uri).uris := hmem
  have hne : v ≠ uri := fun heq => not_mem_uris_closed s uri (heq ▸ hv)
  rw [lastProblems?_closed, if_neg (Ne.symm hne)]
  split
  · obtain ⟨ps, hps⟩ := exists_problems? (s := (s.receive (.closed uri)).1) hv
    rw [hps, Option.some_or]
  rename_i untold
  rw [Option.none_or, fresh_iff.1 before v ((mem_uris_closed hne).1 hv)]
  -- a document that is left out did not come to the closed one
  have hold : s.workspace.contains v = true :=
    Workspace.contains_iff.2 ((mem_uris_closed hne).1 hv)
  have hnew : (s.workspace.remove uri).contains v = true := Workspace.contains_iff.2 hv
  have apart : ¬ s.workspace.graph.Reach s.workspace.options.followParents v uri := by
    intro hreach
    refine untold ⟨v, List.mem_filter.2 ⟨?_, by simpa using hne⟩, ?_⟩
    · exact Workspace.mem_dependents_iff.2 ⟨hold, hreach⟩
    · exact Workspace.mem_dependents_iff.2 ⟨hnew, .refl⟩
  refine problems?_congr rfl (ext.get?_eq hne).symm ?_
  change _ = (s.workspace.remove uri).graph.traverse s.workspace.options.followParents v
  cases hmode : s.workspace.options.followParents with
  | false => exact (ext.traverse_eq (hmode ▸ apart)).symm
  | true =>
      symm
      apply ext.project_eq _ (sound.remove uri).nodup (hmode ▸ apart)
      intro e hreach
      exact kept_of_untold hmode hv untold hreach

theorem cleared_closed (before : Cleared s sent) (uri : Url) :
    Cleared (s.receive (.closed uri)).1 (sent ++ (s.receive (.closed uri)).2) := by
  intro v hmem ps hps
  have hv : v ∉ (s.workspace.remove uri).uris := hmem
  rw [lastProblems?_closed, if_neg, Option.none_or] at hps
  · by_cases heq : uri = v
    · rw [if_pos heq] at hps
      exact (Option.some.inj hps).symm
    · rw [if_neg heq] at hps
      exact before v (fun hold => hv ((mem_uris_closed (Ne.symm heq)).2 hold)) ps hps
  · rintro ⟨u, -, hdep⟩
    exact hv (Workspace.contains_iff.1 (Workspace.mem_dependents_iff.1 hdep).1)

/-! ## One notice -/

/-- All that a notice can do: nothing is open that was not, a text is stored, or a document is
closed. -/
theorem receive_cases (s : Server) (n : Notice) :
    ((s.receive n).1 = s ∧ (∀ v, lastProblems? v (s.receive n).2 = none) ∧
        ∀ uri text, n.text? = some (uri, text) → s.withText uri text = s) ∨
      (∃ uri text d, n.text? = some (uri, text) ∧ d.Sound ∧ d.uri = uri ∧
        s.withText uri text = { s with workspace := s.workspace.add d } ∧
        s.receive n = (s.withText uri text, (s.withText uri text).publish uri)) ∨
      ∃ uri, n = .closed uri := by
  have texts (uri : Url) (text : String) (htext : n.text? = some (uri, text))
      (hn : s.receive n = (s.withText uri text, (s.withText uri text).publish uri)) :
      ((s.receive n).1 = s ∧ (∀ v, lastProblems? v (s.receive n).2 = none) ∧
          ∀ uri text, n.text? = some (uri, text) → s.withText uri text = s) ∨
        ∃ uri text d, n.text? = some (uri, text) ∧ d.Sound ∧ d.uri = uri ∧
          s.withText uri text = { s with workspace := s.workspace.add d } ∧
          s.receive n = (s.withText uri text, (s.withText uri text).publish uri) := by
    rcases s.withText_cases uri text with ⟨hsame, hnot⟩ | ⟨d, hd, huri, hadd⟩
    · left
      rw [hn, hsame, publish_of_not_contains hnot]
      refine ⟨rfl, fun v => rfl, ?_⟩
      intro u t h
      rw [htext] at h
      cases h
      exact hsame
    · exact Or.inr ⟨uri, text, d, htext, hd, huri, hadd, hn⟩
  cases n with
  | started => exact Or.inl ⟨rfl, fun v => rfl, fun u t h => by cases h⟩
  | opened uri text => exact (texts uri text rfl rfl).imp_right Or.inl
  | changed uri ts =>
      cases hlast : ts.getLast? with
      | none =>
          left
          rw [receive, hlast]
          exact ⟨rfl, fun v => rfl, fun u t h => by rw [Notice.text?, hlast] at h; cases h⟩
      | some text =>
          refine (texts uri text ?_ ?_).imp_right Or.inl
          · rw [Notice.text?, hlast]
            rfl
          · rw [receive, hlast]
  | closed uri => exact Or.inr (Or.inr ⟨uri, rfl⟩)

theorem options_receive (s : Server) (n : Notice) :
    (s.receive n).1.workspace.options = s.workspace.options := by
  rcases s.receive_cases n with ⟨h, -⟩ | ⟨uri, text, d, -, -, -, hadd, h⟩ | ⟨uri, rfl⟩
  · rw [h]
  · rw [h, hadd]
    rfl
  · rfl

theorem sound_receive (sound : s.workspace.Sound) (n : Notice) :
    (s.receive n).1.workspace.Sound := by
  rcases s.receive_cases n with ⟨h, -⟩ | ⟨uri, text, d, -, hd, -, hadd, h⟩ | ⟨uri, rfl⟩
  · rwa [h]
  · rw [h, hadd]
    exact sound.add hd
  · exact sound.remove uri

theorem options_run (s : Server) (notices : List Notice) :
    (s.run notices).1.workspace.options = s.workspace.options := by
  induction notices using List.reverseRecOn with
  | nil => rfl
  | append_singleton ns n ih => rw [run_concat, options_receive, ih]

theorem sound_run (sound : s.workspace.Sound) (notices : List Notice) :
    (s.run notices).1.workspace.Sound := by
  induction notices using List.reverseRecOn with
  | nil => exact sound
  | append_singleton ns n ih =>
      rw [run_concat]
      exact sound_receive ih n

theorem sound_ofSettings (settings : Settings) (root : Option Url) :
    (ofSettings settings root).workspace.Sound :=
  (Workspace.Reached.empty (Options.ofSettings settings root)).sound

/-- Sending nothing about documents changes nothing. -/
theorem informed_append (before : Informed s sent) {more : List Sent}
    (h : ∀ v, lastProblems? v more = none) : Informed s (sent ++ more) := by
  have same : ∀ v, lastProblems? v (sent ++ more) = lastProblems? v sent := fun v => by
    rw [lastProblems?_append, h v, Option.none_or]
  constructor
  · rw [fresh_iff]
    intro v hv
    rw [same]
    exact fresh_iff.1 before.fresh v hv
  · intro v hv ps hps
    rw [same] at hps
    exact before.cleared v hv ps hps

/-- What is in the workspace after a text was stored. -/
theorem stored_add {d : Document} : d.uri ∈ (s.workspace.add d).uris := by
  rw [Workspace.uris_add]
  split
  · assumption
  · simp

/-- Before any notice there is nothing to tell. -/
theorem informed_nil (settings : Settings) (root : Option Url) :
    Informed (ofSettings settings root) [] := by
  constructor
  · intro v hv
    cases hv
  · intro v _ ps hps
    cases hps

/-! ## Following includes forwards -/

/-- A notice leaves everyone informed where includes are followed forwards. -/
theorem informed_receive (forward : s.workspace.options.followParents = false)
    (sound : s.workspace.Sound) (before : Informed s sent) (n : Notice) :
    Informed (s.receive n).1 (sent ++ (s.receive n).2) := by
  rcases s.receive_cases n with ⟨h, hsent, -⟩ | ⟨uri, text, d, -, hd, rfl, hadd, h⟩ | ⟨uri, rfl⟩
  · rw [h]
    exact informed_append before hsent
  · have ext := Workspace.extends_add s.workspace d
    rw [h, hadd]
    refine ⟨?_, cleared_publish ext stored_add before.cleared⟩
    rw [fresh_publish_iff ext stored_add before.fresh]
    intro v hv hdep
    have hv' := Workspace.contains_iff.2 hv
    have hne : v ≠ d.uri := by
      rintro rfl
      exact hdep (Workspace.mem_dependents_iff.2 ⟨hv', .refl⟩)
    have apart : ¬ (s.workspace.add d).graph.Reach false v d.uri := by
      intro hreach
      apply hdep
      rw [Workspace.mem_dependents_iff, ← ext.options, forward]
      exact ⟨hv', hreach⟩
    refine problems?_congr rfl (ext.get?_eq hne).symm ?_
    change (s.workspace.add d).graph.traverse s.workspace.options.followParents v = _
    rw [forward]
    exact (ext.traverse_eq apart).symm
  · exact ⟨fresh_closed sound before.fresh uri, cleared_closed before.cleared uri⟩

/-- **Where includes are followed forwards, an editor is informed after every notice.** -/
theorem informed_of_forward (settings : Settings) (root : Option Url)
    (forward : settings.workspace.followParents = false) (notices : List Notice) :
    Informed ((ofSettings settings root).run notices).1
      ((ofSettings settings root).run notices).2 := by
  induction notices using List.reverseRecOn with
  | nil => exact informed_nil settings root
  | append_singleton ns n ih =>
      rw [run_concat]
      refine informed_receive ?_ (sound_run (sound_ofSettings settings root) ns) ih n
      rw [options_run]
      exact forward

namespace Example

def url (path : String) : Url := ⟨"file", some ⟨"", "", none⟩, path, none, none⟩

/-- A document includes a chapter, which refers to a label of the document. -/
def opening : List Notice :=
  [.opened (url "/main.tex") "\\input{a}\\label{x}", .opened (url "/a.tex") "\\ref{x}"]

end Example

theorem informed_of_forward_default :
    Settings.default.workspace.followParents = false ∧
      Informed
        ((ofSettings .default none).run
          (Example.opening ++ [.closed (Example.url "/main.tex")])).1
        ((ofSettings .default none).run
          (Example.opening ++ [.closed (Example.url "/main.tex")])).2 :=
  ⟨rfl, informed_of_forward .default none rfl _⟩

/-! ## Following includes backwards too -/

end Server

/-- A new text under `uri` leaves `v` without a connection to `uri`, though it was connected to
`uri` or to a document that includes something else now. -/
def Workspace.Separated (uri : Url) (w w' : Workspace) (v : Url) : Prop :=
  v ∈ w'.uris ∧ ¬ w'.graph.Reach true v uri ∧
    ∃ e, w.graph.Reach true v e ∧ (e = uri ∨ w.targetsAt e ≠ w'.targetsAt e)

namespace Server

variable {s t : Server} {sent : List Sent}

/-- The notice brings no text that changes the problems of a document that it separates. -/
def Spares (s : Server) (n : Notice) : Prop :=
  ∀ uri text, n.text? = some (uri, text) →
    ∀ v, Workspace.Separated uri s.workspace (s.withText uri text).workspace v →
      (s.withText uri text).problems? v = s.problems? v

/-- A text that is ignored separates nothing. -/
theorem spares_of_ignored {n : Notice}
    (h : ∀ uri text, n.text? = some (uri, text) → s.withText uri text = s) : s.Spares n := by
  intro uri text htext v _
  rw [h uri text htext]

/-- A text that is stored keeps everyone up to date exactly if the documents that it separates
keep their problems. -/
theorem fresh_stored_iff (backward : s.workspace.options.followParents = true)
    (sound : s.workspace.Sound) (before : Fresh s sent) {d : Document}
    (stored : t = { s with workspace := s.workspace.add d }) :
    Fresh t (sent ++ t.publish d.uri) ↔
      ∀ v, Workspace.Separated d.uri s.workspace t.workspace v → t.problems? v = s.problems? v := by
  subst stored
  have ext := Workspace.extends_add s.workspace d
  rw [fresh_publish_iff ext stored_add before]
  have hdep : ∀ v, v ∈ (s.workspace.add d).uris →
      (v ∉ (s.workspace.add d).dependents d.uri ↔
        ¬ (s.workspace.add d).graph.Reach true v d.uri) := by
    intro v hv
    rw [Workspace.mem_dependents_iff, ← ext.options, backward]
    simp [Workspace.contains_iff.2 hv]
  constructor
  · intro kept v hsep
    exact kept v hsep.1 ((hdep v hsep.1).2 hsep.2.1)
  · intro spares v hv hout
    have apart := (hdep v hv).1 hout
    by_cases hsep : Workspace.Separated d.uri s.workspace (s.workspace.add d) v
    · exact spares v hsep
    · have hne : v ≠ d.uri := by
        rintro rfl
        exact apart .refl
      refine Eq.symm (problems?_congr rfl (ext.get?_eq hne) ?_)
      change _ = (s.workspace.add d).graph.traverse s.workspace.options.followParents v
      rw [backward]
      apply ext.project_eq _ sound.nodup apart
      intro e hreach
      have hkept : ¬ (e = d.uri ∨ s.workspace.targetsAt e ≠ (s.workspace.add d).targetsAt e) := by
        intro hmoved
        exact hsep ⟨hv, apart, e, hreach, hmoved⟩
      rwa [not_or, not_not] at hkept

/-- A notice keeps everyone up to date exactly if it spares what it separates. -/
theorem fresh_receive_iff (backward : s.workspace.options.followParents = true)
    (sound : s.workspace.Sound) (before : Fresh s sent) (n : Notice) :
    Fresh (s.receive n).1 (sent ++ (s.receive n).2) ↔ s.Spares n := by
  rcases s.receive_cases n with ⟨h, hsent, hign⟩ | ⟨uri, text, d, htext, hd, rfl, hadd, h⟩ |
    ⟨uri, rfl⟩
  · rw [h]
    constructor
    · intro _
      exact spares_of_ignored hign
    · intro _
      rw [fresh_iff]
      intro v hv
      rw [lastProblems?_append, hsent v, Option.none_or]
      exact fresh_iff.1 before v hv
  · rw [h, fresh_stored_iff backward sound before hadd]
    constructor
    · intro kept uri' text' htext'
      rw [htext] at htext'
      cases htext'
      exact kept
    · intro spares
      exact spares d.uri text htext
  · constructor
    · intro _
      apply spares_of_ignored
      intro u t htext
      cases htext
    · intro _
      exact fresh_closed sound before uri

/-- **Where includes are followed backwards too, an editor is up to date after every notice of
a run exactly if no new text of the run changes the problems of a document it separates.** -/
theorem fresh_iff_spares (settings : Settings) (root : Option Url)
    (backward : settings.workspace.followParents = true) (notices : List Notice) :
    (∀ done, done <+: notices →
        Fresh ((ofSettings settings root).run done).1 ((ofSettings settings root).run done).2) ↔
      ∀ done n, done ++ [n] <+: notices → ((ofSettings settings root).run done).1.Spares n := by
  have step (done : List Notice) (n : Notice)
      (before : Fresh ((ofSettings settings root).run done).1
        ((ofSettings settings root).run done).2) :
      Fresh ((ofSettings settings root).run (done ++ [n])).1
          ((ofSettings settings root).run (done ++ [n])).2 ↔
        ((ofSettings settings root).run done).1.Spares n := by
    rw [run_concat]
    refine fresh_receive_iff ?_ (sound_run (sound_ofSettings settings root) done) before n
    rw [options_run]
    exact backward
  constructor
  · intro fresh done n hpre
    exact (step done n (fresh done ((List.prefix_append done [n]).trans hpre))).1
      (fresh (done ++ [n]) hpre)
  · intro spares done hpre
    induction done using List.reverseRecOn with
    | nil => exact (informed_nil settings root).fresh
    | append_singleton done n ih =>
        exact (step done n (ih ((List.prefix_append done [n]).trans hpre))).2
          (spares done n hpre)

namespace Example

/-- Settings that follow includes backwards too. -/
def settings : Settings := { Settings.default with workspace := ⟨none, true⟩ }

/-- The document and its chapter, as the workspace stores them. -/
def book : Document := ((Document.create (url "/main.tex") .latex).withText
  "\\input{a}\\label{x}").analyzed

def chapter : Document := ((Document.create (url "/a.tex") .latex).withText "\\ref{x}").analyzed

/-- The document drops the chapter. -/
def drop : Notice := .changed (url "/main.tex") ["\\label{x}"]

/-- The session before the chapter is dropped. -/
def session : Server := ((ofSettings settings none).run opening).1

def dropped : Server := session.withText (url "/main.tex") "\\label{x}"

end Example

theorem fresh_iff_spares_drop :
    Example.settings.workspace.followParents = true ∧
      ((∀ done, done <+: Example.opening ++ [Example.drop] →
          Fresh ((ofSettings Example.settings none).run done).1
            ((ofSettings Example.settings none).run done).2) ↔
        ∀ done n, done ++ [n] <+: Example.opening ++ [Example.drop] →
          ((ofSettings Example.settings none).run done).1.Spares n) :=
  ⟨rfl, fresh_iff_spares Example.settings none rfl (Example.opening ++ [Example.drop])⟩

/-- The problems of a document whose walk ends within a number of steps. -/
def problemsWithin (s : Server) (steps : Nat) (uri : Url) : Option (List Problem) :=
  (s.workspace.get? uri).bind fun d =>
    (s.workspace.graph.visitWithin s.workspace.options.followParents steps [] [uri]).map
      (Problem.all s.settings.diagnostics d)

theorem problems?_of_within {s : Server} {steps : Nat} {uri : Url} {ps : List Problem}
    (h : s.problemsWithin steps uri = some ps) : s.problems? uri = some ps := by
  obtain ⟨d, hd, h⟩ := Option.bind_eq_some_iff.1 h
  obtain ⟨ds, hds, rfl⟩ := Option.map_eq_some_iff.1 h
  rw [problems?_of_get? hd, Graph.traverse, Graph.visit_eq_of_within hds]

/-- The chapter is separated from its label, and is not told. -/
theorem not_fresh_drop :
    ¬ ∀ done, done <+: Example.opening ++ [Example.drop] →
      Fresh ((ofSettings Example.settings none).run done).1
        ((ofSettings Example.settings none).run done).2 := by
  intro fresh
  have spares : Example.session.Spares Example.drop := by
    have after := fresh _ (List.prefix_refl _)
    rw [run_concat] at after
    exact (fresh_receive_iff rfl (sound_run (sound_ofSettings _ _) _)
      (fresh _ (List.prefix_append _ _)) _).1 after
  -- the chapter knows the label before, and has it undefined after
  have known : Example.session.problems? (Example.url "/a.tex") = some [] :=
    @problems?_of_within Example.session 4 _ _ (by decide +kernel)
  have undefined : Example.dropped.problems? (Example.url "/a.tex") =
      some [⟨⟨⟨0, 5⟩, ⟨0, 6⟩⟩, .warning, some "REF001", "Undefined label 'x'"⟩] :=
    @problems?_of_within Example.dropped 4 _ _ (by decide +kernel)
  have separated : Workspace.Separated (Example.url "/main.tex") Example.session.workspace
      Example.dropped.workspace (Example.url "/a.tex") := by
    refine ⟨by decide +kernel, ?_, Example.url "/main.tex", .single ?_, Or.inl rfl⟩
    · obtain ⟨n, hn⟩ := Option.isSome_iff_exists.1
        (show (Example.dropped.workspace.graph.node? (Example.url "/main.tex")).isSome from by
          decide +kernel)
      have walk : Example.dropped.workspace.graph.visitWithin true 4 [] [Example.url "/a.tex"] =
          some [Example.chapter] := by decide +kernel
      exact Graph.not_reach_of_within walk hn (by decide +kernel)
    · exact Workspace.edge_true_iff.2 ⟨Example.chapter, by decide +kernel,
        Or.inr ⟨Example.book, by decide +kernel, by decide +kernel, by decide +kernel⟩⟩
  have same := spares (Example.url "/main.tex") "\\label{x}" rfl _ separated
  rw [known] at same
  exact absurd (undefined.symm.trans same) (by decide)

end Server

end Manuscript

/-
# Manuscript.Proofs.Workspace.Walk -- what a walk over the include graph lists

`Graph.visit` is a loop with a stack.  Here the loop is left behind: a walk lists
exactly the documents that `Graph.Reach` reaches (`mem_traverse_iff`), each once
(`nodup_traverse`) and the origin first (`traverse_eq_cons`).

A walk looks at nothing but the nodes it reaches.  So two graphs that have the same
nodes and the same neighbours wherever the walk goes give the same list, in the
same order (`traverse_congr`); this is what lets a document outside the reach of an
edit keep everything that was computed for it.
-/
import Manuscript.Workspace.Graph
import Mathlib.Logic.Relation

namespace Manuscript.Graph

set_option autoImplicit false

variable (g : Graph) (undirected : Bool)

/-- A walk can go from `a` to `b` in one step. -/
def Edge (a b : Url) : Prop := ∃ n, g.node? a = some n ∧ b ∈ g.neighbours undirected n

/-- A walk can go from `a` to `b`. -/
abbrev Reach (a b : Url) : Prop := Relation.ReflTransGen (g.Edge undirected) a b

variable {g undirected}

/-! ## One step of the loop -/

theorem visit_nil (visited : List Url) : g.visit undirected visited [] = [] := by
  rw [visit]

theorem visit_of_mem {visited stack : List Url} {uri : Url} (h : uri ∈ visited) :
    g.visit undirected visited (uri :: stack) = g.visit undirected visited stack := by
  rw [visit, dif_pos h]

theorem visit_of_none {visited stack : List Url} {uri : Url} (hv : uri ∉ visited)
    (hn : g.node? uri = none) :
    g.visit undirected visited (uri :: stack) = g.visit undirected (uri :: visited) stack := by
  rw [visit, dif_neg hv]
  split
  · rfl
  · rename_i n h
    rw [hn] at h
    cases h

theorem visit_of_some {visited stack : List Url} {uri : Url} {n : Node} (hv : uri ∉ visited)
    (hn : g.node? uri = some n) :
    g.visit undirected visited (uri :: stack) =
      n.document :: g.visit undirected (uri :: visited)
        ((g.neighbours undirected n).filter (fun v => v ∉ uri :: visited) ++ stack) := by
  rw [visit, dif_neg hv]
  split
  · rename_i h
    rw [hn] at h
    cases h
  · rename_i m h
    rw [hn] at h
    cases h
    rfl

/-- The walk as an induction: nothing is left, a URL is known, a URL has no document, or a
document is listed. -/
theorem visit_induction {motive : List Url → List Url → Prop}
    (nil : ∀ visited, motive visited [])
    (known : ∀ visited uri stack, uri ∈ visited → motive visited stack →
      motive visited (uri :: stack))
    (missing : ∀ visited uri stack, uri ∉ visited → g.node? uri = none →
      motive (uri :: visited) stack → motive visited (uri :: stack))
    (listed : ∀ visited uri stack n, uri ∉ visited → g.node? uri = some n →
      motive (uri :: visited)
        ((g.neighbours undirected n).filter (fun v => v ∉ uri :: visited) ++ stack) →
      motive visited (uri :: stack))
    (visited stack : List Url) : motive visited stack := by
  induction visited, stack using visit.induct g undirected with
  | case1 visited => exact nil visited
  | case2 visited uri stack h ih => exact known visited uri stack h ih
  | case3 visited uri stack hv hn ih => exact missing visited uri stack hv hn ih
  | case4 visited uri stack hv n hn next ih => exact listed visited uri stack n hv hn ih

/-! ## Walks that can be computed

`visit` ends because fewer documents are left, which no evaluation sees.  `visitWithin` counts
its steps instead. -/

/-- The documents of a walk that ends within a number of steps. -/
def visitWithin (g : Graph) (undirected : Bool) :
    Nat → List Url → List Url → Option (List Document)
  | _, _, [] => some []
  | 0, _, _ :: _ => none
  | steps + 1, visited, uri :: stack =>
      if uri ∈ visited then visitWithin g undirected steps visited stack
      else match g.node? uri with
        | none => visitWithin g undirected steps (uri :: visited) stack
        | some n =>
            let next := (g.neighbours undirected n).filter fun v => v ∉ uri :: visited
            (visitWithin g undirected steps (uri :: visited) (next ++ stack)).map
              (n.document :: ·)

theorem visit_eq_of_within {steps : Nat} {visited stack : List Url} {ds : List Document}
    (h : g.visitWithin undirected steps visited stack = some ds) :
    g.visit undirected visited stack = ds := by
  induction steps generalizing visited stack ds with
  | zero =>
      cases stack with
      | nil =>
          cases h
          exact visit_nil visited
      | cons uri stack => cases h
  | succ steps ih =>
      cases stack with
      | nil =>
          cases h
          exact visit_nil visited
      | cons uri stack =>
          rw [visitWithin] at h
          by_cases hv : uri ∈ visited
          · rw [if_pos hv] at h
            rw [visit_of_mem hv, ih h]
          · rw [if_neg hv] at h
            cases hn : g.node? uri with
            | none =>
                rw [hn] at h
                rw [visit_of_none hv hn, ih h]
            | some n =>
                rw [hn] at h
                obtain ⟨more, hmore, rfl⟩ := Option.map_eq_some_iff.1 h
                rw [visit_of_some hv hn, ih hmore]

theorem map_traverse_of_within {α : Type} {f : Document → α} {steps : Nat} {origin : Url}
    {as : List α}
    (h : (g.visitWithin undirected steps [] [origin]).map (List.map f) = some as) :
    (g.traverse undirected origin).map f = as := by
  obtain ⟨ds, hds, rfl⟩ := Option.map_eq_some_iff.1 h
  rw [traverse, visit_eq_of_within hds]

/-! ## Which documents are listed -/

theorem node_uri {uri : Url} {n : Node} (h : g.node? uri = some n) : n.document.uri = uri :=
  (mem_of_node? h).2

/-- Whatever waits on the stack is listed, unless it was visited before. -/
theorem mem_visit_of_mem_stack {v : Url} {m : Node} (hm : g.node? v = some m)
    (visited stack : List Url) (hs : v ∈ stack) (hv : v ∉ visited) :
    m.document ∈ g.visit undirected visited stack := by
  induction visited, stack using @visit_induction g undirected with
  | nil visited => cases hs
  | known visited uri stack h ih =>
      rw [visit_of_mem h]
      rcases List.mem_cons.1 hs with rfl | hs
      · exact absurd h hv
      · exact ih hs hv
  | missing visited uri stack h hn ih =>
      rw [visit_of_none h hn]
      rcases List.mem_cons.1 hs with rfl | hs
      · rw [hm] at hn
        cases hn
      · have hne : v ≠ uri := fun e => by
          rw [e, hn] at hm
          cases hm
        exact ih hs (by simp [hne, hv])
  | listed visited uri stack n h hn ih =>
      rw [visit_of_some h hn]
      by_cases hne : v = uri
      · subst hne
        rw [hn] at hm
        cases hm
        exact List.mem_cons_self
      · refine List.mem_cons_of_mem _ (ih (List.mem_append_right _ ?_) (by simp [hne, hv]))
        exact (List.mem_cons.1 hs).resolve_left hne

/-- Where a listed document goes is listed too, or was visited before. -/
theorem mem_visit_of_neighbour {u v : Url} {n m : Node} (hn : g.node? u = some n)
    (hm : g.node? v = some m) (hv : v ∈ g.neighbours undirected n) (visited stack : List Url)
    (hu : u ∉ visited) (hlisted : n.document ∈ g.visit undirected visited stack) :
    v ∈ visited ∨ m.document ∈ g.visit undirected visited stack := by
  induction visited, stack using @visit_induction g undirected with
  | nil visited => rw [visit_nil] at hlisted; cases hlisted
  | known visited uri stack h ih =>
      rw [visit_of_mem h] at hlisted ⊢
      exact ih hu hlisted
  | missing visited uri stack h hnone ih =>
      rw [visit_of_none h hnone] at hlisted ⊢
      have hne : u ≠ uri := fun e => by
        rw [e, hnone] at hn
        cases hn
      rcases ih (by simp [hne, hu]) hlisted with hmem | hmem
      · rcases List.mem_cons.1 hmem with rfl | hmem
        · rw [hm] at hnone
          cases hnone
        · exact Or.inl hmem
      · exact Or.inr hmem
  | listed visited uri stack k h hk ih =>
      rw [visit_of_some h hk] at hlisted ⊢
      by_cases hvv : v ∈ visited
      · exact Or.inl hvv
      right
      by_cases hveq : v = uri
      · subst hveq
        rw [hk] at hm
        cases hm
        exact List.mem_cons_self
      apply List.mem_cons_of_mem _
      by_cases hueq : u = uri
      · -- the neighbours of the document just listed wait on the stack
        subst hueq
        rw [hk] at hn
        cases hn
        refine mem_visit_of_mem_stack hm _ _ (List.mem_append_left _ ?_) (by simp [hveq, hvv])
        simp [hv, hveq, hvv]
      · rcases List.mem_cons.1 hlisted with heq | hlisted
        · have := congrArg Document.uri heq
          rw [node_uri hn, node_uri hk] at this
          exact absurd this hueq
        · rcases ih (by simp [hueq, hu]) hlisted with hmem | hmem
          · exact absurd (List.mem_cons.1 hmem) (by simp [hveq, hvv])
          · exact hmem

/-- A listed document is reached from the stack. -/
theorem reach_of_mem_visit {d : Document} (visited stack : List Url)
    (h : d ∈ g.visit undirected visited stack) :
    ∃ n, g.node? d.uri = some n ∧ n.document = d ∧ d.uri ∉ visited ∧
      ∃ u ∈ stack, g.Reach undirected u d.uri := by
  induction visited, stack using @visit_induction g undirected with
  | nil visited => rw [visit_nil] at h; cases h
  | known visited uri stack hv ih =>
      rw [visit_of_mem hv] at h
      obtain ⟨n, hn, hd, hvis, u, hu, hreach⟩ := ih h
      exact ⟨n, hn, hd, hvis, u, List.mem_cons_of_mem _ hu, hreach⟩
  | missing visited uri stack hv hnone ih =>
      rw [visit_of_none hv hnone] at h
      obtain ⟨n, hn, hd, hvis, u, hu, hreach⟩ := ih h
      exact ⟨n, hn, hd, fun e => hvis (List.mem_cons_of_mem _ e), u, List.mem_cons_of_mem _ hu,
        hreach⟩
  | listed visited uri stack n hv hn ih =>
      rw [visit_of_some hv hn] at h
      rcases List.mem_cons.1 h with rfl | h
      · have huri := node_uri hn
        exact ⟨n, by rw [huri, hn], rfl, by rwa [huri], uri, List.mem_cons_self, by rw [huri]⟩
      · obtain ⟨m, hm, hd, hvis, u, hu, hreach⟩ := ih h
        refine ⟨m, hm, hd, fun e => hvis (List.mem_cons_of_mem _ e), ?_⟩
        rcases List.mem_append.1 hu with hu | hu
        · have hedge : g.Edge undirected uri u := ⟨n, hn, (List.mem_filter.1 hu).1⟩
          exact ⟨uri, List.mem_cons_self, .head hedge hreach⟩
        · exact ⟨u, List.mem_cons_of_mem _ hu, hreach⟩

/-- **A walk lists exactly the documents it can reach.** -/
theorem mem_traverse_iff {origin : Url} {d : Document} :
    d ∈ g.traverse undirected origin ↔
      ∃ n, g.node? d.uri = some n ∧ n.document = d ∧ g.Reach undirected origin d.uri := by
  constructor
  · intro h
    obtain ⟨n, hn, hd, -, u, hu, hreach⟩ := reach_of_mem_visit [] [origin] h
    rw [List.mem_singleton.1 hu] at hreach
    exact ⟨n, hn, hd, hreach⟩
  · rintro ⟨n, hn, rfl, hreach⟩
    -- every node on the way is listed, by induction on the way from its start
    suffices ∀ v m, g.node? v = some m → g.Reach undirected origin v →
        m.document ∈ g.traverse undirected origin from this _ n hn hreach
    intro v m hm hreach
    induction hreach generalizing m with
    | refl => exact mem_visit_of_mem_stack hm [] [origin] (by simp) (by simp)
    | tail _ edge ih =>
        obtain ⟨k, hk, hv⟩ := edge
        exact (mem_visit_of_neighbour hk hm hv [] [origin] (by simp) (ih k hk)).resolve_left
          (by simp)

/-- What a computed walk does not list is not reached. -/
theorem not_reach_of_within {steps : Nat} {origin v : Url} {n : Node} {ds : List Document}
    (h : g.visitWithin undirected steps [] [origin] = some ds) (hn : g.node? v = some n)
    (hv : v ∉ ds.map Document.uri) : ¬ g.Reach undirected origin v := by
  intro hreach
  have huri := node_uri hn
  have hmem : n.document ∈ g.traverse undirected origin :=
    mem_traverse_iff.2 ⟨n, by rw [huri, hn], rfl, by rwa [huri]⟩
  rw [traverse, visit_eq_of_within h] at hmem
  exact hv (huri ▸ List.mem_map_of_mem hmem)

/-- The documents of a walk have different URLs. -/
theorem nodup_visit (visited stack : List Url) :
    ((g.visit undirected visited stack).map Document.uri).Nodup := by
  induction visited, stack using @visit_induction g undirected with
  | nil visited => simp [visit_nil]
  | known visited uri stack hv ih => rwa [visit_of_mem hv]
  | missing visited uri stack hv hnone ih => rwa [visit_of_none hv hnone]
  | listed visited uri stack n hv hn ih =>
      rw [visit_of_some hv hn, List.map_cons, List.nodup_cons]
      refine ⟨?_, ih⟩
      intro hmem
      obtain ⟨d, hd, huri⟩ := List.mem_map.1 hmem
      obtain ⟨m, -, -, hvis, -⟩ := reach_of_mem_visit _ _ hd
      exact hvis (by rw [huri, node_uri hn]; exact List.mem_cons_self)

theorem nodup_traverse (origin : Url) :
    ((g.traverse undirected origin).map Document.uri).Nodup :=
  nodup_visit [] [origin]

/-- A walk starts with its origin. -/
theorem traverse_eq_cons {origin : Url} {n : Node} (h : g.node? origin = some n) :
    ∃ rest, g.traverse undirected origin = n.document :: rest :=
  ⟨_, visit_of_some (by simp) h⟩

/-! ## Graphs that agree where a walk goes -/

/-- The two graphs look the same at a URL. -/
def SameAt (g h : Graph) (undirected : Bool) (u : Url) : Prop :=
  g.node? u = h.node? u ∧
    ∀ n, g.node? u = some n → g.neighbours undirected n = h.neighbours undirected n

theorem visit_congr {h : Graph} (visited stack : List Url)
    (same : ∀ u ∈ stack, ∀ v, g.Reach undirected u v → SameAt g h undirected v) :
    g.visit undirected visited stack = h.visit undirected visited stack := by
  induction visited, stack using @visit_induction g undirected with
  | nil visited => rw [visit_nil, visit_nil]
  | known visited uri stack hv ih =>
      rw [visit_of_mem hv, visit_of_mem hv]
      exact ih fun u hu => same u (List.mem_cons_of_mem _ hu)
  | missing visited uri stack hv hnone ih =>
      have hs := same uri List.mem_cons_self uri .refl
      rw [visit_of_none hv hnone, visit_of_none hv (hs.1 ▸ hnone)]
      exact ih fun u hu => same u (List.mem_cons_of_mem _ hu)
  | listed visited uri stack n hv hn ih =>
      have hs := same uri List.mem_cons_self uri .refl
      rw [visit_of_some hv hn, visit_of_some hv (hs.1 ▸ hn), ← hs.2 n hn]
      congr 1
      apply ih
      intro u hu v hreach
      rcases List.mem_append.1 hu with hu | hu
      · exact same uri List.mem_cons_self v (.head ⟨n, hn, (List.mem_filter.1 hu).1⟩ hreach)
      · exact same u (List.mem_cons_of_mem _ hu) v hreach

/-- **A walk depends only on what it reaches.** -/
theorem traverse_congr {h : Graph} {origin : Url}
    (same : ∀ v, g.Reach undirected origin v → SameAt g h undirected v) :
    g.traverse undirected origin = h.traverse undirected origin := by
  apply visit_congr [] [origin]
  intro u hu v hreach
  rw [List.mem_singleton.1 hu] at hreach
  exact same v hreach

end Manuscript.Graph

import SyntaxGraph.Drawing.Walk
import SyntaxGraph.Proofs.Drawing.Visits

namespace SyntaxGraph.View

abbrev Outcome := Except DrawError Unit × Graph

/-- Draws nodes from the first to the last, each with all below it before the next one, up to the
first error. The nodes are listed in the order in which they are looked up. -/
inductive Descends (v : View) : List NodeId → Graph → List NodeId → Outcome → Prop
  | done {g} : Descends v [] g [] (.ok (), g)
  | missing {id rest g} (hn : v.tree.node? id = none) :
    Descends v (id :: rest) g [id] (.error (.danglingNode id), g)
  | omitted {id rest g n visited r} (hn : v.tree.node? id = some n)
    (hs : v.registry.resolve n.kind = none) (hr : Descends v rest g visited r) :
    Descends v (id :: rest) g (id :: visited) r
  | failed {id rest g n s e g'} (hn : v.tree.node? id = some n)
    (hs : v.registry.resolve n.kind = some s)
    (hm : v.make id (s.plan v.tree n) g = (.error e, g')) :
    Descends v (id :: rest) g [id] (.error e, g')
  | stopped {id rest g n s children g' below e g''} (hn : v.tree.node? id = some n)
    (hs : v.registry.resolve n.kind = some s)
    (hm : v.make id (s.plan v.tree n) g = (.ok children, g'))
    (hc : Descends v children g' below (.error e, g'')) :
    Descends v (id :: rest) g (id :: below) (.error e, g'')
  | drawn {id rest g n s children g' below g'' visited r} (hn : v.tree.node? id = some n)
    (hs : v.registry.resolve n.kind = some s)
    (hm : v.make id (s.plan v.tree n) g = (.ok children, g'))
    (hc : Descends v children g' below (.ok (), g'')) (hr : Descends v rest g'' visited r) :
    Descends v (id :: rest) g (id :: (below ++ visited)) r

def resume (v : View) (n : Nat) (pending : List NodeId) : Outcome → Outcome
  | (.error e, g) => (.error e, g)
  | (.ok (), g) => v.walk n pending g

def visits (v : View) : Nat → List NodeId → List NodeId
  | _, [] => []
  | 0, _ :: _ => []
  | n + 1, id :: pending =>
    match v.references id with
    | .error _ => [id]
    | .ok children => id :: v.visits n (children ++ pending)

section

variable {v : View} {id : NodeId} {n : Node} {s : Strategy}

theorem visit_missing (hn : v.tree.node? id = none) (g : Graph) :
    v.visit id g = (.error (.danglingNode id), g) := by
  simp [visit, node, hn]

theorem visit_omitted (hn : v.tree.node? id = some n) (hs : v.registry.resolve n.kind = none)
    (g : Graph) : v.visit id g = (.ok [], g) := by
  simp [visit, node, hn, hs]

theorem visit_drawn (hn : v.tree.node? id = some n) (hs : v.registry.resolve n.kind = some s)
    (g : Graph) : v.visit id g = v.make id (s.plan v.tree n) g := by
  simp [visit, node, hn, hs]

theorem walk_cons (v : View) (k : Nat) (id : NodeId) (pending : List NodeId) (g : Graph) :
    v.walk (k + 1) (id :: pending) g = match v.visit id g with
      | (.error e, g) => (.error e, g)
      | (.ok children, g) => v.walk k (children ++ pending) g :=
  rfl

theorem visits_cons (v : View) (k : Nat) (id : NodeId) (pending : List NodeId) (g : Graph) :
    v.visits (k + 1) (id :: pending) = match (v.visit id g).1 with
      | .error _ => [id]
      | .ok children => id :: v.visits k (children ++ pending) := by
  rw [visit_fst]
  rfl

end

theorem length_drawn (id : NodeId) (below visited : List NodeId) (n : Nat) :
    (id :: (below ++ visited)).length + n = below.length + (visited.length + n) + 1 := by
  simp only [List.length_cons, List.length_append]
  omega

theorem Descends.walk {v : View} {ids : List NodeId} {g : Graph} {visited : List NodeId} {r : Outcome}
    (h : v.Descends ids g visited r) (n : Nat) (pending : List NodeId) :
    v.walk (visited.length + n) (ids ++ pending) g = v.resume n pending r := by
  induction h generalizing n pending with
  | done =>
    rw [List.length_nil, Nat.zero_add]
    rfl
  | missing hn =>
    rw [List.length_singleton, Nat.add_comm, List.cons_append, walk_cons, visit_missing hn]
    rfl
  | omitted hn hs _ ih =>
    rw [List.length_cons, Nat.add_right_comm, List.cons_append, walk_cons, visit_omitted hn hs]
    exact ih n pending
  | failed hn hs hm =>
    rw [List.length_singleton, Nat.add_comm, List.cons_append, walk_cons, visit_drawn hn hs, hm]
    rfl
  | stopped hn hs hm _ ih =>
    rw [List.length_cons, Nat.add_right_comm, List.cons_append, walk_cons, visit_drawn hn hs, hm]
    exact ih n _
  | @drawn id rest g m s children g' below g'' visited r hn hs hm _ _ ihc ihr =>
    rw [length_drawn, List.cons_append, walk_cons, visit_drawn hn hs, hm]
    exact (ihc _ _).trans (ihr n pending)

theorem Descends.visits {v : View} {ids : List NodeId} {g : Graph} {visited : List NodeId}
    {r : Outcome} (h : v.Descends ids g visited r) (n : Nat) (pending : List NodeId) :
    v.visits (visited.length + n) (ids ++ pending) =
      visited ++ if r.1.isOk then v.visits n pending else [] := by
  induction h generalizing n pending with
  | done => simp [Except.isOk, Except.toBool]
  | @missing id rest g hn =>
    rw [List.length_singleton, Nat.add_comm, List.cons_append, visits_cons _ _ _ _ g, visit_missing hn]
    rfl
  | @omitted id rest g m visited r hn hs _ ih =>
    rw [List.length_cons, Nat.add_right_comm, List.cons_append, visits_cons _ _ _ _ g,
      visit_omitted hn hs, List.cons_append, ← ih n pending]
    rfl
  | @failed id rest g m s e g' hn hs hm =>
    rw [List.length_singleton, Nat.add_comm, List.cons_append, visits_cons _ _ _ _ g,
      visit_drawn hn hs, hm]
    rfl
  | @stopped id rest g m s children g' below e g'' hn hs hm _ ih =>
    rw [List.length_cons, Nat.add_right_comm, List.cons_append, visits_cons _ _ _ _ g,
      visit_drawn hn hs, hm]
    exact congrArg (id :: ·) (ih n _)
  | @drawn id rest g m s children g' below g'' visited r hn hs hm _ _ ihc ihr =>
    rw [length_drawn, List.cons_append, visits_cons _ _ _ _ g, visit_drawn hn hs, hm]
    simp only [ihc, ihr, List.append_assoc, List.cons_append]
    rfl

section

variable {v : View} {id : NodeId} {rest children ids ids' below visited visited' : List NodeId}
  {g g' g'' : Graph} {e : DrawError} {r : Outcome}

theorem Descends.of_visit_error (hv : v.visit id g = (.error e, g')) :
    v.Descends (id :: rest) g [id] (.error e, g') := by
  cases hn : v.tree.node? id with
  | none =>
    rw [visit_missing hn] at hv
    cases hv
    exact .missing hn
  | some n =>
    cases hs : v.registry.resolve n.kind with
    | none =>
      rw [visit_omitted hn hs] at hv
      cases hv
    | some s => exact .failed hn hs (visit_drawn hn hs g ▸ hv)

theorem Descends.of_visit_stopped (hv : v.visit id g = (.ok children, g'))
    (hc : v.Descends children g' below (.error e, g'')) :
    v.Descends (id :: rest) g (id :: below) (.error e, g'') := by
  cases hn : v.tree.node? id with
  | none =>
    rw [visit_missing hn] at hv
    cases hv
  | some n =>
    cases hs : v.registry.resolve n.kind with
    | none =>
      rw [visit_omitted hn hs] at hv
      cases hv
      cases hc
    | some s => exact .stopped hn hs (visit_drawn hn hs g ▸ hv) hc

theorem Descends.of_visit_ok (hv : v.visit id g = (.ok children, g'))
    (hc : v.Descends children g' below (.ok (), g'')) (hr : v.Descends rest g'' visited r) :
    v.Descends (id :: rest) g (id :: (below ++ visited)) r := by
  cases hn : v.tree.node? id with
  | none =>
    rw [visit_missing hn] at hv
    cases hv
  | some n =>
    cases hs : v.registry.resolve n.kind with
    | none =>
      rw [visit_omitted hn hs] at hv
      cases hv
      cases hc
      exact .omitted hn hs hr
    | some s => exact .drawn hn hs (visit_drawn hn hs g ▸ hv) hc hr

end

theorem Descends.graph {v : View} {ids : List NodeId} {g : Graph} {visited : List NodeId}
    {r : Outcome} (h : v.Descends ids g visited r) :
    r.2 = g.applyAll (visited.flatMap v.visitChanges) := by
  have hsnd {id : NodeId} {g g' : Graph} {result : Except DrawError (List NodeId)}
      (hv : v.visit id g = (result, g')) : g' = g.applyAll (v.visitChanges id) := by
    rw [← visit_snd, hv]
  induction h with
  | done => rfl
  | missing hn => simpa using hsnd (visit_missing hn _)
  | omitted hn hs _ ih =>
    rw [List.flatMap_cons, Graph.applyAll_append, ← hsnd (visit_omitted hn hs _)]
    exact ih
  | failed hn hs hm => simpa using hsnd ((visit_drawn hn hs _).trans hm)
  | stopped hn hs hm _ ih =>
    rw [List.flatMap_cons, Graph.applyAll_append, ← hsnd ((visit_drawn hn hs _).trans hm)]
    exact ih
  | drawn hn hs hm _ _ ihc ihr =>
    rw [List.flatMap_cons, List.flatMap_append, Graph.applyAll_append, Graph.applyAll_append,
      ← hsnd ((visit_drawn hn hs _).trans hm), ← ihc]
    exact ihr

theorem Descends.references_ok {v : View} {ids : List NodeId} {g : Graph} {visited : List NodeId}
    {r : Outcome} (h : v.Descends ids g visited r) (hr : r.1 = .ok ()) :
    ∀ id ∈ visited, ∃ children, v.references id = .ok children := by
  have hfst {id : NodeId} {g g' : Graph} {children : List NodeId}
      (hv : v.visit id g = (.ok children, g')) : ∃ children, v.references id = .ok children :=
    ⟨children, by rw [← visit_fst v id g, hv]⟩
  induction h with
  | done => simp
  | missing | failed | stopped => cases hr
  | @omitted _ _ g _ _ _ hn hs _ ih =>
    exact List.forall_mem_cons.mpr ⟨hfst (visit_omitted hn hs g), ih hr⟩
  | drawn hn hs hm _ _ ihc ihr =>
    refine List.forall_mem_cons.mpr ⟨hfst ((visit_drawn hn hs _).trans hm), ?_⟩
    exact List.forall_mem_append.mpr ⟨ihc rfl, ihr hr⟩

theorem descends_of_ends {v : View} {n : Nat} {ids pending : List NodeId} {g : Graph}
    (h : (v.walk n (ids ++ pending) g).1 ≠ .error .endless) :
    ∃ visited r, v.Descends ids g visited r ∧ visited.length ≤ n := by
  -- On the visits that are left: what is below the first node takes some, the nodes after it the rest.
  induction n using Nat.strong_induction_on generalizing ids pending g with
  | _ n ih =>
    cases ids with
    | nil => exact ⟨[], _, .done, Nat.zero_le n⟩
    | cons id rest =>
      cases n with
      | zero => exact absurd rfl h
      | succ n =>
        rw [List.cons_append, walk_cons] at h
        cases hv : v.visit id g with
        | mk result g' =>
          rw [hv] at h
          cases result with
          | error e => exact ⟨[id], _, .of_visit_error hv, by simp⟩
          | ok children =>
            change (v.walk n (children ++ (rest ++ pending)) g').1 ≠ _ at h
            obtain ⟨below, ⟨result, g''⟩, hc, hle⟩ := ih n (Nat.lt_succ_self n) h
            cases result with
            | error e => exact ⟨id :: below, _, .of_visit_stopped hv hc, by simpa using hle⟩
            | ok u =>
              have hrest := hc.walk (n - below.length) (rest ++ pending)
              rw [Nat.add_sub_cancel' hle] at hrest
              rw [hrest] at h
              have hlt : n - below.length < n + 1 := by omega
              obtain ⟨visited, r, hr, hle'⟩ := ih _ hlt h
              refine ⟨id :: (below ++ visited), r, .of_visit_ok hv hc hr, ?_⟩
              simp only [List.length_cons, List.length_append]
              omega

theorem resume_nil (v : View) (n : Nat) (r : Outcome) : v.resume n [] r = r := by
  obtain ⟨result, g⟩ := r
  cases result with
  | error e => rfl
  | ok u => cases n <;> rfl

theorem Descends.walk_eq {v : View} {ids : List NodeId} {g : Graph} {visited : List NodeId}
    {r : Outcome} (h : v.Descends ids g visited r) {n : Nat} (hn : visited.length ≤ n) :
    v.walk n ids g = r := by
  have := h.walk (n - visited.length) []
  rwa [Nat.add_sub_cancel' hn, List.append_nil, resume_nil] at this

theorem Descends.visits_eq {v : View} {ids : List NodeId} {g : Graph} {visited : List NodeId}
    {r : Outcome} (h : v.Descends ids g visited r) {n : Nat} (hn : visited.length ≤ n) :
    v.visits n ids = visited := by
  have := h.visits (n - visited.length) []
  rw [Nat.add_sub_cancel' hn, List.append_nil] at this
  rw [this]
  cases hk : n - visited.length <;> simp [View.visits]

theorem descends_of_walk {v : View} {n : Nat} {ids : List NodeId} {g : Graph} {r : Outcome}
    (h : v.walk n ids g = r) (hr : r.1 ≠ .error .endless) :
    ∃ visited, v.Descends ids g visited r ∧ visited.length ≤ n := by
  subst h
  rw [← List.append_nil ids] at hr
  obtain ⟨visited, r, hd, hle⟩ := descends_of_ends hr
  exact ⟨visited, hd.walk_eq hle ▸ hd, hle⟩

theorem Descends.unique {v : View} {ids : List NodeId} {g : Graph} {visited visited' : List NodeId}
    {r r' : Outcome} (h : v.Descends ids g visited r) (h' : v.Descends ids g visited' r') :
    visited' = visited ∧ r' = r := by
  have hle := Nat.le_max_left visited.length visited'.length
  have hle' := Nat.le_max_right visited.length visited'.length
  exact ⟨(h'.visits_eq hle').symm.trans (h.visits_eq hle), (h'.walk_eq hle').symm.trans (h.walk_eq hle)⟩

end SyntaxGraph.View

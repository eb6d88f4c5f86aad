import SyntaxGraph.Proofs.Drawing.Marks

namespace SyntaxGraph.View

def drawing? (v : View) (id : NodeId) : Option (Node × Strategy) :=
  (v.tree.node? id).bind fun n => (v.registry.resolve n.kind).map (n, ·)

def followed (v : View) (id : NodeId) : List Reference :=
  match v.drawing? id with
  | some (n, s) => (s.references v.tree n).filter fun r => v.isDrawn r.1
  | none => []

def Follows (v : View) (a b : NodeId) : Prop :=
  b ∈ (v.followed a).map Prod.fst

def visitChanges (v : View) (id : NodeId) : List Change :=
  match v.drawing? id with
  | some (n, s) => v.changes id (s.plan v.tree n)
  | none => []

theorem drawing?_eq_some_iff {v : View} {id : NodeId} {n : Node} {s : Strategy} :
    v.drawing? id = some (n, s) ↔ v.tree.node? id = some n ∧ v.registry.resolve n.kind = some s := by
  unfold drawing?
  constructor
  · intro h
    obtain ⟨m, hm, h⟩ := Option.bind_eq_some_iff.mp h
    obtain ⟨s', hs, h⟩ := Option.map_eq_some_iff.mp h
    cases h
    exact ⟨hm, hs⟩
  · rintro ⟨hn, hs⟩
    simp [hn, hs]

theorem isDrawn_eq (v : View) (id : NodeId) : v.isDrawn id = (v.drawing? id).isSome := by
  unfold isDrawn drawing? Registry.draws
  cases v.tree.node? id <;> simp

theorem visit_snd (v : View) (id : NodeId) (g : Graph) :
    (v.visit id g).2 = g.applyAll (v.visitChanges id) := by
  unfold visit visitChanges drawing? node
  cases v.tree.node? id with
  | none => rfl
  | some n =>
    dsimp only [Option.bind_some]
    cases v.registry.resolve n.kind with
    | none => rfl
    | some s => exact v.make_snd id _ g

theorem references_of_drawing {v : View} {id : NodeId} {n : Node} {s : Strategy}
    (h : v.drawing? id = some (n, s)) : v.references id = v.linked (s.plan v.tree n) := by
  unfold drawing? at h
  unfold references node
  cases hn : v.tree.node? id with
  | none => simp [hn] at h
  | some n' =>
    cases hr : v.registry.resolve n'.kind with
    | none => simp [hn, hr] at h
    | some s' =>
      simp only [hn, hr, Option.bind_some, Option.map_some, Option.some.injEq, Prod.mk.injEq] at h
      obtain ⟨rfl, rfl⟩ := h
      simp [hr]

theorem references_of_undrawn {v : View} {id : NodeId} (h : v.drawing? id = none) :
    v.references id = if v.isMissing id then .error (.danglingNode id) else .ok [] := by
  unfold drawing? at h
  unfold references node isMissing
  cases hn : v.tree.node? id with
  | none => rfl
  | some n =>
    have hr : v.registry.resolve n.kind = none := by simpa [hn] using h
    simp [hr]

theorem references_ok {v : View} {id : NodeId} {children : List NodeId}
    (h : v.references id = .ok children) : children = (v.followed id).map Prod.fst := by
  cases hd : v.drawing? id with
  | none =>
    rw [references_of_undrawn hd] at h
    split at h
    · cases h
    · simpa [followed, hd] using h.symm
  | some d =>
    rw [references_of_drawing hd, linked_eq, Strategy.plan_references] at h
    split at h
    · cases h
    · simpa [followed, hd] using h.symm

theorem references_error {v : View} {id : NodeId} {e : DrawError}
    (h : v.references id = .error e) : ∃ missing, e = .danglingNode missing := by
  cases hd : v.drawing? id with
  | none =>
    rw [references_of_undrawn hd] at h
    split at h
    · exact ⟨id, by simpa using h.symm⟩
    · cases h
  | some d =>
    rw [references_of_drawing hd, linked_eq] at h
    split at h
    · exact ⟨_, by simpa using h.symm⟩
    · cases h

theorem visitChanges_ok {v : View} {id : NodeId} {children : List NodeId} {n : Node} {s : Strategy}
    (h : v.references id = .ok children) (hd : v.drawing? id = some (n, s)) :
    v.visitChanges id = (s.plan v.tree n).filterMap (v.change? id) := by
  rw [references_of_drawing hd] at h
  rw [visitChanges, hd]
  exact changes_of_linked_ok h

theorem lines_visitChanges {v : View} {id : NodeId} {children : List NodeId}
    (h : v.references id = .ok children) :
    (v.visitChanges id).filterMap Change.line? =
      (v.followed id).map fun r => (some id, some r.1, r.2) := by
  cases hd : v.drawing? id with
  | none => simp [visitChanges, followed, hd]
  | some d =>
    rw [visitChanges_ok h hd, filterMap_line?_change?, Strategy.plan_references]
    simp [followed, hd]

theorem mem_mentioned_visitChanges {v : View} {id : NodeId} {children : List NodeId}
    (h : v.references id = .ok children) (x : NodeId) :
    (∃ c ∈ v.visitChanges id, x ∈ c.mentioned) ↔ v.isDrawn id ∧ (x = id ∨ v.Follows id x) := by
  cases hd : v.drawing? id with
  | none => simp [visitChanges, isDrawn_eq, hd]
  | some d =>
    obtain ⟨n, s⟩ := d
    have hdrawn : v.isDrawn id = true := by simp [isDrawn_eq, hd]
    simp only [visitChanges_ok h hd, hdrawn, true_and, List.mem_filterMap]
    constructor
    · rintro ⟨c, ⟨m, hm, hc⟩, hx⟩
      cases m with
      | paint style =>
        cases hc
        exact Or.inl (by simpa [Change.mentioned] using hx)
      | examine child => cases hc
      | link child label =>
        simp only [change?] at hc
        split at hc
        · next hchild =>
          cases hc
          simp only [Change.mentioned, List.mem_cons, List.not_mem_nil, or_false] at hx
          rcases hx with rfl | rfl
          · exact Or.inl rfl
          · refine Or.inr (List.mem_map.mpr ⟨(x, label), ?_, rfl⟩)
            simp only [followed, hd, List.mem_filter, ← Strategy.plan_references]
            exact ⟨List.mem_filterMap.mpr ⟨_, hm, rfl⟩, hchild⟩
        · cases hc
    · rintro (rfl | hx)
      · exact ⟨_, ⟨_, s.paint_mem_plan v.tree n, rfl⟩, by simp [Change.mentioned]⟩
      · obtain ⟨⟨child, label⟩, hr, rfl⟩ := List.mem_map.mp hx
        simp only [followed, hd, List.mem_filter, ← Strategy.plan_references] at hr
        obtain ⟨m, hm, hmr⟩ := List.mem_filterMap.mp hr.1
        cases m with
        | link child' label' =>
          cases hmr
          exact ⟨_, ⟨_, hm, if_pos hr.2⟩, by simp [Change.mentioned]⟩
        | paint style => cases hmr
        | examine child' => cases hmr

theorem styled_visitChanges {v : View} {id : NodeId} {children : List NodeId}
    (h : v.references id = .ok children) (x : NodeId) :
    (∃ c ∈ v.visitChanges id, (c.style? x).isSome) ↔ v.isDrawn id ∧ x = id := by
  cases hd : v.drawing? id with
  | none => simp [visitChanges, isDrawn_eq, hd]
  | some d =>
    obtain ⟨n, s⟩ := d
    have hdrawn : v.isDrawn id = true := by simp [isDrawn_eq, hd]
    simp only [visitChanges_ok h hd, hdrawn, true_and, List.mem_filterMap]
    constructor
    · rintro ⟨c, ⟨m, hm, hc⟩, hx⟩
      cases m with
      | paint style =>
        cases hc
        simp only [Change.style?] at hx
        split at hx
        · next he => exact he.symm
        · cases hx
      | examine child => cases hc
      | link child label =>
        simp only [change?] at hc
        split at hc
        · cases hc
          cases hx
        · cases hc
    · rintro rfl
      exact ⟨_, ⟨_, s.paint_mem_plan v.tree n, rfl⟩, by simp [Change.style?]⟩

theorem Follows.held {v : View} {a b : NodeId} (h : v.Follows a b) :
    v.isDrawn b ∧ ∃ n, v.tree.node? a = some n ∧ b ∈ n.held := by
  obtain ⟨r, hr, rfl⟩ := List.mem_map.mp h
  unfold followed drawing? at hr
  cases hn : v.tree.node? a with
  | none => simp [hn] at hr
  | some n =>
    cases hs : v.registry.resolve n.kind with
    | none => simp [hn, hs] at hr
    | some s =>
      simp only [hn, hs, Option.bind_some, Option.map_some, List.mem_filter] at hr
      exact ⟨hr.2, n, rfl, Strategy.references_held hr.1⟩

theorem references_isOk {v : View} {id : NodeId} {n : Node} (hn : v.tree.node? id = some n)
    (h : ∀ c ∈ n.held, v.isMissing c = false) : ∃ children, v.references id = .ok children := by
  cases hd : v.drawing? id with
  | none =>
    rw [references_of_undrawn hd]
    exact ⟨[], by simp [isMissing, hn]⟩
  | some d =>
    obtain ⟨n', s⟩ := d
    have hn' : n' = n := by
      unfold drawing? at hd
      cases hr : v.registry.resolve n.kind <;> simp_all
    subst hn'
    have hm : ((s.plan v.tree n').filterMap Mark.target?).find? v.isMissing = none := by
      rw [List.find?_eq_none]
      intro c hc
      obtain ⟨m, hm, ht⟩ := List.mem_filterMap.mp hc
      simp [h c (Strategy.target_held hm ht)]
    rw [references_of_drawing hd, linked_eq, hm]
    exact ⟨_, rfl⟩

end SyntaxGraph.View

import SyntaxGraph.Proofs.Drawing.Drawn

/-!
How often a reference is drawn: once for every way from the root to the node that makes it. A node is
visited along each of them, and every visit draws its edges again.
-/

namespace SyntaxGraph

/-- The edges that leave a node's vertex, by the nodes that they lead to and their labels. -/
def Graph.leaving (g : Graph) (id : NodeId) : List (Option NodeId × Option String) :=
  (g.edges.toList.filter fun e => g.number? id = some e.tail).map
    fun e => (g.source? e.head, e.label)

theorem Graph.leaving_eq (g : Graph) (id : NodeId) :
    g.leaving id = (g.lines.filter fun l => l.1 = some id).map Prod.snd := by
  unfold leaving lines
  rw [List.filter_map, List.map_map]
  simp only [number?_eq_some_iff]
  rfl

namespace View

def edgesOnce (v : View) (id : NodeId) : List (Option NodeId × Option String) :=
  (v.followed id).map fun r => (some r.1, r.2)

section

variable {v : View} {root id : NodeId} {g : Graph} {visited : List NodeId}

theorem filter_lines (v : View) (id x : NodeId) :
    (((v.followed x).map fun r => (some x, some r.1, r.2)).filter fun l => l.1 = some id).map Prod.snd =
      if x = id then v.edgesOnce id else [] := by
  rw [List.filter_map, List.map_map]
  by_cases hx : x = id
  · subst hx
    simp [edgesOnce, Function.comp_def]
  · simp [hx, Function.comp_def]

theorem flatMap_ite (visited : List NodeId) (id : NodeId) (edges : List (Option NodeId × Option String)) :
    (visited.flatMap fun x => if x = id then edges else []) =
      (List.replicate (visited.count id) edges).flatten := by
  induction visited with
  | nil => rfl
  | cons x visited ih =>
    rw [List.flatMap_cons, ih]
    by_cases hx : x = id
    · subst hx
      rw [if_pos rfl, List.count_cons_self, List.replicate_succ, List.flatten_cons]
    · rw [if_neg hx, List.nil_append, List.count_cons_of_ne hx]

theorem Visited.lines (h : v.Visited root .empty visited g) :
    g.lines = visited.flatMap fun x => (v.followed x).map fun r => (some x, some r.1, r.2) := by
  rw [h.graph, Graph.lines_applyAll Graph.wellFormed_empty, List.filterMap_flatMap]
  have hempty : Graph.empty.lines = [] := rfl
  rw [hempty, List.nil_append]
  apply List.flatMap_congr
  intro x hx
  obtain ⟨children, hr⟩ := h.looked x hx
  exact lines_visitChanges hr

theorem Visited.leaving (h : v.Visited root .empty visited g) (id : NodeId) :
    g.leaving id = (List.replicate (visited.count id) (v.edgesOnce id)).flatten := by
  rw [Graph.leaving_eq, h.lines, List.filter_flatMap, List.map_flatMap, ← flatMap_ite]
  apply List.flatMap_congr
  intro x _
  exact v.filter_lines id x

theorem flatten_replicate_eq_self_iff (n : Nat) (edges : List (Option NodeId × Option String)) :
    (List.replicate n edges).flatten = edges ↔ edges = [] ∨ n = 1 := by
  constructor
  · intro h
    have hlen : n * edges.length = edges.length := by
      simpa using congrArg List.length h
    by_cases he : edges = []
    · exact Or.inl he
    · have hpos : 0 < edges.length := List.length_pos_iff.mpr he
      exact Or.inr (Nat.eq_of_mul_eq_mul_right hpos (by omega))
  · rintro (rfl | rfl)
    · simp
    · simp

theorem ncard_ways_eq_one_iff : (v.ways root id).ncard = 1 ↔ ∃! way, v.follow root way = some id := by
  rw [Set.ncard_eq_one, ExistsUnique]
  constructor
  · rintro ⟨way, hw⟩
    have hmem : ∀ other, v.follow root other = some id ↔ other = way :=
      fun other => Set.ext_iff.mp hw other
    exact ⟨way, (hmem way).mpr rfl, fun other ho => (hmem other).mp ho⟩
  · rintro ⟨way, hw, huniq⟩
    refine ⟨way, Set.ext fun other => ⟨huniq other, ?_⟩⟩
    rintro rfl
    exact hw

/-- Every reference of a node is drawn once for every way to the node. So each is drawn exactly once if
and only if there are none or there is a single way. -/
theorem leaving_of_draw {v : View} {root : NodeId} {g : Graph}
    (h : v.draw root .empty = (.ok (), g)) (id : NodeId) :
    (v.ways root id).Finite ∧
      g.leaving id = (List.replicate (v.ways root id).ncard (v.edgesOnce id)).flatten ∧
      (g.leaving id = v.edgesOnce id ↔
        v.followed id = [] ∨ ∃! way, v.follow root way = some id) := by
  obtain ⟨visited, hv⟩ := visited_of_draw h
  obtain ⟨taken, ht⟩ := hv.along
  obtain ⟨hfin, hcount⟩ := ht.count id
  have hleaving := hv.leaving id
  rw [hcount] at hleaving
  refine ⟨hfin, hleaving, ?_⟩
  rw [hleaving, flatten_replicate_eq_self_iff, ncard_ways_eq_one_iff, edgesOnce, List.map_eq_nil_iff]

end

end View

theorem leaving_repeatedStatement :
    let g := (repeatedStatement.draw ⟨2⟩ .empty).2
    repeatedStatement.draw ⟨2⟩ .empty = (.ok (), g) ∧
      repeatedStatement.edgesOnce ⟨1⟩ = [(some ⟨0⟩, some "value")] ∧
      g.leaving ⟨1⟩ = [(some ⟨0⟩, some "value"), (some ⟨0⟩, some "value")] ∧
      ¬ ∃! way, repeatedStatement.follow ⟨2⟩ way = some ⟨1⟩ := by
  have honce : repeatedStatement.edgesOnce ⟨1⟩ = [(some ⟨0⟩, some "value")] := by decide +kernel
  have htwice : (repeatedStatement.draw ⟨2⟩ .empty).2.leaving ⟨1⟩ =
      [(some ⟨0⟩, some "value"), (some ⟨0⟩, some "value")] := by decide +kernel
  refine ⟨draw_repeatedStatement, honce, htwice, fun hway => ?_⟩
  have hsame := (View.leaving_of_draw draw_repeatedStatement ⟨1⟩).2.2.mpr (Or.inr hway)
  rw [htwice, honce] at hsame
  cases hsame

end SyntaxGraph

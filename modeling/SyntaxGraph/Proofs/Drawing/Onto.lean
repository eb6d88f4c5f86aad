import SyntaxGraph.Proofs.Drawing.Faults

/-!
Drawing onto a graph that is not empty. A run makes the same changes whatever is there, so it ends as it
would on an empty graph, adds what it would draw there, and leaves the rest alone.
-/

namespace SyntaxGraph

namespace View

variable {v : View} {root : NodeId} {g : Graph}

theorem draw_eq_applyAll (h : v.AcyclicBelow root) : ∃ visited, ∀ g,
    v.draw root g = (v.outcome visited, g.applyAll (visited.flatMap v.visitChanges)) := by
  obtain ⟨_, _, visited, hd⟩ := draw_of_extent h.extent_ends .empty
  refine ⟨visited, fun g => ?_⟩
  -- A bound that is large enough for both runs gives the same visits, whatever the graph.
  obtain ⟨_, _, visited', hd'⟩ := draw_of_extent h.extent_ends g
  have hvisits := hd.visits_eq (Nat.le_max_left visited.length visited'.length)
  have hvisits' := hd'.visits_eq (Nat.le_max_right visited.length visited'.length)
  obtain rfl : visited = visited' := hvisits.symm.trans hvisits'
  exact Prod.ext hd'.outcome hd'.graph

/-- What drawing onto a graph leaves there, beside what it leaves on an empty graph. The new edges are given
by the numbers they have got. -/
structure DrawnOnto (v : View) (root : NodeId) (g : Graph) (drawn : Array Edge) : Prop where
  result : (v.draw root g).1 = (v.draw root .empty).1
  number : ∀ id k, g.number? id = some k → (v.draw root g).2.number? id = some k
  numbered : ∀ id, ((v.draw root g).2.number? id).isSome ↔
    (g.number? id).isSome ∨ ((v.draw root .empty).2.number? id).isSome
  edges : (v.draw root g).2.edges = g.edges ++ drawn
  lines : drawn.toList.map (v.draw root g).2.line = (v.draw root .empty).2.lines
  painted : ∀ id style, (v.draw root .empty).2.styleOf id = some style →
    (v.draw root g).2.styleOf id = some style
  unpainted : ∀ id, (v.draw root .empty).2.styleOf id = none →
    (v.draw root g).2.styleOf id = g.styleOf id
  again : v.draw root (v.draw root g).2 = ((v.draw root g).1,
    { (v.draw root g).2 with edges := (v.draw root g).2.edges ++ drawn })

theorem draw_onto (h : v.AcyclicBelow root) (hg : g.WellFormed) : ∃ drawn, v.DrawnOnto root g drawn := by
  obtain ⟨visited, hdraw⟩ := draw_eq_applyAll h
  generalize hcs : visited.flatMap v.visitChanges = cs at hdraw
  obtain ⟨drawn, hdrawn⟩ := g.exists_edges_applyAll cs
  have hfresh (id : NodeId) : (Graph.empty.applyAll cs).styleOf id =
      (cs.filterMap (Change.style? id)).getLast? := by
    rw [Graph.styleOf_applyAll, Graph.styleOf_empty, Option.or_none]
  have hstyle (id : NodeId) : (g.applyAll cs).styleOf id =
      ((Graph.empty.applyAll cs).styleOf id).or (g.styleOf id) := by
    rw [hfresh, Graph.styleOf_applyAll]
  refine ⟨drawn, ?_⟩
  constructor <;> simp only [hdraw]
  case number => exact (g.kept_applyAll cs).number
  case numbered =>
    intro id
    rw [Graph.isSome_number?, Graph.isSome_number?, Graph.isSome_number?, Graph.mem_sources_applyAll,
      Graph.mem_sources_applyAll]
    simp [Graph.empty, Graph.sources]
  case edges => exact hdrawn
  case lines =>
    rw [Graph.lines_drawn hg hdrawn, Graph.lines_applyAll Graph.wellFormed_empty]
    rfl
  case painted =>
    intro id style hs
    rw [hstyle, hs]
    rfl
  case unpainted =>
    intro id hs
    rw [hstyle, hs]
    rfl
  case again => rw [Graph.applyAll_applyAll hg hdrawn]

end View

def startedGraph : Graph :=
  Graph.empty.applyAll [
    .attach ⟨1⟩ (some (⟨9⟩, some "before")),
    .paint ⟨9⟩ ⟨some "red", some "before"⟩,
    .paint ⟨1⟩ ⟨some "red", some "before"⟩]

theorem draw_onto_startedGraph :
    let g := (repeatedStatement.draw ⟨2⟩ startedGraph).2
    repeatedStatement.AcyclicBelow ⟨2⟩ ∧ startedGraph.WellFormed ∧
      ∃ drawn, repeatedStatement.DrawnOnto ⟨2⟩ startedGraph drawn ∧
        startedGraph.edges ++ drawn = #[⟨0, 1, some "before"⟩, ⟨2, 1, some "body #0"⟩,
          ⟨2, 1, some "body #1"⟩, ⟨1, 3, some "value"⟩, ⟨1, 3, some "value"⟩] ∧
        g.styleOf ⟨9⟩ = some ⟨some "red", some "before"⟩ ∧
        g.styleOf ⟨1⟩ = some ⟨some "#abc7ed", some "Expr"⟩ := by
  have hbelow := View.acyclicBelow_of_heldBefore repeatedStatement_heldBefore ⟨2⟩
  have hg : startedGraph.WellFormed := Graph.wellFormed_applyAll Graph.wellFormed_empty _
  obtain ⟨drawn, h⟩ := View.draw_onto hbelow hg
  refine ⟨hbelow, hg, drawn, h, ?_, ?_, ?_⟩
  · rw [← h.edges]
    decide +kernel
  · rw [h.unpainted ⟨9⟩ (by decide +kernel)]
    decide +kernel
  · exact h.painted ⟨1⟩ _ (by decide +kernel)

end SyntaxGraph

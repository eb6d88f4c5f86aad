import SyntaxGraph.Proofs.Drawing.Marks
import SyntaxGraph.Proofs.Graph.Extension
import SyntaxGraph.Proofs.Graph.Growth

namespace SyntaxGraph

namespace View

def links (v : View) (s : Strategy) (n : Node) : List Reference :=
  (s.references v.tree n).filter fun r => v.isDrawn r.1

/-- What drawing a node by a strategy makes of the graph: the edges that are drawn, the numbers that are
given and the style that is settled, and nothing else. -/
structure NodeDrawn (v : View) (s : Strategy) (id : NodeId) (n : Node) (g : Graph) (children : List NodeId)
    (drawn : List Edge) (g' : Graph) : Prop where
  edges : g'.edges.toList = g.edges.toList ++ drawn
  joined : List.Forall₂ (fun (r : Reference) e =>
    g'.number? id = some e.tail ∧ g'.number? r.1 = some e.head ∧ r.2 = e.label) (v.links s n) drawn
  returned : children = (v.links s n).map Prod.fst
  placed : ∀ child label, (child, label) ∈ v.links s n ↔
    s.Refers v.tree n child label ∧ v.isDrawn child = true
  numbered : g'.sources = g.sources ++ ((id :: children).filter (· ∉ g.sources)).eraseDups
  styled : g'.styleOf id = some (s.style v.tree n)
  unstyled : ∀ k, g'.number? id ≠ some k → g'.style? k = g.style? k

section

variable {v : View} {s : Strategy} {id : NodeId} {n : Node} {g g' : Graph} {children : List NodeId}

theorem foldl_mentioned {sources : List NodeId} (hid : id ∈ sources) (marks : List Mark) :
    ((marks.filterMap (v.change? id)).flatMap Change.mentioned).foldl Graph.addSource sources =
      (((marks.filterMap Mark.reference?).filter fun r => v.isDrawn r.1).map Prod.fst).foldl
        Graph.addSource sources := by
  induction marks generalizing sources with
  | nil => rfl
  | cons m rest ih =>
    cases m with
    | examine child => exact ih hid
    | paint style =>
      simp only [List.filterMap_cons, change?, Mark.reference?, List.flatMap_cons, Change.mentioned,
        List.cons_append, List.nil_append, List.foldl_cons]
      rw [Graph.addSource, if_pos hid]
      exact ih hid
    | link child label =>
      cases hd : v.isDrawn child with
      | false => simpa [List.filterMap_cons, change?, Mark.reference?, hd] using ih hid
      | true =>
        have hchild : id ∈ Graph.addSource sources child :=
          (Graph.mem_addSource sources child id).mpr (Or.inl hid)
        have hself : Graph.addSource sources id = sources := if_pos hid
        simpa [List.filterMap_cons, change?, Mark.reference?, hd, Change.mentioned, hself] using ih hchild

theorem links_eq (v : View) (s : Strategy) (n : Node) :
    v.links s n = ((s.plan v.tree n).filterMap Mark.reference?).filter fun r => v.isDrawn r.1 := by
  rw [links, Strategy.plan_references]

theorem sources_of_plan (v : View) (s : Strategy) (id : NodeId) (n : Node) (g : Graph) :
    (g.applyAll ((s.plan v.tree n).filterMap (v.change? id))).sources =
      (id :: (v.links s n).map Prod.fst).foldl Graph.addSource g.sources := by
  -- The node is mentioned first, whatever the first mark is.
  have hfirst : ∃ c rest, (s.plan v.tree n).filterMap (v.change? id) = c :: rest ∧
      c.mentioned.head? = some id := by
    have hpaint := List.mem_filterMap.mpr ⟨_, s.paint_mem_plan v.tree n, (rfl : v.change? id (.paint _) = _)⟩
    cases hcs : (s.plan v.tree n).filterMap (v.change? id) with
    | nil => simp [hcs] at hpaint
    | cons c rest =>
      have hc : c ∈ (s.plan v.tree n).filterMap (v.change? id) := hcs ▸ List.mem_cons_self
      obtain ⟨m, _, hm⟩ := List.mem_filterMap.mp hc
      exact ⟨c, rest, rfl, head?_mentioned_of_change? hm⟩
  have hknown : id ∈ (g.mention id).2.sources := by
    rw [Graph.sources_mention, Graph.mem_addSource]
    exact Or.inr rfl
  rw [Graph.applyAll_mention _ hfirst, Graph.sources_applyAll, foldl_mentioned hknown, ← links_eq,
    Graph.sources_mention, List.foldl_cons]

theorem styleOf_of_plan (v : View) (s : Strategy) (id : NodeId) (n : Node) (g : Graph) :
    (g.applyAll ((s.plan v.tree n).filterMap (v.change? id))).styleOf id = some (s.style v.tree n) := by
  have hpaint : .paint id (s.style v.tree n) ∈ (s.plan v.tree n).filterMap (v.change? id) :=
    List.mem_filterMap.mpr ⟨_, s.paint_mem_plan v.tree n, rfl⟩
  refine Graph.styleOf_applyAll_of_forall hpaint (if_pos rfl) fun c hc style hs => ?_
  obtain ⟨m, hm, hmc⟩ := List.mem_filterMap.mp hc
  exact (style_of_change? hm hmc hs).2

theorem nodeDrawn_of_make (h : v.make id (s.plan v.tree n) g = (.ok children, g')) :
    ∃ drawn, v.NodeDrawn s id n g children drawn g' := by
  have hlinked : v.linked (s.plan v.tree n) = .ok children := by rw [← v.make_fst id _ g, h]
  have hreturned : children = (v.links s n).map Prod.fst := by
    rw [linked_eq] at hlinked
    split at hlinked
    · cases hlinked
    · rw [links_eq]
      exact (Except.ok.inj hlinked).symm
  have hgraph : g' = g.applyAll ((s.plan v.tree n).filterMap (v.change? id)) := by
    rw [← changes_of_linked_ok hlinked, ← make_snd, h]
  subst hgraph
  obtain ⟨drawn, hedges, hdraws⟩ := g.draws_applyAll ((s.plan v.tree n).filterMap (v.change? id))
  refine ⟨drawn, ?_⟩
  constructor
  case edges => exact hedges
  case joined =>
    rw [filterMap_line?_change?, ← links_eq, List.forall₂_map_left_iff] at hdraws
    exact hdraws
  case returned => exact hreturned
  case placed =>
    intro child label
    rw [links, List.mem_filter, Strategy.mem_references_iff]
  case numbered => rw [sources_of_plan, ← hreturned, Graph.foldl_addSource_eq]
  case styled => exact styleOf_of_plan v s id n g
  case unstyled =>
    intro k hk
    refine Graph.style?_applyAll (fun c hc x hx => ?_) hk
    obtain ⟨style, hs⟩ := Option.isSome_iff_exists.mp hx
    obtain ⟨m, hm, hmc⟩ := List.mem_filterMap.mp hc
    exact (style_of_change? hm hmc hs).1

end

end View

def selfCall : Tree where
  nodes := #[
    ⟨"Name", [("id", .scalar (.str "f"))]⟩,
    ⟨"Add", []⟩,
    ⟨"Call", [("args", .list [⟨1⟩, ⟨2⟩, ⟨0⟩]), ("func", .node ⟨0⟩)]⟩]

theorem nodeDrawn_of_make_selfCall :
    let v : View := ⟨selfCall, .standard {} .standard⟩
    let s : Strategy := .call "yellow"
    let n : Node := ⟨"Call", [("args", .list [⟨1⟩, ⟨2⟩, ⟨0⟩]), ("func", .node ⟨0⟩)]⟩
    let g' := (v.make ⟨2⟩ (s.plan v.tree n) .empty).2
    v.make ⟨2⟩ (s.plan v.tree n) .empty = (.ok [⟨0⟩, ⟨2⟩, ⟨0⟩], g') ∧
      (∃ drawn, v.NodeDrawn s ⟨2⟩ n .empty [⟨0⟩, ⟨2⟩, ⟨0⟩] drawn g' ∧
        drawn = [⟨0, 1, some "$func"⟩, ⟨0, 0, some "#1"⟩, ⟨0, 1, some "#2"⟩]) ∧
      g'.sources = [⟨2⟩, ⟨0⟩] ∧ g'.styleOf ⟨2⟩ = some ⟨some "yellow", some "$func (#0,#1,#2)"⟩ ∧
      g'.style? 1 = none := by
  intro v s n g'
  have hmake : v.make ⟨2⟩ (s.plan v.tree n) .empty = (.ok [⟨0⟩, ⟨2⟩, ⟨0⟩], g') := by
    have hfst : (v.make ⟨2⟩ (s.plan v.tree n) .empty).1 = .ok [⟨0⟩, ⟨2⟩, ⟨0⟩] := by decide +kernel
    rw [← hfst]
  obtain ⟨drawn, h⟩ := View.nodeDrawn_of_make hmake
  refine ⟨hmake, ⟨drawn, h, ?_⟩, h.numbered.trans ?_, h.styled.trans ?_, ?_⟩
  · have hedges := h.edges
    rw [← List.nil_append drawn]
    exact hedges.symm.trans (by decide +kernel)
  · decide +kernel
  · decide +kernel
  · rw [h.unstyled 1 (by decide +kernel)]
    rfl

end SyntaxGraph

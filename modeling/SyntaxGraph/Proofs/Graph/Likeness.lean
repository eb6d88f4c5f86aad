import SyntaxGraph.Proofs.Graph.Changes
import SyntaxGraph.Proofs.Related

namespace SyntaxGraph

open Relator

/-- Which nodes correspond, and which styles and labels may stand for each other there. -/
structure Likeness where
  node : NodeId → NodeId → Prop
  style : NodeId → Style → Style → Prop
  label : NodeId → Option String → Option String → Prop

namespace Likeness

def Edges (l : Likeness) (g : Graph) (e e' : Edge) : Prop :=
  e.tail = e'.tail ∧ e.head = e'.head ∧ ∃ id, g.source? e.tail = some id ∧ l.label id e.label e'.label

structure Graphs (l : Likeness) (g g' : Graph) : Prop where
  vertices : List.Forall₂
    (fun x y => l.node x.source y.source ∧ Option.Rel (l.style x.source) x.style y.style)
    g.vertices.toList g'.vertices.toList
  edges : List.Forall₂ (l.Edges g) g.edges.toList g'.edges.toList

section

variable {l : Likeness} {g g' : Graph} {a b c d : NodeId}

theorem graphs_empty (l : Likeness) : l.Graphs .empty .empty :=
  ⟨.nil, .nil⟩

theorem Graphs.sources (h : l.Graphs g g') : List.Forall₂ l.node g.sources g'.sources := by
  rw [← g.map_source_vertices, ← g'.map_source_vertices, List.forall₂_map_left_iff,
    List.forall₂_map_right_iff]
  exact h.vertices.imp fun _ _ hxy => hxy.1

theorem Graphs.size (h : l.Graphs g g') : g.size = g'.size := by
  simpa only [Graph.length_sources] using h.sources.length_eq

theorem Graphs.number? (h : l.Graphs g g') (hu : BiUnique l.node) (hab : l.node a b) :
    g.number? a = g'.number? b := by
  rw [Graph.number?_eq, Graph.number?_eq]
  exact idxOf?_eq hu h.sources hab

theorem Graphs.styleOf (h : l.Graphs g g') (hu : BiUnique l.node) (hab : l.node a b) :
    Option.Rel (l.style a) (g.styleOf a) (g'.styleOf b) := by
  unfold Graph.styleOf
  rw [← h.number? hu hab]
  cases hk : g.number? a with
  | none => exact .none
  | some k =>
    have hk' := (h.number? hu hab).symm.trans hk
    have hvertex := getElem?_rel h.vertices k
    rw [Array.getElem?_toList, Array.getElem?_toList, Graph.getElem?_vertices, Graph.getElem?_vertices,
      g.source?_number a hk, g'.source?_number b hk'] at hvertex
    cases hvertex with
    | some hxy => exact hxy.2

theorem Graphs.edges_of_isPrefix (h : l.Graphs g g') {more : Graph} (hp : g.sources <+: more.sources) :
    List.Forall₂ (l.Edges more) g.edges.toList g'.edges.toList :=
  h.edges.imp fun _ _ ⟨ht, hh, id, hid, hl⟩ => ⟨ht, hh, id, Graph.source?_of_isPrefix hp hid, hl⟩

theorem Graphs.mention (h : l.Graphs g g') (hu : BiUnique l.node) (hab : l.node a b) :
    (g.mention a).1 = (g'.mention b).1 ∧ l.Graphs (g.mention a).2 (g'.mention b).2 := by
  have hedges := h.edges_of_isPrefix (g.prefix_apply (.mention a))
  rw [← Graph.edges_mention g a, ← Graph.edges_mention g' b] at hedges
  suffices hv : (g.mention a).1 = (g'.mention b).1 ∧ List.Forall₂ _ (g.mention a).2.vertices.toList
      (g'.mention b).2.vertices.toList from ⟨hv.1, hv.2, hedges⟩
  have hsame := h.number? hu hab
  cases hk : g.number? a with
  | some number =>
    rw [Graph.mention_of_some hk, Graph.mention_of_some (hsame.symm.trans hk)]
    exact ⟨rfl, h.vertices⟩
  | none =>
    have hk' := hsame.symm.trans hk
    rw [Graph.vertices_mention_of_none hk, Graph.vertices_mention_of_none hk', Graph.mention_of_none hk,
      Graph.mention_of_none hk', Array.toList_push, Array.toList_push]
    exact ⟨h.size, List.rel_append h.vertices (.cons ⟨hab, .none⟩ .nil)⟩

theorem Graphs.link (h : l.Graphs g g') (hu : BiUnique l.node) (hab : l.node a b) (hcd : l.node c d)
    {label label' : Option String} (hl : l.label a label label') :
    l.Graphs (g.link a c label) (g'.link b d label') := by
  obtain ⟨htail, h⟩ := h.mention hu hab
  obtain ⟨hhead, h⟩ := h.mention hu hcd
  refine ⟨h.vertices, ?_⟩
  simp only [Graph.link, Array.toList_push]
  exact List.rel_append h.edges (.cons ⟨htail, hhead, a, (g.source?_link a c).1, hl⟩ .nil)

theorem Graphs.paint (h : l.Graphs g g') (hu : BiUnique l.node) (hab : l.node a b) {style style' : Style}
    (hs : l.style a style style') : l.Graphs (g.paint a style) (g'.paint b style') := by
  have hedges := h.edges_of_isPrefix (g.prefix_apply (.paint a style))
  obtain ⟨hnumber, h⟩ := h.mention hu hab
  constructor
  case edges =>
    rw [← Graph.edges_mention g a, ← Graph.edges_mention g' b] at hedges
    exact hedges
  case vertices =>
    rw [Graph.vertices_paint, Graph.vertices_paint, Array.toList_modify, Array.toList_modify, ← hnumber]
    refine forall₂_modify h.vertices _ fun x y hx hxy => ⟨hxy.1, .some ?_⟩
    rw [Array.getElem?_toList, Graph.getElem?_vertices, g.source?_mention a] at hx
    cases hx
    exact hs

end

end Likeness

end SyntaxGraph

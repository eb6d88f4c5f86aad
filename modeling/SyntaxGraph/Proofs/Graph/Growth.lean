import SyntaxGraph.Proofs.Graph.Changes

namespace SyntaxGraph.Graph

structure Grown (g : Graph) : Prop where
  size : g.size = g.edges.size + 1
  edge : ∀ k, ∀ h : k < g.edges.size, g.edges[k].head = k + 1 ∧ g.edges[k].tail ≤ k

def Before (g : Graph) (a b : NodeId) : Prop :=
  ∃ m n, g.number? a = some m ∧ g.number? b = some n ∧ m < n

section

variable {g : Graph} {id parent child a b : NodeId} {label : Option String}

theorem mention_of_mem (h : id ∈ g.sources) : ∃ number < g.size, g.mention id = (number, g) := by
  obtain ⟨number, hn⟩ := Option.isSome_iff_exists.mp ((g.isSome_number? id).mpr h)
  exact ⟨number, lt_of_number? hn, mention_of_some hn⟩

theorem number?_of_not_mem (h : id ∉ g.sources) : g.number? id = none := by
  rwa [← Option.not_isSome_iff_eq_none, g.isSome_number? id]

theorem size_mention_of_not_mem (h : id ∉ g.sources) :
    (g.mention id).1 = g.size ∧ (g.mention id).2.size = g.size + 1 := by
  rw [mention_of_none (number?_of_not_mem h)]
  exact ⟨rfl, Array.size_push id⟩

theorem grown_mention_empty (id : NodeId) : (empty.mention id).2.Grown :=
  ⟨rfl, fun k h => absurd h (Nat.not_lt_zero k)⟩

theorem Grown.congr {g' : Graph} (h : g.Grown) (hs : g'.size = g.size) (he : g'.edges = g.edges) : g'.Grown := by
  constructor
  case size => rw [hs, he, h.size]
  case edge =>
    rw [he]
    exact h.edge

theorem Grown.paint (h : g.Grown) (hid : id ∈ g.sources) (style : Style) : (g.paint id style).Grown := by
  obtain ⟨number, _, hm⟩ := mention_of_mem hid
  have hsize : (g.mention id).2.size = g.size := by rw [hm]
  exact h.congr hsize (g.edges_mention id)

theorem Grown.link (h : g.Grown) (hp : parent ∈ g.sources) (hc : child ∉ g.sources) :
    (g.link parent child label).Grown := by
  obtain ⟨tail, hlt, hm⟩ := mention_of_mem hp
  obtain ⟨hhead, hmore⟩ := size_mention_of_not_mem hc
  have hedges : (g.link parent child label).edges = g.edges.push ⟨tail, g.size, label⟩ := by
    simp only [Graph.link, hm, hhead, edges_mention]
  have hsize : (g.link parent child label).size = g.size + 1 := by
    rw [← hmore]
    simp only [Graph.link, hm]
    rfl
  have hold := h.size
  constructor
  case size => rw [hsize, hedges, Array.size_push, hold]
  case edge =>
    rw [hedges]
    intro k hk
    rw [Array.size_push] at hk
    rw [Array.getElem_push]
    split
    · next hold => exact h.edge k hold
    · dsimp only
      omega

theorem sources_paint_of_mem (hid : id ∈ g.sources) (style : Style) :
    (g.paint id style).sources = g.sources := by
  rw [sources_paint, addSource, if_pos hid]

theorem sources_link (hp : parent ∈ g.sources) (hc : child ∉ g.sources) :
    (g.link parent child label).sources = g.sources ++ [child] := by
  have h := g.sources_attach child (some (parent, label))
  simp only [attach, Change.mentioned, List.foldl_cons, List.foldl_nil] at h
  rw [h, addSource, addSource, if_pos hp, if_neg hc]

theorem apply_mention {c : Change} (h : c.mentioned.head? = some id) :
    (g.mention id).2.apply c = g.apply c := by
  have hagain : (g.mention id).2.mention id = g.mention id := mention_of_some (number?_mention g id)
  cases c with
  | mention id' =>
    cases h
    simp only [apply, hagain]
  | paint id' style =>
    cases h
    simp only [apply, Graph.paint, hagain]
  | attach child parent =>
    cases parent with
    | none => cases h
    | some p =>
      cases h
      simp only [apply, attach, Graph.link, hagain]

theorem applyAll_mention (cs : List Change) (h : ∃ c rest, cs = c :: rest ∧ c.mentioned.head? = some id) :
    g.applyAll cs = (g.mention id).2.applyAll cs := by
  obtain ⟨c, rest, rfl, hc⟩ := h
  rw [applyAll_cons, applyAll_cons, apply_mention hc]

theorem number?_of_getElem? {k : Nat} (h : g.sources[k]? = some id) : g.number? id = some k := by
  rw [number?_eq_some_iff, source?_eq]
  exact h

theorem before_of_sublist (h : [a, b].Sublist g.sources) : g.Before a b := by
  have hpairs : g.sources.Pairwise g.Before := by
    rw [List.pairwise_iff_getElem]
    intro i j hi hj hij
    exact ⟨i, j, number?_of_getElem? (List.getElem?_eq_getElem hi),
      number?_of_getElem? (List.getElem?_eq_getElem hj), hij⟩
  exact List.pairwise_iff_forall_sublist.mp hpairs h

end

end SyntaxGraph.Graph

import SyntaxGraph.Graph.Basic
import Mathlib.Data.List.Basic
import Mathlib.Data.List.Nodup

namespace SyntaxGraph.Graph

def sources (g : Graph) : List NodeId :=
  g.nodes.toList

def lines (g : Graph) : List (Option NodeId × Option NodeId × Option String) :=
  g.edges.toList.map fun e => (g.source? e.tail, g.source? e.head, e.label)

def styleOf (g : Graph) (id : NodeId) : Option Style :=
  (g.number? id).bind g.style?

structure WellFormed (g : Graph) : Prop where
  joined : ∀ e ∈ g.edges.toList, e.tail < g.size ∧ e.head < g.size

def addSource (ids : List NodeId) (id : NodeId) : List NodeId :=
  if id ∈ ids then ids else ids ++ [id]

theorem mem_addSource (ids : List NodeId) (id x : NodeId) :
    x ∈ addSource ids id ↔ x ∈ ids ∨ x = id := by
  unfold addSource
  split
  · next h => exact ⟨Or.inl, fun hx => hx.elim (fun h => h) (fun he => he ▸ h)⟩
  · simp

theorem prefix_addSource (ids : List NodeId) (id : NodeId) : ids <+: addSource ids id := by
  unfold addSource
  split
  · exact List.prefix_rfl
  · exact List.prefix_append _ _

theorem prefix_foldl_addSource (ids sources : List NodeId) :
    sources <+: ids.foldl addSource sources := by
  induction ids generalizing sources with
  | nil => exact List.prefix_rfl
  | cons id ids ih => exact (prefix_addSource sources id).trans (ih _)

theorem mem_foldl_addSource (ids sources : List NodeId) (x : NodeId) :
    x ∈ ids.foldl addSource sources ↔ x ∈ sources ∨ x ∈ ids := by
  induction ids generalizing sources with
  | nil => simp
  | cons id ids ih => rw [List.foldl_cons, ih, mem_addSource, List.mem_cons, or_assoc]

theorem length_sources (g : Graph) : g.sources.length = g.size :=
  Array.length_toList

theorem source?_eq (g : Graph) (k : Nat) : g.source? k = g.sources[k]? :=
  Array.getElem?_toList.symm

theorem number?_eq_some_iff (g : Graph) (id : NodeId) (k : Nat) :
    g.number? id = some k ↔ g.source? k = some id := by
  rw [source?_eq]
  exact g.fits.numbered id k

theorem nodup_sources (g : Graph) : g.sources.Nodup := by
  rw [List.nodup_iff_injective_get]
  intro i j hij
  have hnumber (i : Fin g.sources.length) : g.number? (g.sources.get i) = some i.val := by
    rw [number?_eq_some_iff, source?_eq]
    exact List.getElem?_eq_getElem i.isLt
  have hsame := (hnumber i).symm.trans ((congrArg g.number? hij).trans (hnumber j))
  exact Fin.ext (Option.some.inj hsame)

theorem number?_eq (g : Graph) (id : NodeId) : g.number? id = g.sources.idxOf? id := by
  apply Option.ext
  intro k
  rw [number?_eq_some_iff, source?_eq, List.idxOf?_eq_some_iff, List.getElem?_eq_some_iff]
  constructor
  · rintro ⟨hk, he⟩
    refine ⟨hk, he, ?_⟩
    intro j hj hjk
    have := g.nodup_sources.getElem_inj_iff.mp (hjk.trans he.symm)
    omega
  · rintro ⟨hk, he, _⟩
    exact ⟨hk, he⟩

theorem isSome_number? (g : Graph) (id : NodeId) : (g.number? id).isSome ↔ id ∈ g.sources := by
  rw [number?_eq, List.isSome_idxOf?]

theorem mention_of_some {g : Graph} {id : NodeId} {k : Nat} (h : g.number? id = some k) :
    g.mention id = (k, g) := by
  unfold mention
  split
  · next k' h' => rw [Option.some.inj (h.symm.trans h')]
  · next h' => cases h.symm.trans h'

theorem mention_of_none {g : Graph} {id : NodeId} (h : g.number? id = none) :
    g.mention id = (g.size, { g with
      numbers := (id, g.size) :: g.numbers
      nodes := g.nodes.push id
      fits := g.fits.push h }) := by
  unfold mention
  split
  · next h' => cases h.symm.trans h'
  · rfl

theorem sources_mention (g : Graph) (id : NodeId) :
    (g.mention id).2.sources = addSource g.sources id := by
  have hs := g.isSome_number? id
  unfold addSource
  cases hk : g.number? id with
  | some k => rw [mention_of_some hk, if_pos (hs.mp (by simp [hk]))]
  | none =>
    rw [mention_of_none hk, if_neg (by simpa [hk] using hs)]
    exact Array.toList_push

@[simp] theorem edges_mention (g : Graph) (id : NodeId) : (g.mention id).2.edges = g.edges := by
  unfold mention
  split <;> rfl

@[simp] theorem styles_mention (g : Graph) (id : NodeId) : (g.mention id).2.styles = g.styles := by
  unfold mention
  split <;> rfl

@[simp] theorem style?_mention (g : Graph) (id : NodeId) (k : Nat) : (g.mention id).2.style? k = g.style? k :=
  congrArg (List.lookup k) (g.styles_mention id)

theorem number?_mention (g : Graph) (id : NodeId) :
    (g.mention id).2.number? id = some (g.mention id).1 := by
  cases hk : g.number? id with
  | some k => rw [mention_of_some hk, hk]
  | none =>
    rw [mention_of_none hk]
    exact List.lookup_cons_self

theorem source?_of_isPrefix {g g' : Graph} (h : g.sources <+: g'.sources) {k : Nat} {id : NodeId}
    (hk : g.source? k = some id) : g'.source? k = some id := by
  rw [source?_eq] at *
  obtain ⟨rest, hr⟩ := h
  obtain ⟨hlt, _⟩ := List.getElem?_eq_some_iff.mp hk
  rw [← hr, List.getElem?_append_left hlt, hk]

theorem size_le_of_isPrefix {g g' : Graph} (h : g.sources <+: g'.sources) : g.size ≤ g'.size := by
  simpa only [length_sources] using h.length_le

theorem source?_number (g : Graph) (id : NodeId) {k : Nat} (h : g.number? id = some k) :
    g.source? k = some id :=
  (g.number?_eq_some_iff id k).mp h

theorem lt_of_source? {g : Graph} {k : Nat} {id : NodeId} (h : g.source? k = some id) : k < g.size :=
  lt_of_number? ((g.number?_eq_some_iff id k).mpr h)

theorem style?_of_le {g : Graph} {k : Nat} (h : g.size ≤ k) : g.style? k = none := by
  apply lookup_eq_none_of_not_mem
  intro hk
  exact Nat.not_lt_of_le h (g.fits.bounded k hk)

theorem styleOf_mention (g : Graph) (id x : NodeId) : (g.mention id).2.styleOf x = g.styleOf x := by
  cases hk : g.number? id with
  | some k => rw [mention_of_some hk]
  | none =>
    -- A node that is mentioned for the first time gets a number that has no style yet.
    by_cases hx : x = id
    · have hnew := number?_mention g id
      rw [styleOf, styleOf, hx, hnew, hk, Option.bind_some, style?_mention, mention_of_none hk]
      exact style?_of_le (Nat.le_refl g.size)
    · rw [styleOf, styleOf, mention_of_none hk, number?, lookup_cons_eq_ite, if_neg hx]
      rfl

@[simp] theorem styleOf_empty (id : NodeId) : empty.styleOf id = none :=
  rfl

theorem sources_paint (g : Graph) (id : NodeId) (style : Style) :
    (g.paint id style).sources = addSource g.sources id :=
  g.sources_mention id

theorem number?_paint (g : Graph) (id x : NodeId) (style : Style) :
    (g.paint id style).number? x = (g.mention id).2.number? x :=
  rfl

theorem style?_paint (g : Graph) (id : NodeId) (style : Style) (k : Nat) :
    (g.paint id style).style? k = if k = (g.mention id).1 then some style else g.style? k := by
  rw [← style?_mention g id k]
  exact lookup_insertEntry _ k style _

theorem styleOf_paint (g : Graph) (id x : NodeId) (style : Style) :
    (g.paint id style).styleOf x = if id = x then some style else g.styleOf x := by
  have hid := number?_mention g id
  rw [← styleOf_mention g id x, styleOf, styleOf, number?_paint]
  split
  · next hx =>
    rw [← hx, hid, Option.bind_some, style?_paint, if_pos rfl]
  · next hx =>
    cases hj : (g.mention id).2.number? x with
    | none => rfl
    | some j =>
      have hne : j ≠ (g.mention id).1 := by
        rintro rfl
        have he := (source?_number _ _ hid).symm.trans (source?_number _ _ hj)
        exact hx (by simpa using he)
      rw [Option.bind_some, Option.bind_some, style?_paint, if_neg hne, style?_mention]

theorem map_source_vertices (g : Graph) : g.vertices.toList.map Vertex.source = g.sources := by
  apply List.ext_getElem?
  intro k
  rw [List.getElem?_map, Array.getElem?_toList, getElem?_vertices, ← source?_eq, Option.map_map]
  exact Option.map_id'

theorem vertices_mention_of_none {g : Graph} {id : NodeId} (h : g.number? id = none) :
    (g.mention id).2.vertices = g.vertices.push { source := id } := by
  have hsource (k : Nat) : (g.mention id).2.source? k = if k = g.size then some id else g.source? k := by
    rw [mention_of_none h]
    exact Array.getElem?_push
  apply Array.ext_getElem?
  intro k
  rw [Array.getElem?_push, size_vertices, getElem?_vertices, getElem?_vertices, hsource, style?_mention]
  by_cases hk : k = g.size
  · rw [if_pos hk, if_pos hk, style?_of_le (Nat.le_of_eq hk.symm)]
    rfl
  · rw [if_neg hk, if_neg hk]

theorem vertices_paint (g : Graph) (id : NodeId) (style : Style) :
    (g.paint id style).vertices =
      (g.mention id).2.vertices.modify (g.mention id).1 fun v => { v with style := some style } := by
  apply Array.ext_getElem?
  intro k
  rw [Array.getElem?_modify, getElem?_vertices, getElem?_vertices, style?_paint, style?_mention]
  by_cases hk : k = (g.mention id).1
  · rw [if_pos hk, if_pos hk.symm, Option.map_map]
    rfl
  · rw [if_neg hk, if_neg (Ne.symm hk)]
    rfl

end SyntaxGraph.Graph

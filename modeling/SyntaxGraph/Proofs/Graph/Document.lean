import SyntaxGraph.Proofs.Json.Enclosed

namespace SyntaxGraph

namespace Json.Reader

open GraphDocument (vertexValue edgeValue)

variable {σ : Type} {l : Spacing} {depth : Nat} {step : σ → String → Reader σ}

theorem fills_textMember {name : String} (put : Option (Option String) → σ)
    (hstep : step (put none) name = do return put (some (← onlyOnce name false optionalText)))
    (text : Option String) :
    Fills l depth step (GraphDocument.textMember name text) (put none) (put (text.map some)) := by
  cases text with
  | none => exact .nil
  | some s =>
    refine .cons (fun rest hr => ?_) .nil
    rw [hstep]
    exact .bind (yields_onlyOnce (v := .string s) (takes_optionalText s) hr) .pure

theorem join_map_some {β : Type} (o : Option β) : (o.map some).join = o := by
  cases o <;> rfl

theorem takes_vertex (v : DocumentVertex) : Takes vertex (l.spell depth (vertexValue v)) v := by
  let withLabel : Option (Option String) → PartialVertex := fun label => ⟨some v.id, label, none⟩
  let withColor : Option (Option String) → PartialVertex := fun color => ⟨some v.id, v.label.map some, color⟩
  refine takes_record (.append (.append (.cons ?_ .nil) (fills_textMember withLabel rfl v.label))
    (fills_textMember withColor rfl v.color)) ?_
  · intro rest hr
    exact .bind (yields_onlyOnce (v := .number (.natural v.id)) (takes_vertexId v.id) hr) .pure
  · intro text
    dsimp only [withColor]
    rw [join_map_some, join_map_some]
    exact .bind .pure .pure

theorem takes_edge (e : DocumentEdge) : Takes edge (l.spell depth (edgeValue e)) e := by
  let withLabel : Option (Option String) → PartialEdge := fun label => ⟨some e.tail, some e.head, label⟩
  refine takes_record (.append (.cons (t := ⟨some e.tail, none, none⟩) ?_ (.cons ?_ .nil))
    (fills_textMember withLabel rfl e.label)) ?_
  · intro rest hr
    exact .bind (yields_onlyOnce (v := .number (.natural e.tail)) (takes_vertexId e.tail) hr) .pure
  · intro rest hr
    exact .bind (yields_onlyOnce (v := .number (.natural e.head)) (takes_vertexId e.head) hr) .pure
  · intro text
    dsimp only [withLabel]
    rw [join_map_some]
    exact .bind .pure (.bind .pure .pure)

theorem takes_document (d : GraphDocument) : Takes document (l.spell depth d.toValue) d := by
  have hvertices :
      Takes (sequence vertex) (l.spell (depth + 1) (.array (d.vertices.map vertexValue))) d.vertices := by
    rw [Spacing.spell, Spacing.spellItems_eq, List.map_map]
    exact takes_sequence l (depth + 1) (fun v => takes_vertex v) d.vertices
  have hedges : Takes (sequence edge) (l.spell (depth + 1) (.array (d.edges.map edgeValue))) d.edges := by
    rw [Spacing.spell, Spacing.spellItems_eq, List.map_map]
    exact takes_sequence l (depth + 1) (fun e => takes_edge e) d.edges
  refine takes_record (.cons (t := ⟨some d.vertices, none⟩) ?_
    (.cons (t := ⟨some d.vertices, some d.edges⟩) ?_ .nil)) ?_
  · exact fun rest hr => .bind (yields_onlyOnce hvertices hr) .pure
  · exact fun rest hr => .bind (yields_onlyOnce hedges hr) .pure
  · exact fun text => .bind .pure (.bind .pure .pure)

end Json.Reader

namespace GraphDocument

open Json (Spacing)

def normalize (l : Spacing) (text : String) : Except Json.ReadError String :=
  (read text).map fun d => l.write d.toValue

theorem read_write (l : Spacing) (d : GraphDocument) : read (l.write d.toValue) = .ok d := by
  have hread : Json.Reader.Yields Json.Reader.document (l.spell 0 d.toValue ++ []) d [] :=
    (Json.Reader.takes_document d).here nofun
  rw [List.append_nil, ← Spacing.toList_write] at hread
  exact hread.run_eq

theorem normalize_write (l l' : Spacing) (d : GraphDocument) :
    normalize l (l'.write d.toValue) = .ok (l.write d.toValue) := by
  rw [normalize, read_write]
  rfl

theorem normalize_normalize (l l' : Spacing) (text : String) :
    (normalize l' text).bind (normalize l) = normalize l text := by
  unfold normalize
  cases hd : read text with
  | error e => rfl
  | ok d => exact normalize_write l l' d

end GraphDocument

/-- The vertices stand in the document by their numbers, each with its label and color, and the edges in the
order in which they were drawn. -/
structure Graph.Listed (g : Graph) (d : GraphDocument) : Prop where
  size : d.vertices.length = g.size
  vertex : ∀ k < g.size, d.vertices[k]? =
    some (⟨k.toUInt64, (g.style? k).bind Style.label, (g.style? k).bind Style.color⟩ : DocumentVertex)
  edge : ∀ k : Nat, d.edges[k]? =
    g.edges[k]?.map fun (e : Edge) => (⟨e.tail.toUInt64, e.head.toUInt64, e.label⟩ : DocumentEdge)

theorem Graph.listed_toDocument (g : Graph) : g.Listed g.toDocument where
  size := by simp [toDocument, size_vertices]
  vertex k hk := by
    obtain ⟨id, hv⟩ := exists_vertex hk
    simp [toDocument, hv]
  edge k := by simp [toDocument]

theorem Graph.map_id_toDocument (g : Graph) :
    g.toDocument.vertices.map DocumentVertex.id = (List.range g.size).map Nat.toUInt64 := by
  have hlisted := g.listed_toDocument
  apply List.ext_getElem?
  intro k
  rw [List.getElem?_map, List.getElem?_map]
  by_cases hk : k < g.size
  · rw [hlisted.vertex k hk, List.getElem?_range hk]
    rfl
  · rw [List.getElem?_eq_none (hlisted.size ▸ Nat.le_of_not_lt hk), List.getElem?_eq_none (by simpa using hk)]
    rfl

theorem GraphDocument.read_back :
    (∀ d : GraphDocument, read d.toValue.pretty = .ok d ∧ read d.toValue.compact = .ok d) ∧
    (∀ g : Graph, read g.toJson = .ok g.toDocument ∧ g.Listed g.toDocument ∧
      g.toDocument.vertices.map DocumentVertex.id = (List.range g.size).map Nat.toUInt64) ∧
    ∀ l text, (normalize l text).bind (normalize l) = normalize l text := by
  refine ⟨fun d => ⟨?_, ?_⟩, fun g => ⟨?_, g.listed_toDocument, g.map_id_toDocument⟩,
    fun l text => normalize_normalize l l text⟩
  · exact read_write .pretty d
  · exact read_write .compact d
  · exact read_write .pretty g.toDocument

end SyntaxGraph

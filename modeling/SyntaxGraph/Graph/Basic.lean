import SyntaxGraph.Entries
import SyntaxGraph.Tree.Basic

/-!
The graph drawn from a tree. A node of the tree gets a number when it is first mentioned, in that order, and
keeps it. The numbers of the nodes, the nodes of the numbers and the styles of the numbers are kept apart;
how a vertex looks may be settled later than its number. Edges stay in the order in which they were drawn,
repeated ones included.
-/

namespace SyntaxGraph

structure Style where
  color : Option String := none
  label : Option String := none
  deriving DecidableEq, Repr

structure Vertex where
  source : NodeId
  style : Option Style := none
  deriving DecidableEq, Repr

structure Edge where
  tail : Nat
  head : Nat
  label : Option String := none
  deriving DecidableEq, Repr

namespace Graph

variable {numbers : List (NodeId × Nat)} {nodes : Array NodeId} {styles : List (Nat × Style)}

/-- The numbers lead to the nodes and back, and only a number that is given has a style. -/
structure Fits (numbers : List (NodeId × Nat)) (nodes : Array NodeId) (styles : List (Nat × Style)) : Prop where
  numbered : Indexes numbers nodes.toList
  distinct : (styles.map Prod.fst).Nodup
  bounded : ∀ number ∈ styles.map Prod.fst, number < nodes.size

theorem fits_empty : Fits [] #[] [] :=
  ⟨indexes_nil, List.nodup_nil, nofun⟩

theorem Fits.push (h : Fits numbers nodes styles) {id : NodeId} (hid : numbers.lookup id = none) :
    Fits ((id, nodes.size) :: numbers) (nodes.push id) styles where
  numbered := by
    rw [Array.toList_push]
    exact h.numbered.append hid
  distinct := h.distinct
  bounded number hn := by
    rw [Array.size_push]
    exact Nat.lt_succ_of_lt (h.bounded number hn)

theorem Fits.insert (h : Fits numbers nodes styles) {number : Nat} (hn : number < nodes.size) (style : Style) :
    Fits numbers nodes (insertEntry number style styles) where
  numbered := h.numbered
  distinct := by
    rw [map_fst_insertEntry]
    split
    · exact h.distinct
    · next hfresh =>
      refine List.nodup_append.mpr ⟨h.distinct, by simp, fun k hk k' hk' => ?_⟩
      rw [List.mem_singleton.mp hk']
      rintro rfl
      exact hfresh hk
  bounded k hk := by
    rw [map_fst_insertEntry] at hk
    split at hk
    · exact h.bounded k hk
    · rcases List.mem_append.mp hk with hold | hnew
      · exact h.bounded k hold
      · rwa [List.mem_singleton.mp hnew]

end Graph

@[ext]
structure Graph where
  numbers : List (NodeId × Nat) := []
  nodes : Array NodeId := #[]
  styles : List (Nat × Style) := []
  edges : Array Edge := #[]
  fits : Graph.Fits numbers nodes styles := by exact Graph.fits_empty
  deriving DecidableEq, Repr

namespace Graph

def empty : Graph := {}

def size (g : Graph) : Nat :=
  g.nodes.size

def number? (g : Graph) (id : NodeId) : Option Nat :=
  g.numbers.lookup id

def source? (g : Graph) (number : Nat) : Option NodeId :=
  g.nodes[number]?

def style? (g : Graph) (number : Nat) : Option Style :=
  g.styles.lookup number

def vertices (g : Graph) : Array Vertex :=
  g.nodes.mapIdx fun number id => ⟨id, g.style? number⟩

theorem size_vertices (g : Graph) : g.vertices.size = g.size :=
  Array.size_mapIdx

theorem getElem?_vertices (g : Graph) (k : Nat) :
    g.vertices[k]? = (g.source? k).map fun id => ⟨id, g.style? k⟩ :=
  Array.getElem?_mapIdx

theorem exists_vertex {g : Graph} {k : Nat} (h : k < g.size) : ∃ id, g.vertices[k]? = some ⟨id, g.style? k⟩ := by
  have hsource : g.source? k = some g.nodes[k] := Array.getElem?_eq_getElem h
  exact ⟨g.nodes[k], by rw [getElem?_vertices, hsource, Option.map_some]⟩

def mention (g : Graph) (id : NodeId) : Nat × Graph :=
  match h : g.number? id with
  | some number => (number, g)
  | none =>
    (g.size, { g with
      numbers := (id, g.size) :: g.numbers
      nodes := g.nodes.push id
      fits := g.fits.push h })

theorem lt_of_number? {g : Graph} {id : NodeId} {number : Nat} (h : g.number? id = some number) :
    number < g.size := by
  obtain ⟨hlt, _⟩ := List.getElem?_eq_some_iff.mp ((g.fits.numbered id number).mp h)
  exact hlt

theorem mention_lt (g : Graph) (id : NodeId) : (g.mention id).1 < (g.mention id).2.size := by
  unfold mention
  split
  · next number h => exact lt_of_number? h
  · exact Nat.lt_of_lt_of_eq (Nat.lt_succ_self g.size) (Array.size_push id).symm

def paint (g : Graph) (id : NodeId) (style : Style) : Graph :=
  let mentioned := g.mention id
  { mentioned.2 with
    styles := insertEntry mentioned.1 style mentioned.2.styles
    fits := mentioned.2.fits.insert (g.mention_lt id) style }

def link (g : Graph) (parent child : NodeId) (label : Option String) : Graph :=
  let (tail, g) := g.mention parent
  let (head, g) := g.mention child
  { g with edges := g.edges.push ⟨tail, head, label⟩ }

def attach (g : Graph) (child : NodeId) : Option (NodeId × Option String) → Graph
  | none => g
  | some (parent, label) => g.link parent child label

/-- The last label given to an edge between two vertices; edges without a label are passed over. -/
def edgeLabel? (g : Graph) (tail head : Nat) : Option String :=
  g.edges.toList.reverse.findSome? fun e => if e.tail = tail ∧ e.head = head then e.label else none

end Graph

end SyntaxGraph

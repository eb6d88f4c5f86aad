import SyntaxGraph.Tree.Scalar

/-!
Syntax trees. A tree keeps its nodes in the order in which they were added, and a node's place in
that order is its identity: fields refer to children by it, two nodes of equal content stay distinct,
and one node may be held by several others. Nothing forces an identity to belong to a node.
-/

namespace SyntaxGraph

abbrev Kind := String

structure NodeId where
  index : Nat
  deriving DecidableEq, Repr

def NodeId.text (id : NodeId) : String :=
  "#" ++ toString id.index

inductive FieldValue where
  | node (child : NodeId)
  | list (children : List NodeId)
  | scalar (value : Scalar)
  deriving DecidableEq, Repr

structure Node where
  kind : Kind
  fields : List (String × FieldValue) := []
  deriving DecidableEq, Repr

namespace Node

/-- Of several fields of one name the first counts. -/
def field (n : Node) (name : String) : Option FieldValue :=
  n.fields.lookup name

def child (n : Node) (name : String) : Option NodeId :=
  match n.field name with
  | some (.node id) => some id
  | _ => none

def children (n : Node) (name : String) : List NodeId :=
  match n.field name with
  | some (.list ids) => ids
  | _ => []

def scalar (n : Node) (name : String) : Option Scalar :=
  match n.field name with
  | some (.scalar v) => some v
  | _ => none

end Node

structure Tree where
  nodes : Array Node := #[]
  root : Option NodeId := none
  deriving DecidableEq, Repr

namespace Tree

def empty : Tree := {}

def size (t : Tree) : Nat :=
  t.nodes.size

def node? (t : Tree) (id : NodeId) : Option Node :=
  t.nodes[id.index]?

def next (t : Tree) : NodeId :=
  ⟨t.size⟩

def add (t : Tree) (n : Node) : Tree :=
  { t with nodes := t.nodes.push n }

def withRoot (t : Tree) (id : NodeId) : Tree :=
  { t with root := some id }

def toList (t : Tree) : List (NodeId × Node) :=
  t.nodes.toList.zipIdx.map fun (n, i) => (⟨i⟩, n)

theorem node?_add (t : Tree) (n : Node) (id : NodeId) :
    (t.add n).node? id = if id = t.next then some n else t.node? id := by
  obtain ⟨i⟩ := id
  simp only [node?, add, next, size, Array.getElem?_push, NodeId.mk.injEq]

@[simp] theorem size_add (t : Tree) (n : Node) : (t.add n).size = t.size + 1 := by
  simp [size, add]

end Tree

end SyntaxGraph

import SyntaxGraph.Graph.Basic
import SyntaxGraph.Json.Writer

namespace SyntaxGraph

structure DocumentVertex where
  id : UInt64
  label : Option String := none
  color : Option String := none
  deriving DecidableEq, Repr

structure DocumentEdge where
  tail : UInt64
  head : UInt64
  label : Option String := none
  deriving DecidableEq, Repr

structure GraphDocument where
  vertices : List DocumentVertex
  edges : List DocumentEdge
  deriving DecidableEq, Repr

def Graph.toDocument (g : Graph) : GraphDocument where
  vertices := g.vertices.toList.zipIdx.map fun (v, number) =>
    ⟨number.toUInt64, v.style.bind Style.label, v.style.bind Style.color⟩
  edges := g.edges.toList.map fun e => ⟨e.tail.toUInt64, e.head.toUInt64, e.label⟩

namespace GraphDocument

open Json (Value)

def textMember (name : String) (text : Option String) : List (String × Value) :=
  text.toList.map fun s => (name, .string s)

def vertexValue (v : DocumentVertex) : Value :=
  .object <|
    [("id", .number (.natural v.id))] ++ textMember "label" v.label ++ textMember "color" v.color

def edgeValue (e : DocumentEdge) : Value :=
  .object <|
    [("from", .number (.natural e.tail)), ("to", .number (.natural e.head))]
      ++ textMember "label" e.label

def toValue (d : GraphDocument) : Value :=
  .object [
    ("nodes", .array (d.vertices.map vertexValue)),
    ("edges", .array (d.edges.map edgeValue))]

end GraphDocument

def Graph.toJson (g : Graph) : String :=
  g.toDocument.toValue.pretty

end SyntaxGraph

import SyntaxGraph.Graph.Document
import SyntaxGraph.Graph.Dot

namespace SyntaxGraph

inductive TextFormat where
  | dot (layout : Layout)
  | json
  deriving DecidableEq, Repr

def TextFormat.name : TextFormat → String
  | dot _ => "dot"
  | json => "json"

def Graph.write (g : Graph) : TextFormat → String
  | .dot layout => g.toDot layout
  | .json => g.toJson

end SyntaxGraph

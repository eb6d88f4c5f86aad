import SyntaxGraph.Kind.Standard

namespace SyntaxGraph

abbrev Symbols := List (Kind × String)

structure Palette where
  general : String := "#abc7ed"
  binary : String := "#abedd3"
  call : String := "yellow"
  name : String := "green"
  constant : String := "purple"
  comparison : String := "#eddeab"
  deriving DecidableEq, Repr

structure Layout where
  direction : String := "TB"
  fontSize : UInt32 := 8
  shape : String := "box"
  deriving DecidableEq, Repr

structure Settings where
  binarySymbols : Symbols := [("Add", "+"), ("Div", "/"), ("Mult", "*"), ("Sub", "-")]
  comparisonSymbols : Symbols :=
    [("Eq", "=="), ("Gt", ">"), ("GtE", ">="), ("Lt", "<"), ("LtE", "<="), ("NotEq", "!=")]
  palette : Palette := {}
  layout : Layout := {}
  hierarchy : List (Kind × Kind) := []
  deriving DecidableEq, Repr

def Settings.kinds (s : Settings) : Except Cycle Hierarchy :=
  Hierarchy.standard.declareAll s.hierarchy

end SyntaxGraph

import SyntaxGraph.Decimal.Notation

namespace SyntaxGraph

inductive Scalar where
  | absent
  | bool (value : Bool)
  | int (value : Int64)
  | uint (value : UInt64)
  | float (value : Float)
  | str (value : String)
  deriving DecidableEq, Repr

namespace Scalar

/-- A natural number is signed as far as signed numbers go. -/
def ofUInt64 (n : UInt64) : Scalar :=
  if n.toNat < Nat.pow 2 63 then .int n.toInt64 else .uint n

def text : Scalar → String
  | .absent => "None"
  | .bool b => if b then "true" else "false"
  | .int i => toString i.toInt
  | .uint n => toString n.toNat
  | .float x => Decimal.Notation.plain.float x
  | .str s => s

def describable : Scalar → Bool
  | .absent => false
  | _ => true

end Scalar

end SyntaxGraph

import SyntaxGraph.Graph.Basic
import SyntaxGraph.Settings.Basic

namespace SyntaxGraph

inductive Strategy where
  | general (color : String)
  | binary (symbols : Symbols) (color : String)
  | call (color : String)
  | name (color : String)
  | constant (color : String)
  | comparison (symbols : Symbols) (color : String)
  deriving DecidableEq, Repr

inductive Mark where
  | examine (node : NodeId)
  | link (child : NodeId) (label : Option String)
  | paint (style : Style)
  deriving DecidableEq, Repr

namespace Strategy

def title : Strategy → String
  | general _ => "default"
  | binary _ _ => "binop"
  | call _ => "call"
  | name _ => "name"
  | constant _ => "constant"
  | comparison _ _ => "compare"

def ownKinds : Strategy → List Kind
  | general _ => ["expr", "stmt", "mod"]
  | binary _ _ => ["BinOp"]
  | call _ => ["Call"]
  | name _ => ["Name"]
  | constant _ => ["Constant"]
  | comparison _ _ => ["Compare"]

def ordinal (index : Nat) : String :=
  "#" ++ toString index

def linkField (field : String) : FieldValue → List Mark
  | .scalar _ => []
  | .node child => [.link child (some field)]
  | .list children =>
    children.zipIdx.map fun (child, i) => .link child (some (field ++ " " ++ ordinal i))

def description (n : Node) : Option String :=
  n.fields.findSome? fun
    | (field, .scalar v) => if v.describable then some (field ++ "=" ++ v.text) else none
    | _ => none

def generalLabel (n : Node) : String :=
  match description n with
  | some d => n.kind ++ "\n" ++ d
  | none => n.kind

def generalPlan (color : String) (n : Node) : List Mark :=
  n.fields.flatMap (fun (field, value) => linkField field value)
    ++ [.paint ⟨some color, some (generalLabel n)⟩]

def symbol (symbols : Symbols) (word : String) (kind : Kind) : String :=
  (symbols.lookup kind).getD (word ++ ": " ++ kind)

def kindOf (t : Tree) (id : NodeId) : Kind :=
  ((t.node? id).map Node.kind).getD "?"

def linkChild (n : Node) (field : String) (label : Option String) : List Mark :=
  (n.child field).toList.map (.link · label)

def binaryPlan (symbols : Symbols) (color : String) (t : Tree) (n : Node) : List Mark :=
  let label := match n.child "op" with
    | some op => symbol symbols "binop" (kindOf t op)
    | none => "binop: ?"
  (n.child "op").toList.map .examine
    ++ [.paint ⟨some color, some label⟩]
    ++ linkChild n "left" (some "left")
    ++ linkChild n "right" (some "right")

def callPlan (color : String) (n : Node) : List Mark :=
  let args := n.children "args"
  let places := ",".intercalate ((List.range args.length).map ordinal)
  linkChild n "func" (some "$func")
    ++ args.zipIdx.map (fun (arg, i) => .link arg (some (ordinal i)))
    ++ [.paint ⟨some color, some ("$func (" ++ places ++ ")")⟩]

def leafPlan (color : String) (field : String) (n : Node) : List Mark :=
  [.paint ⟨some color, (n.scalar field).map Scalar.text⟩]

def comparisonPlan (symbols : Symbols) (color : String) (t : Tree) (n : Node) : List Mark :=
  [.paint ⟨some color, some "compare"⟩]
    ++ linkChild n "left" none
    ++ ((n.children "ops").zip (n.children "comparators")).flatMap fun (op, right) =>
      [.examine op, .link right (some (symbol symbols "cmp" (kindOf t op)))]

def plan (t : Tree) (n : Node) : Strategy → List Mark
  | general color => generalPlan color n
  | binary symbols color => binaryPlan symbols color t n
  | call color => callPlan color n
  | name color => leafPlan color "id" n
  | constant color => leafPlan color "value" n
  | comparison symbols color => comparisonPlan symbols color t n

end Strategy

end SyntaxGraph

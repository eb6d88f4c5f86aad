import SyntaxGraph.Drawing.Registry

namespace SyntaxGraph

inductive DrawError where
  | danglingNode (id : NodeId)
  | endless
  deriving DecidableEq, Repr

def DrawError.message : DrawError → String
  | danglingNode id =>
    "node " ++ id.text ++ " is referenced but does not exist in the syntax tree"
  | endless => "the syntax tree has no end"

structure View where
  tree : Tree
  registry : Registry

namespace View

def node (v : View) (id : NodeId) : Except DrawError Node :=
  match v.tree.node? id with
  | some n => .ok n
  | none => .error (.danglingNode id)

def draws (v : View) (id : NodeId) : Except DrawError Bool :=
  (v.node id).map fun n => v.registry.draws n.kind

def make (v : View) (id : NodeId) : List Mark → Graph → Except DrawError (List NodeId) × Graph
  | [], g => (.ok [], g)
  | .paint style :: rest, g => v.make id rest (g.paint id style)
  | .examine child :: rest, g =>
    match v.node child with
    | .error e => (.error e, g)
    | .ok _ => v.make id rest g
  | .link child label :: rest, g =>
    match v.draws child with
    | .error e => (.error e, g)
    | .ok false => v.make id rest g
    | .ok true =>
      let (children, g) := v.make id rest (g.link id child label)
      (children.map (child :: ·), g)

def visit (v : View) (id : NodeId) (g : Graph) : Except DrawError (List NodeId) × Graph :=
  match v.node id with
  | .error e => (.error e, g)
  | .ok n =>
    match v.registry.resolve n.kind with
    | none => (.ok [], g)
    | some s => v.make id (s.plan v.tree n) g

def linked (v : View) : List Mark → Except DrawError (List NodeId)
  | [] => .ok []
  | .paint _ :: rest => v.linked rest
  | .examine child :: rest =>
    match v.node child with
    | .error e => .error e
    | .ok _ => v.linked rest
  | .link child _ :: rest =>
    match v.draws child with
    | .error e => .error e
    | .ok false => v.linked rest
    | .ok true => (v.linked rest).map (child :: ·)

def references (v : View) (id : NodeId) : Except DrawError (List NodeId) :=
  match v.node id with
  | .error e => .error e
  | .ok n =>
    match v.registry.resolve n.kind with
    | none => .ok []
    | some s => v.linked (s.plan v.tree n)

theorem make_fst (v : View) (id : NodeId) (marks : List Mark) (g : Graph) :
    (v.make id marks g).1 = v.linked marks := by
  induction marks generalizing g with
  | nil => rfl
  | cons m rest ih =>
    cases m with
    | paint style => simp [make, linked, ih]
    | examine child =>
      simp only [make, linked]
      split <;> simp [ih]
    | link child label =>
      simp only [make, linked]
      split <;> simp [ih]

theorem visit_fst (v : View) (id : NodeId) (g : Graph) : (v.visit id g).1 = v.references id := by
  simp only [visit, references]
  split
  · rfl
  · split
    · rfl
    · exact v.make_fst id _ g

end View

end SyntaxGraph

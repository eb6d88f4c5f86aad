import SyntaxGraph.Drawing.Visit

/-!
Drawing a tree: every node is visited, then each of its children with all below it, from the first to
the last. `walk` keeps the nodes still to be visited on a list; `descend` is the same as a recursion.
A node that several others refer to is visited once for each of them, so the number of visits may be
far above the number of nodes; it is finite when no drawn node is below itself.
-/

namespace SyntaxGraph.View

def walk (v : View) : Nat → List NodeId → Graph → Except DrawError Unit × Graph
  | _, [], g => (.ok (), g)
  | 0, _ :: _, g => (.error .endless, g)
  | n + 1, id :: pending, g =>
    match v.visit id g with
    | (.error e, g) => (.error e, g)
    | (.ok children, g) => v.walk n (children ++ pending) g

structure Extent where
  visits : Nat
  outcome : Except DrawError Unit

def Extent.sum (count : NodeId → Extent) : List NodeId → Extent
  | [] => ⟨0, .ok ()⟩
  | id :: rest =>
    let first := count id
    match first.outcome with
    | .error e => ⟨first.visits, .error e⟩
    | .ok () =>
      let others := Extent.sum count rest
      ⟨first.visits + others.visits, others.outcome⟩

def extent (v : View) : Nat → NodeId → Extent
  | 0, _ => ⟨0, .error .endless⟩
  | depth + 1, id =>
    match v.references id with
    | .error e => ⟨1, .error e⟩
    | .ok children =>
      let below := Extent.sum (v.extent depth) children
      ⟨below.visits + 1, below.outcome⟩

def depthLimit (v : View) : Nat :=
  v.tree.size + 1

def draw (v : View) (root : NodeId) (g : Graph) : Except DrawError Unit × Graph :=
  v.walk (v.extent v.depthLimit root).visits [root] g

def descendAll (go : NodeId → Graph → Except DrawError Unit × Graph) :
    List NodeId → Graph → Except DrawError Unit × Graph
  | [], g => (.ok (), g)
  | id :: rest, g =>
    match go id g with
    | (.error e, g) => (.error e, g)
    | (.ok (), g) => descendAll go rest g

def descend (v : View) : Nat → NodeId → Graph → Except DrawError Unit × Graph
  | 0, _, g => (.error .endless, g)
  | depth + 1, id, g =>
    match v.visit id g with
    | (.error e, g) => (.error e, g)
    | (.ok children, g) => descendAll (v.descend depth) children g

end SyntaxGraph.View

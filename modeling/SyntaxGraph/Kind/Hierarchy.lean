import SyntaxGraph.Tree.Basic

/-!
Which kinds are special cases of which. Every kind has at most one parent, and a relation that would
make a kind its own ancestor is refused, so the ancestors of a kind form a finite chain.
-/

namespace SyntaxGraph

/-- Relations from a kind to its parent, the newest first; an older relation of the same kind is
overridden. -/
structure Hierarchy where
  relations : List (Kind × Kind) := []
  deriving DecidableEq, Repr

structure Cycle where
  kind : Kind
  parent : Kind
  deriving DecidableEq, Repr

def Cycle.message (c : Cycle) : String :=
  "declaring `" ++ c.kind ++ "` under `" ++ c.parent ++ "` would create a cycle"

namespace Hierarchy

def empty : Hierarchy := {}

def parent (h : Hierarchy) (kind : Kind) : Option Kind :=
  h.relations.lookup kind

def chain (h : Hierarchy) : Nat → Kind → List Kind
  | 0, kind => [kind]
  | n + 1, kind => kind :: ((h.parent kind).map (h.chain n)).getD []

/-- The kind and all its ancestors. No chain without repetition has more steps than there are
relations. -/
def ancestors (h : Hierarchy) (kind : Kind) : List Kind :=
  h.chain h.relations.length kind

def isSubkind (h : Hierarchy) (kind ancestor : Kind) : Bool :=
  (h.ancestors kind).contains ancestor

def declare (h : Hierarchy) (kind parent : Kind) : Except Cycle Hierarchy :=
  if h.isSubkind parent kind then .error ⟨kind, parent⟩
  else .ok ⟨(kind, parent) :: h.relations⟩

def declareAll (h : Hierarchy) (relations : List (Kind × Kind)) : Except Cycle Hierarchy :=
  relations.foldlM (fun h (kind, parent) => h.declare kind parent) h

end Hierarchy

end SyntaxGraph

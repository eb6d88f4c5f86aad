import SyntaxGraph.Proofs.Frontend
import SyntaxGraph.Proofs.Source.Visible

namespace SyntaxGraph

/-- The graph shows the nodes of the tree that can be drawn by their kind and no others, joined to a tree
again. -/
structure ShownByKind (t : Tree) (g : Graph) : Prop where
  numbered : ∀ id, (g.number? id).isSome ↔ ∃ n, t.node? id = some n ∧ n.kind.isDrawable = true
  omitted : ∀ id n, t.node? id = some n → g.number? id = none →
    n.kind ∈ ["Unsupported", "arguments", "arg"] ∨
      n.fields = [] ∧ ∃ family ∈ ["operator", "boolop", "cmpop", "unaryop"],
        Hierarchy.standard.isSubkind n.kind family = true
  nothingBelow : ∀ id below n, g.number? id = none → t.Reaches id below → t.node? below = some n →
    n.kind.isDrawable = false
  vertices : g.size = t.nodes.toList.countP fun n => n.kind.isDrawable
  edges : g.edges.size + 1 = g.size

namespace Source

variable {t : Tree} {root : NodeId} {g : Graph}

theorem Fitting.shownByKind (hf : Fitting t) (hs : t.Sound) (hroot : t.root = some root)
    (hd : (stockView t).isDrawn root = true) (h : (stockView t).draw root .empty = (.ok (), g)) :
    ShownByKind t g := by
  obtain ⟨visited, hv, hgrown, _⟩ := View.numbered_of_draw hs hd h
  have hnumber := hf.isSome_number? hs hroot h
  have hundrawn {id : NodeId} (hnone : g.number? id = none) : (stockView t).isDrawn id = false := by
    rw [← Bool.not_eq_true, ← hnumber id, hnone]
    exact Bool.false_ne_true
  constructor
  case numbered => exact fun id => (hnumber id).trans isDrawn_iff_exists
  case omitted =>
    intro id n hn hnone
    apply undrawn_cases (hf id n hn)
    rw [← isDrawn_eq_isDrawable hn, hundrawn hnone]
  case nothingBelow =>
    intro id below n hnone hreach hn
    rw [← isDrawn_eq_isDrawable hn]
    exact hf.undrawn_below (hundrawn hnone) hreach
  case vertices => exact size_eq_countP hnumber
  case edges => exact hgrown.size.symm

end Source

namespace Frontend

theorem drawn_by_kind {text : String} {t : Tree} (h : rust.parse text = .ok t) :
    ∃ g, ShownByKind t g ∧
      ∀ name, Pipeline.graph ⟨.standard {} .standard, stock⟩ ⟨name, .rust, text⟩ = .ok g := by
  obtain ⟨items, rfl⟩ := exists_items h
  have hs := Source.sound_treeOfItems items
  obtain ⟨hf, root, body, hroot, hmodule⟩ := Source.fitting_treeOfItems items
  have hlt : root.index < (Source.treeOfItems items).size :=
    (Array.getElem?_eq_some_iff.mp hmodule).1
  have hdrawable : Kind.isDrawable "Module" = true := by decide +kernel
  have hdrawn : (Source.stockView (Source.treeOfItems items)).isDrawn root = true :=
    (Source.isDrawn_eq_isDrawable hmodule).trans hdrawable
  obtain ⟨g, hdraw, _⟩ :=
    View.draw_ok_of_heldBefore (v := Source.stockView _) hs.heldBefore hlt .empty
  refine ⟨g, hf.shownByKind hs hroot hdrawn hdraw, fun name => ?_⟩
  exact Pipeline.graph_of_parse (find?_stock List.mem_cons_self) h hroot hdraw

def additionText : String :=
  "fn f(a: u8) \x7b g(a + 1); \x7d"

def additionTree : Tree where
  nodes := #[
    ⟨"arg", [("arg", .scalar (.str "a"))]⟩,
    ⟨"arguments", [("args", .list [⟨0⟩])]⟩,
    ⟨"Name", [("id", .scalar (.str "g"))]⟩,
    ⟨"Name", [("id", .scalar (.str "a"))]⟩,
    ⟨"Constant", [("value", .scalar (.int 1))]⟩,
    ⟨"Add", []⟩,
    ⟨"BinOp", [("left", .node ⟨3⟩), ("op", .node ⟨5⟩), ("right", .node ⟨4⟩)]⟩,
    ⟨"Call", [("func", .node ⟨2⟩), ("args", .list [⟨6⟩])]⟩,
    ⟨"Expr", [("value", .node ⟨7⟩)]⟩,
    ⟨"FunctionDef", [("name", .scalar (.str "f")), ("args", .node ⟨1⟩), ("body", .list [⟨8⟩])]⟩,
    ⟨"Module", [("body", .list [⟨9⟩])]⟩]
  root := some ⟨10⟩

theorem drawn_by_kind_additionText :
    rust.parse additionText = .ok additionTree ∧
      ∃ g, Pipeline.graph ⟨.standard {} .standard, stock⟩ ⟨"input", .rust, additionText⟩ = .ok g ∧
        ShownByKind additionTree g ∧ g.size = 8 := by
  have hp : rust.parse additionText = .ok additionTree := by decide +kernel
  obtain ⟨g, hshown, hgraph⟩ := drawn_by_kind hp
  have hcount : (additionTree.nodes.toList.countP fun n => n.kind.isDrawable) = 8 := by decide +kernel
  exact ⟨hp, g, hgraph "input", hshown, hshown.vertices.trans hcount⟩

end Frontend

end SyntaxGraph

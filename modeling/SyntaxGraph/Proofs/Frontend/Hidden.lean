import SyntaxGraph.Proofs.Drawing.Alike
import SyntaxGraph.Proofs.Frontend
import SyntaxGraph.Proofs.Json.Equality
import SyntaxGraph.Proofs.Tree.Hidden

/-!
What is below a node that no strategy draws cannot be seen in the picture. It shifts the identities of the
nodes behind it, so two documents that differ there only are drawn from different nodes, but along the same
ways.
-/

namespace SyntaxGraph

namespace Graph

variable {g g' : Graph}

theorem map_vertices_eq {α : Type}
    (hs : g.vertices.toList.map Vertex.style = g'.vertices.toList.map Vertex.style)
    (f : Option Style → Nat → α) :
    g.vertices.toList.zipIdx.map (fun p => f p.1.style p.2) =
      g'.vertices.toList.zipIdx.map fun p => f p.1.style p.2 := by
  refine map_eq_of_forall₂ ((forall₂_zipIdx (forall₂_of_map_eq hs) 0).imp fun p p' hp => ?_)
  rw [hp.1, hp.2]

theorem write_eq (hs : g.vertices.toList.map Vertex.style = g'.vertices.toList.map Vertex.style)
    (he : g.edges = g'.edges) (format : TextFormat) : g.write format = g'.write format := by
  cases format with
  | dot layout =>
    have hvertices := map_vertices_eq hs fun style number => Dot.vertexStatement number ⟨⟨0⟩, style⟩
    have hlines : Dot.lines layout g = Dot.lines layout g' := by
      unfold Dot.lines
      rw [he]
      exact congrArg (fun statements => Dot.header layout ++ statements ++ [""] ++ _ ++ _) hvertices
    exact congrArg ("\n".intercalate ·) hlines
  | json =>
    have hvertices := map_vertices_eq hs fun style number =>
      (⟨number.toUInt64, style.bind Style.label, style.bind Style.color⟩ : DocumentVertex)
    have hdocument : g.toDocument = g'.toDocument := by
      unfold toDocument
      rw [he]
      exact congrArg (GraphDocument.mk · _) hvertices
    exact congrArg (fun d => d.toValue.pretty) hdocument

end Graph

def Registry.hides (r : Registry) (kind : Kind) : Bool :=
  !r.draws kind

namespace View

section

variable {r : Registry} {t t' : Tree} {a b root root' : NodeId}

def visible (r : Registry) (t t' : Tree) : Likeness where
  node := Tree.Peers r.hides t t'
  style _ := Eq
  label _ := Eq

theorem draws_eq_of_peers (h : Tree.Peers r.hides t t' a b) :
    View.draws ⟨t, r⟩ a = View.draws ⟨t', r⟩ b := by
  obtain ⟨n, n', hn, hn', hkind, _⟩ := h.exists_nodes
  simp only [draws, node, hn, hn']
  exact congrArg (fun kind => Except.ok (r.draws kind)) hkind

theorem kindOf_eq_of_peers (h : Tree.Peers r.hides t t' a b) :
    Strategy.kindOf t a = Strategy.kindOf t' b := by
  obtain ⟨n, n', hn, hn', hkind, _⟩ := h.exists_nodes
  simp only [Strategy.kindOf, hn, hn', Option.map_some, hkind]

theorem marks_of_peers (h : Tree.Peers r.hides t t' a b) : List.Forall₂
    ((visible r t t').Marks ⟨t, r⟩ ⟨t', r⟩ a) (View.marks ⟨t, r⟩ a) (View.marks ⟨t', r⟩ b) := by
  obtain ⟨n, n', hn, hn', hkind, halike⟩ := h.exists_nodes
  unfold marks drawing?
  simp only [hn, hn', Option.bind_some, ← hkind]
  cases hs : r.resolve n.kind with
  | none => exact .nil
  | some s =>
    have hshown : r.hides n.kind = false := by
      rw [Registry.hides, Registry.draws, hs]
      rfl
    have hnodes := halike hshown
    have hkinds (a b : NodeId) (hab : Tree.Peers r.hides t t' a b) := kindOf_eq_of_peers hab
    refine (Strategy.Akin.refl s).plan hnodes (fun _ _ => draws_eq_of_peers) (fun _ => rfl)
      (fun a b hab => ?_) (Strategy.style_eq hnodes hkinds s)
    have hkind := hkinds a b hab
    cases s with
    | comparison symbols color => exact congrArg (fun kind => some (Strategy.symbol symbols "cmp" kind)) hkind
    | general | binary | call | name | constant => rfl

theorem draw_peers (ht : t.Sound) (ht' : t'.Sound) (h : Tree.Peers r.hides t t' root root') :
    (View.draw ⟨t, r⟩ root .empty).2.vertices.toList.map Vertex.style =
        (View.draw ⟨t', r⟩ root' .empty).2.vertices.toList.map Vertex.style ∧
      (View.draw ⟨t, r⟩ root .empty).2.edges = (View.draw ⟨t', r⟩ root' .empty).2.edges := by
  have hviews : ((visible r t t').along ⟨t, r⟩ ⟨t', r⟩ root root').Views ⟨t, r⟩ ⟨t', r⟩ :=
    Likeness.views_along ht ht' root root' (fun _ _ => draws_eq_of_peers) fun _ _ => marks_of_peers
  have hbelow : View.AcyclicBelow ⟨t, r⟩ root := acyclicBelow_of_heldBefore ht.heldBefore root
  obtain ⟨_, hgraphs⟩ := hviews.draw ⟨h, [], rfl, rfl⟩ hbelow (Likeness.graphs_empty _)
  constructor
  · refine map_eq_of_forall₂ (hgraphs.vertices.imp fun x y hxy => ?_)
    obtain ⟨_, hstyle⟩ := hxy
    generalize x.style = style, y.style = style' at hstyle
    cases hstyle with
    | none => rfl
    | some hs => exact congrArg some hs
  · refine Array.toList_inj.mp ?_
    rw [← List.forall₂_eq_eq_eq]
    refine hgraphs.edges.imp fun e f ⟨htail, hhead, _, _, hlabel⟩ => ?_
    calc e = ⟨e.tail, e.head, e.label⟩ := rfl
      _ = ⟨f.tail, f.head, f.label⟩ := by rw [htail, hhead, show e.label = f.label from hlabel]

end

end View

namespace Frontend

open Json (Value)

section

variable {r : Registry} {text text' : String} {t t' : Tree} {d d' : Value}

theorem parse_eq_of_read (hd : Json.read text = .ok d) :
    jsonTree.parse text = .ok t ↔ d.toTree = .ok t := by
  rw [parse_of_read hd]
  cases d.toTree <;> simp [Except.mapError]

theorem graph_jsonTree {root : NodeId} {g : Graph} (name : String) (h : jsonTree.parse text = .ok t)
    (hroot : t.root = some root) (hd : View.draw ⟨t, r⟩ root .empty = (.ok (), g)) :
    Pipeline.graph ⟨r, stock⟩ ⟨name, .jsonTree, text⟩ = .ok g := by
  have hf : jsonTree ∈ stock := List.mem_cons_of_mem _ List.mem_cons_self
  exact Pipeline.graph_of_parse (find?_stock hf) h hroot hd

theorem peers_of_pruned (h : jsonTree.parse text = .ok t) (h' : jsonTree.parse text' = .ok t')
    (hd : Json.read text = .ok d) (hd' : Json.read text' = .ok d') {hidden : Kind → Bool}
    (hsame : d.pruned hidden = d'.pruned hidden) {root root' : NodeId} (hroot : t.root = some root)
    (hroot' : t'.root = some root') : Tree.Peers hidden t t' root root' := by
  have hdocument := (Tree.spells_toTree (Json.canonical_read hd) ((parse_eq_of_read hd).mp h)).2
  have hdocument' := (Tree.spells_toTree (Json.canonical_read hd') ((parse_eq_of_read hd').mp h')).2
  rw [Tree.document?, hroot] at hdocument
  rw [Tree.document?, hroot'] at hdocument'
  refine ⟨t.size, t'.size, d.kept, d'.kept, hdocument, hdocument', ?_⟩
  rw [← d.pruned_kept_pruned, hsame, d'.pruned_kept_pruned]

theorem hidden_fields_invisible (r : Registry) (h : jsonTree.parse text = .ok t)
    (h' : jsonTree.parse text' = .ok t') (hd : Json.read text = .ok d) (hd' : Json.read text' = .ok d')
    (hsame : d.pruned r.hides = d'.pruned r.hides) :
    ∃ g g', (∀ name, Pipeline.graph ⟨r, stock⟩ ⟨name, .jsonTree, text⟩ = .ok g) ∧
      (∀ name, Pipeline.graph ⟨r, stock⟩ ⟨name, .jsonTree, text'⟩ = .ok g') ∧
      g.vertices.toList.map Vertex.style = g'.vertices.toList.map Vertex.style ∧ g.edges = g'.edges ∧
      ∀ format, g.write format = g'.write format := by
  have ht := sound_jsonTree h
  have ht' := sound_jsonTree h'
  obtain ⟨hpos, hroot⟩ := ht.rooted
  obtain ⟨hpos', hroot'⟩ := ht'.rooted
  have hlt : t.size - 1 < t.size := Nat.sub_lt hpos Nat.one_pos
  have hlt' : t'.size - 1 < t'.size := Nat.sub_lt hpos' Nat.one_pos
  obtain ⟨g, hdraw, _⟩ := View.draw_ok_of_heldBefore (v := ⟨t, r⟩) ht.heldBefore hlt .empty
  obtain ⟨g', hdraw', _⟩ := View.draw_ok_of_heldBefore (v := ⟨t', r⟩) ht'.heldBefore hlt' .empty
  obtain ⟨hstyles, hedges⟩ :=
    View.draw_peers (r := r) ht ht' (peers_of_pruned h h' hd hd' hsame hroot hroot')
  rw [hdraw, hdraw'] at hstyles hedges
  exact ⟨g, g', fun name => graph_jsonTree name h hroot hdraw,
    fun name => graph_jsonTree name h' hroot' hdraw', hstyles, hedges, Graph.write_eq hstyles hedges⟩

end

def plainOperator : String :=
  "\x7b\"kind\":\"Compare\",\"fields\":\x7b\"ops\":[\x7b\"kind\":\"Lt\"\x7d],"
    ++ "\"comparators\":[\x7b\"kind\":\"Name\"\x7d]\x7d\x7d"

def annotatedOperator : String :=
  "\x7b\"kind\":\"Compare\",\"fields\":\x7b\"ops\":[\x7b\"kind\":\"Lt\",\"fields\":"
    ++ "\x7b\"note\":\x7b\"kind\":\"Pass\"\x7d\x7d\x7d],"
    ++ "\"comparators\":[\x7b\"kind\":\"Name\"\x7d]\x7d\x7d"

def operatorDocument (operator : Value) : Value :=
  nodeDocument "Compare"
    [("ops", .array [operator]), ("comparators", .array [.object [("kind", .string "Name")]])]

def plainTree : Tree where
  nodes := #[⟨"Lt", []⟩, ⟨"Name", []⟩, ⟨"Compare", [("ops", .list [⟨0⟩]), ("comparators", .list [⟨1⟩])]⟩]
  root := some ⟨2⟩

def plainGraph : Graph :=
  Graph.empty.applyAll [
    .attach ⟨1⟩ (some (⟨2⟩, some "<")),
    .paint ⟨2⟩ ⟨some "#eddeab", some "compare"⟩,
    .paint ⟨1⟩ ⟨some "green", none⟩]

def annotatedOperatorTree : Tree where
  nodes := #[⟨"Pass", []⟩, ⟨"Lt", [("note", .node ⟨0⟩)]⟩, ⟨"Name", []⟩,
    ⟨"Compare", [("ops", .list [⟨1⟩]), ("comparators", .list [⟨2⟩])]⟩]
  root := some ⟨3⟩

theorem hidden_fields_invisible_annotatedOperator :
    let r := Registry.standard {} .standard
    let d := operatorDocument (.object [("kind", .string "Lt")])
    let d' := operatorDocument (nodeDocument "Lt" [("note", .object [("kind", .string "Pass")])])
    jsonTree.parse plainOperator = .ok plainTree ∧
      jsonTree.parse annotatedOperator = .ok annotatedOperatorTree ∧
      Json.read plainOperator = .ok d ∧ Json.read annotatedOperator = .ok d' ∧
      d.pruned r.hides = d'.pruned r.hides ∧
      ∃ g g', Pipeline.graph ⟨r, stock⟩ ⟨"input", .jsonTree, plainOperator⟩ = .ok g ∧
        Pipeline.graph ⟨r, stock⟩ ⟨"input", .jsonTree, annotatedOperator⟩ = .ok g' ∧
        g = plainGraph ∧ g'.edges = plainGraph.edges ∧
        ∀ format, g.write format = g'.write format := by
  intro r d d'
  have hd : Json.read plainOperator = .ok d := by decide +kernel
  have hd' : Json.read annotatedOperator = .ok d' := by decide +kernel
  have h : jsonTree.parse plainOperator = .ok plainTree :=
    (parse_eq_of_read hd).mpr (by decide +kernel)
  have h' : jsonTree.parse annotatedOperator = .ok annotatedOperatorTree :=
    (parse_eq_of_read hd').mpr (by decide +kernel)
  have hsame : d.pruned r.hides = d'.pruned r.hides := by decide +kernel
  obtain ⟨g, g', hg, hg', _, hedges, hwrite⟩ := hidden_fields_invisible r h h' hd hd' hsame
  have hdraw : View.draw ⟨plainTree, r⟩ ⟨2⟩ .empty = (.ok (), plainGraph) := by decide +kernel
  have hgraph := graph_jsonTree "input" h rfl hdraw
  obtain rfl : g = plainGraph := Except.ok.inj ((hg "input").symm.trans hgraph)
  exact ⟨h, h', hd, hd', hsame, _, g', hgraph, hg' "input", rfl, hedges.symm, hwrite⟩

end Frontend

end SyntaxGraph

import SyntaxGraph.Proofs.Drawing.Numbering
import SyntaxGraph.Proofs.Frontend

namespace SyntaxGraph.Frontend

theorem drawn_siblings_first {f : Frontend} (hf : f ∈ stock) {text : String} {t : Tree}
    (h : f.parse text = .ok t) (r : Registry) :
    ∃ root g, t.root = some root ∧
      (∀ name, Pipeline.graph ⟨r, stock⟩ ⟨name, f.language, text⟩ = .ok g) ∧
        if View.isDrawn ⟨t, r⟩ root then View.SiblingsFirst ⟨t, r⟩ root g else g = .empty := by
  have ht := sound_stock hf h
  obtain ⟨hpos, hroot⟩ := ht.rooted
  have hlt : t.size - 1 < t.size := Nat.sub_lt hpos Nat.one_pos
  obtain ⟨g, hdraw, _⟩ := View.draw_ok_of_heldBefore (v := ⟨t, r⟩) ht.heldBefore hlt .empty
  refine ⟨_, g, hroot, fun name => Pipeline.graph_of_parse (find?_stock hf) h hroot hdraw, ?_⟩
  split
  · next hd => exact View.siblingsFirst_of_draw ht hd hdraw
  · next hd =>
    obtain ⟨visited, hv⟩ := View.visited_of_draw hdraw
    exact hv.eq_empty (by simpa using hd)

def swappedOperands : String :=
  "\x7b\"kind\": \"BinOp\", \"fields\": \x7b"
    ++ "\"right\": \x7b\"kind\": \"Name\"\x7d, \"left\": \x7b\"kind\": \"Constant\"\x7d"
    ++ "\x7d\x7d"

def swappedTree : Tree where
  nodes := #[⟨"Name", []⟩, ⟨"Constant", []⟩, ⟨"BinOp", [("right", .node ⟨0⟩), ("left", .node ⟨1⟩)]⟩]
  root := some ⟨2⟩

def swappedGraph : Graph :=
  Graph.empty.applyAll [
    .attach ⟨1⟩ (some (⟨2⟩, some "left")),
    .attach ⟨0⟩ (some (⟨2⟩, some "right")),
    .paint ⟨2⟩ ⟨some "#abedd3", some "binop: ?"⟩,
    .paint ⟨1⟩ ⟨some "purple", none⟩,
    .paint ⟨0⟩ ⟨some "green", none⟩]

theorem parse_swappedOperands : jsonTree.parse swappedOperands = .ok swappedTree := by
  decide +kernel

theorem graph_swappedOperands :
    Pipeline.graph ⟨.standard {} .standard, stock⟩ ⟨"input", .jsonTree, swappedOperands⟩ =
      .ok swappedGraph := by
  decide +kernel

theorem drawn_siblings_first_swappedOperands :
    jsonTree ∈ stock ∧ jsonTree.parse swappedOperands = .ok swappedTree ∧
      Pipeline.graph ⟨.standard {} .standard, stock⟩ ⟨"input", .jsonTree, swappedOperands⟩ =
        .ok swappedGraph ∧
      View.SiblingsFirst ⟨swappedTree, .standard {} .standard⟩ ⟨2⟩ swappedGraph := by
  have hf : jsonTree ∈ stock := List.mem_cons_of_mem _ List.mem_cons_self
  obtain ⟨root, g, hroot, hg, hs⟩ := drawn_siblings_first hf parse_swappedOperands (.standard {} .standard)
  cases hroot
  have hd : View.isDrawn ⟨swappedTree, .standard {} .standard⟩ ⟨2⟩ = true := by decide +kernel
  rw [if_pos hd] at hs
  cases (hg "input").symm.trans graph_swappedOperands
  exact ⟨hf, parse_swappedOperands, graph_swappedOperands, hs⟩

def NumberedByFields (v : View) (g : Graph) (n : Node) : Prop :=
  ∃ first, ∀ i c, (n.held.filter v.isDrawn)[i]? = some c → g.number? c = some (first + i)

theorem not_numberedByFields_swappedOperands :
    jsonTree.parse swappedOperands = .ok swappedTree ∧
      Pipeline.graph ⟨.standard {} .standard, stock⟩ ⟨"input", .jsonTree, swappedOperands⟩ =
        .ok swappedGraph ∧
      ∃ n, swappedTree.node? ⟨2⟩ = some n ∧
        ¬ NumberedByFields ⟨swappedTree, .standard {} .standard⟩ swappedGraph n := by
  refine ⟨parse_swappedOperands, graph_swappedOperands, _, rfl, ?_⟩
  rintro ⟨first, h⟩
  have hright := h 0 ⟨0⟩ (by decide +kernel)
  have hleft := h 1 ⟨1⟩ (by decide +kernel)
  have hright' : swappedGraph.number? ⟨0⟩ = some 2 := by decide +kernel
  have hleft' : swappedGraph.number? ⟨1⟩ = some 1 := by decide +kernel
  have h2 : 2 = first + 0 := Option.some.inj (hright'.symm.trans hright)
  have h1 : 1 = first + 1 := Option.some.inj (hleft'.symm.trans hleft)
  omega

end SyntaxGraph.Frontend

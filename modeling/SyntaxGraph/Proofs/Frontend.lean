import SyntaxGraph.Pipeline
import SyntaxGraph.Proofs.Drawing.Ending
import SyntaxGraph.Proofs.Except
import SyntaxGraph.Proofs.Source.Draft
import SyntaxGraph.Proofs.Tree.Document

namespace SyntaxGraph

namespace Frontend

theorem exists_parsed_items {text : String} {t : Tree} (h : rust.parse text = .ok t) :
    ∃ items, Source.parse text = .ok items ∧ t = Source.treeOfItems items := by
  have hmap : (Source.parse text).map Source.treeOfItems = .ok t := Except.of_mapError_eq_ok h
  cases hp : Source.parse text with
  | error e =>
    rw [hp] at hmap
    cases hmap
  | ok items =>
    rw [hp] at hmap
    cases hmap
    exact ⟨items, rfl, rfl⟩

theorem exists_items {text : String} {t : Tree} (h : rust.parse text = .ok t) :
    ∃ items, t = Source.treeOfItems items :=
  (exists_parsed_items h).imp fun _ hitems => hitems.2

theorem sound_rust {text : String} {t : Tree} (h : rust.parse text = .ok t) : t.Sound := by
  obtain ⟨items, rfl⟩ := exists_items h
  exact Source.sound_treeOfItems items

theorem sound_jsonTree {text : String} {t : Tree} (h : jsonTree.parse text = .ok t) : t.Sound :=
  Tree.sound_ofDocument (Except.of_mapError_eq_ok h)

theorem parse_of_read {text : String} {d : Json.Value} (hd : Json.read text = .ok d) :
    jsonTree.parse text = d.toTree.mapError .misshapen := by
  have htree : Tree.ofDocument text = d.toTree.mapError .misshapen := by
    unfold Tree.ofDocument
    rw [hd]
  change (Tree.ofDocument text).mapError _ = _
  rw [htree]
  cases d.toTree <;> rfl

theorem sound_stock {f : Frontend} (hf : f ∈ stock) {text : String} {t : Tree}
    (h : f.parse text = .ok t) : t.Sound := by
  simp only [stock, List.mem_cons, List.not_mem_nil, or_false] at hf
  rcases hf with rfl | rfl
  · exact sound_rust h
  · exact sound_jsonTree h

theorem find?_stock {f : Frontend} (hf : f ∈ stock) : stock.find? (·.language = f.language) = some f := by
  simp only [stock, List.mem_cons, List.not_mem_nil, or_false] at hf
  rcases hf with rfl | rfl <;> rfl

end Frontend

theorem Pipeline.graph_of_parse {r : Registry} {frontends : List Frontend} {name text : String}
    {f : Frontend} {t : Tree} {root : NodeId} {g : Graph}
    (hf : frontends.find? (·.language = f.language) = some f) (ht : f.parse text = .ok t)
    (hr : t.root = some root) (hd : View.draw ⟨t, r⟩ root .empty = (.ok (), g)) :
    Pipeline.graph ⟨r, frontends⟩ ⟨name, f.language, text⟩ = .ok g := by
  have htree : Pipeline.tree ⟨r, frontends⟩ ⟨name, f.language, text⟩ = .ok t := by
    simp only [tree, frontend?, hf, ht]
    rfl
  simp only [graph, htree, bind, Except.bind, hr, hd]
  rfl

namespace Frontend

theorem drawn_of_parse {f : Frontend} (hf : f ∈ stock) {text : String} {t : Tree}
    (h : f.parse text = .ok t) (r : Registry) :
    ∃ root g, t.root = some root ∧ View.draw ⟨t, r⟩ root .empty = (.ok (), g) ∧
      ∀ name, Pipeline.graph ⟨r, stock⟩ ⟨name, f.language, text⟩ = .ok g := by
  have ht := sound_stock hf h
  obtain ⟨hpos, hroot⟩ := ht.rooted
  have hlt : t.size - 1 < t.size := Nat.sub_lt hpos Nat.one_pos
  obtain ⟨g, hdraw, _⟩ := View.draw_ok_of_heldBefore (v := ⟨t, r⟩) ht.heldBefore hlt .empty
  exact ⟨_, g, hroot, hdraw, fun name => Pipeline.graph_of_parse (find?_stock hf) h hroot hdraw⟩

theorem sound_and_drawn {f : Frontend} (hf : f ∈ stock) {text : String} {t : Tree}
    (h : f.parse text = .ok t) :
    t.Sound ∧ ∀ (s : Settings) (kinds : Hierarchy), s.kinds = .ok kinds → ∀ name : String,
      ∃ root g, t.root = some root ∧
        (∃ visits, ∀ n, visits ≤ n →
          View.walk ⟨t, .standard s kinds⟩ n [root] .empty = (.ok (), g)) ∧
        Pipeline.graph ⟨.standard s kinds, stock⟩ ⟨name, f.language, text⟩ = .ok g := by
  have ht := sound_stock hf h
  obtain ⟨hpos, hroot⟩ := ht.rooted
  refine ⟨ht, fun s kinds _ name => ?_⟩
  have hlt : t.size - 1 < t.size := Nat.sub_lt hpos Nat.one_pos
  obtain ⟨g, hdraw, hends⟩ :=
    View.draw_ok_of_heldBefore (v := ⟨t, .standard s kinds⟩) ht.heldBefore hlt .empty
  exact ⟨_, g, hroot, hends, Pipeline.graph_of_parse (find?_stock hf) h hroot hdraw⟩

def passDocument : String :=
  "\x7b\"kind\": \"Module\", \"fields\": \x7b\"body\": [\x7b\"kind\": \"Pass\"\x7d]\x7d\x7d"

def passTree : Tree where
  nodes := #[⟨"Pass", []⟩, ⟨"Module", [("body", .list [⟨0⟩])]⟩]
  root := some ⟨1⟩

theorem sound_and_drawn_passDocument :
    jsonTree ∈ stock ∧ jsonTree.parse passDocument = .ok passTree ∧ passTree.Sound ∧
      ({} : Settings).kinds = .ok .standard ∧
      ∃ g, Pipeline.graph ⟨.standard {} .standard, stock⟩ ⟨"input", .jsonTree, passDocument⟩ = .ok g := by
  have hf : jsonTree ∈ stock := List.mem_cons_of_mem _ List.mem_cons_self
  have hp : jsonTree.parse passDocument = .ok passTree := by decide +kernel
  have hk : ({} : Settings).kinds = .ok .standard := rfl
  obtain ⟨hs, hd⟩ := sound_and_drawn hf hp
  obtain ⟨_, g, _, _, hg⟩ := hd {} .standard hk "input"
  exact ⟨hf, hp, hs, hk, g, hg⟩

end Frontend

end SyntaxGraph

import SyntaxGraph.Proofs.Drawing.Widening
import SyntaxGraph.Proofs.Frontend

namespace SyntaxGraph

namespace Frontend

theorem keeps_under_further_kinds {f : Frontend} (hf : f ∈ stock) {text : String} {t : Tree}
    (h : f.parse text = .ok t) {relations : List (Kind × Kind)} {kinds : Hierarchy}
    (hk : Settings.kinds { hierarchy := relations } = .ok kinds)
    (hnew : ∀ r ∈ relations, Hierarchy.standard.parent r.1 = none) :
    let r := Registry.standard {} .standard
    let r' := Registry.standard { hierarchy := relations } kinds
    ∃ g g', (∀ name, Pipeline.graph ⟨r, stock⟩ ⟨name, f.language, text⟩ = .ok g) ∧
      (∀ name, Pipeline.graph ⟨r', stock⟩ ⟨name, f.language, text⟩ = .ok g') ∧
      View.Keeps ⟨t, r'⟩ ⟨t, r⟩ g' g := by
  intro r r'
  obtain ⟨he, hc⟩ := Hierarchy.extends_of_declareAll hnew hk
  have hwidens : View.Widens ⟨t, r'⟩ ⟨t, r⟩ :=
    View.widens_of_resolve fun kind strategy hs => Registry.resolve_extended hc he hs
  obtain ⟨root, g, hroot, hdraw, hgraph⟩ := drawn_of_parse hf h r
  obtain ⟨root', g', hroot', hdraw', hgraph'⟩ := drawn_of_parse hf h r'
  obtain rfl : root = root' := Option.some.inj (hroot.symm.trans hroot')
  exact ⟨g, g', hgraph, hgraph', hwidens.keeps (sound_stock hf h) hdraw hdraw'⟩

def matchCaseDocument : String :=
  "\x7b\"kind\":\"Module\",\"fields\":\x7b\"body\":"
    ++ "[\x7b\"kind\":\"Pass\"\x7d,\x7b\"kind\":\"MatchCase\"\x7d]\x7d\x7d"

def matchCaseTree : Tree where
  nodes := #[⟨"Pass", []⟩, ⟨"MatchCase", []⟩, ⟨"Module", [("body", .list [⟨0⟩, ⟨1⟩])]⟩]
  root := some ⟨2⟩

def matchCaseRelations : List (Kind × Kind) :=
  [("AST", "Thing"), ("MatchCase", "stmt")]

def matchCaseKinds : Hierarchy :=
  ⟨matchCaseRelations.reverse ++ Hierarchy.standard.relations⟩

theorem keeps_under_further_kinds_matchCase :
    let r := Registry.standard {} .standard
    let r' := Registry.standard { hierarchy := matchCaseRelations } matchCaseKinds
    jsonTree ∈ stock ∧ jsonTree.parse matchCaseDocument = .ok matchCaseTree ∧
      Settings.kinds { hierarchy := matchCaseRelations } = .ok matchCaseKinds ∧
      (∀ r ∈ matchCaseRelations, Hierarchy.standard.parent r.1 = none) ∧
      ∃ g g', Pipeline.graph ⟨r, stock⟩ ⟨"input", .jsonTree, matchCaseDocument⟩ = .ok g ∧
        Pipeline.graph ⟨r', stock⟩ ⟨"input", .jsonTree, matchCaseDocument⟩ = .ok g' ∧
        View.Keeps ⟨matchCaseTree, r'⟩ ⟨matchCaseTree, r⟩ g' g ∧ g.size = 2 ∧ g'.size = 3 := by
  intro r r'
  have hf : jsonTree ∈ stock := List.mem_cons_of_mem _ List.mem_cons_self
  have h : jsonTree.parse matchCaseDocument = .ok matchCaseTree := by decide +kernel
  have hk : Settings.kinds { hierarchy := matchCaseRelations } = .ok matchCaseKinds := by decide +kernel
  have hnew : ∀ r ∈ matchCaseRelations, Hierarchy.standard.parent r.1 = none := by decide +kernel
  obtain ⟨g, g', hg, hg', hkeeps⟩ := keeps_under_further_kinds hf h hk hnew
  have hgraph : Pipeline.graph ⟨r, stock⟩ ⟨"input", .jsonTree, matchCaseDocument⟩ = .ok g := hg "input"
  have hgraph' : Pipeline.graph ⟨r', stock⟩ ⟨"input", .jsonTree, matchCaseDocument⟩ = .ok g' := hg' "input"
  have hsizes : (Pipeline.graph ⟨r, stock⟩ ⟨"input", .jsonTree, matchCaseDocument⟩).map Graph.size = .ok 2 ∧
      (Pipeline.graph ⟨r', stock⟩ ⟨"input", .jsonTree, matchCaseDocument⟩).map Graph.size = .ok 3 := by
    decide +kernel
  rw [hgraph, hgraph'] at hsizes
  exact ⟨hf, h, hk, hnew, g, g', hgraph, hgraph', hkeeps, Except.ok.inj hsizes.1, Except.ok.inj hsizes.2⟩

end Frontend

end SyntaxGraph

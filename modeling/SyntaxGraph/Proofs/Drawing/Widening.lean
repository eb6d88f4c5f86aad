import SyntaxGraph.Proofs.Drawing.Faults
import SyntaxGraph.Proofs.Drawing.OneWay
import SyntaxGraph.Proofs.Drawing.Shared
import SyntaxGraph.Proofs.Drawing.Stock
import SyntaxGraph.Proofs.Kind.Extending
import Mathlib.Data.List.Find

namespace SyntaxGraph

open Relation

namespace Registry

variable {h : Hierarchy} {kind : Kind}

theorem below_root_stock (s : Settings) :
    ∀ a ∈ ((stockRegistrations s).flatMap Registration.pairs).map Prod.fst,
      Hierarchy.standard.isSubkind a Kind.root = true ∧ a ≠ Kind.root := by
  have hkinds : ∀ a ∈ ["expr", "stmt", "mod", "BinOp", "Call", "Name", "Constant", "Compare"],
      Hierarchy.standard.isSubkind a Kind.root = true ∧ a ≠ Kind.root := by
    decide +kernel
  exact hkinds

theorem resolve_extended (hc : h.parents.Acyclic) (he : h.parents.Extends Hierarchy.standard.parents)
    {s : Settings} {strategy : Strategy} (hs : (standard s .standard).resolve kind = some strategy) :
    (standard s h).resolve kind = some strategy := by
  rw [standard_eq, resolve_insertAll] at hs ⊢
  rcases Option.or_eq_some_iff.mp hs with hown | ⟨hown, hinherited⟩
  · rw [hown]
    rfl
  · obtain ⟨a, ha, _⟩ := Option.bind_eq_some_iff.mp hinherited
    have hordered := Hierarchy.Declared.standard.ordered
    have hkind : Hierarchy.standard.isSubkind kind Kind.root = true := by
      obtain ⟨hroot, _⟩ := below_root_stock s a (List.mem_of_find?_eq_some ha)
      exact hordered.trans kind a Kind.root (List.find?_some ha) hroot
    have hsame : ∀ b ∈ ((stockRegistrations s).flatMap Registration.pairs).map Prod.fst,
        h.isSubkind kind b = Hierarchy.standard.isSubkind kind b := by
      intro b hb
      obtain ⟨hroot, hne⟩ := below_root_stock s b hb
      exact h.isSubkind_extended hc he hkind hroot hne
    rw [hown, Option.none_or, List.find?_congr hsame]
    exact hinherited

end Registry

namespace View

structure Widens (v' v : View) : Prop where
  tree : v'.tree = v.tree
  drawing : ∀ id d, v.drawing? id = some d → v'.drawing? id = some d

section

variable {v v' : View} {root id a b : NodeId} {g g' : Graph} {visited visited' : List NodeId}

theorem widens_of_resolve {t : Tree} {r r' : Registry}
    (h : ∀ kind s, r.resolve kind = some s → r'.resolve kind = some s) :
    Widens ⟨t, r'⟩ ⟨t, r⟩ where
  tree := rfl
  drawing id d hd := by
    obtain ⟨n, s⟩ := d
    obtain ⟨hn, hs⟩ := drawing?_eq_some_iff.mp hd
    exact drawing?_eq_some_iff.mpr ⟨hn, h n.kind s hs⟩

theorem Widens.isDrawn (h : v'.Widens v) (hd : v.isDrawn id = true) : v'.isDrawn id = true := by
  rw [isDrawn_eq] at hd ⊢
  obtain ⟨d, hd⟩ := Option.isSome_iff_exists.mp hd
  rw [h.drawing id d hd]
  rfl

theorem Widens.followed_subset (h : v'.Widens v) (id : NodeId) : v.followed id ⊆ v'.followed id := by
  intro r hr
  unfold View.followed at hr ⊢
  cases hd : v.drawing? id with
  | none => simp [hd] at hr
  | some d =>
    rw [hd] at hr
    rw [h.drawing id d hd, h.tree]
    obtain ⟨hmem, hdrawn⟩ := List.mem_filter.mp hr
    exact List.mem_filter.mpr ⟨hmem, h.isDrawn hdrawn⟩

theorem Widens.follows (h : v'.Widens v) (hab : v.Follows a b) : v'.Follows a b :=
  List.map_subset Prod.fst (h.followed_subset a) hab

theorem Widens.reaches (h : v'.Widens v) (hab : ReflTransGen v.Follows a b) :
    ReflTransGen v'.Follows a b :=
  hab.lift (fun a => a) fun _ _ => h.follows

theorem Visited.styleOf_eq (h : v.Visited root .empty visited g) {n : Node} {s : Strategy}
    (hid : (g.number? id).isSome) (hd : v.drawing? id = some (n, s)) :
    g.styleOf id = some (s.style v.tree n) := by
  have hmem : id ∈ visited := h.mem_visited.mpr ((h.isSome_number? id).mp hid).2
  obtain ⟨children, hr⟩ := h.looked id hmem
  have hdrawn : v.isDrawn id = true := by rw [isDrawn_eq, hd]; rfl
  obtain ⟨c, hc, hstyled⟩ := (styled_visitChanges hr id).mpr ⟨hdrawn, rfl⟩
  obtain ⟨style, hstyle⟩ := Option.isSome_iff_exists.mp hstyled
  obtain ⟨n', s', hd', rfl⟩ := drawing_of_styled hc hstyle
  cases hd.symm.trans hd'
  rw [h.graph]
  exact styleOf_visits (List.mem_flatMap.mpr ⟨id, hmem, hc⟩) hstyle

theorem Visited.drawing?_of_number? (h : v.Visited root .empty visited g) (hid : (g.number? id).isSome) :
    ∃ d, v.drawing? id = some d := by
  obtain ⟨hroot, hreach⟩ := (h.isSome_number? id).mp hid
  have hdrawn := (isDrawn_of_reflTransGen hreach).mp hroot
  rw [isDrawn_eq] at hdrawn
  exact Option.isSome_iff_exists.mp hdrawn

theorem Visited.nodup_lines (ht : v.tree.Sound) (h : v.Visited root .empty visited g) : g.lines.Nodup := by
  have hheads : g.lines.map (fun line => line.2.1) = (visited.flatMap v.children).map some := by
    rw [h.lines, List.map_flatMap, List.map_flatMap]
    apply List.flatMap_congr
    intro id hid
    obtain ⟨children, hr⟩ := h.looked id hid
    rw [View.children, hr, references_ok hr, List.map_map, List.map_map]
    rfl
  apply List.Nodup.of_map fun line => line.2.1
  rw [hheads]
  exact (List.nodup_cons.mp (h.nodup_children ht)).2.map (Option.some_injective NodeId)

theorem Widens.lines_subset (h : v'.Widens v) (hv : v.Visited root .empty visited g)
    (hv' : v'.Visited root .empty visited' g') : g.lines ⊆ g'.lines := by
  intro line hline
  rw [hv.lines] at hline
  rw [hv'.lines]
  obtain ⟨id, hid, hline⟩ := List.mem_flatMap.mp hline
  have hid' : id ∈ visited' := hv'.mem_visited.mpr (h.reaches (hv.mem_visited.mp hid))
  exact List.mem_flatMap.mpr ⟨id, hid', List.map_subset _ (h.followed_subset id) hline⟩

end

/-- The second graph has all that is on the first: every node, drawn by the same strategy in the same style,
and as many edges as before between the same nodes with the same label. -/
structure Keeps (v' v : View) (g' g : Graph) : Prop where
  node : ∀ id, (g.number? id).isSome → (g'.number? id).isSome
  strategy : ∀ id, (g.number? id).isSome → ∃ d, v.drawing? id = some d ∧ v'.drawing? id = some d
  style : ∀ id, (g.number? id).isSome → ∃ style, g.styleOf id = some style ∧ g'.styleOf id = some style
  edges : g.lines.Subperm g'.lines

theorem Widens.keeps {v v' : View} {root : NodeId} {g g' : Graph} (h : v'.Widens v) (ht : v.tree.Sound)
    (hd : v.draw root .empty = (.ok (), g)) (hd' : v'.draw root .empty = (.ok (), g')) :
    v'.Keeps v g' g := by
  obtain ⟨visited, hv⟩ := visited_of_draw hd
  obtain ⟨visited', hv'⟩ := visited_of_draw hd'
  have hnode (id : NodeId) (hid : (g.number? id).isSome) : (g'.number? id).isSome := by
    obtain ⟨hroot, hreach⟩ := (hv.isSome_number? id).mp hid
    exact (hv'.isSome_number? id).mpr ⟨h.isDrawn hroot, h.reaches hreach⟩
  constructor
  case node => exact hnode
  case strategy =>
    intro id hid
    obtain ⟨d, hdrawing⟩ := hv.drawing?_of_number? hid
    exact ⟨d, hdrawing, h.drawing id d hdrawing⟩
  case style =>
    intro id hid
    obtain ⟨⟨n, s⟩, hdrawing⟩ := hv.drawing?_of_number? hid
    refine ⟨_, hv.styleOf_eq hid hdrawing, ?_⟩
    rw [hv'.styleOf_eq (hnode id hid) (h.drawing id _ hdrawing), h.tree]
  case edges => exact List.subperm_of_subset (hv.nodup_lines ht) (h.lines_subset hv hv')

end View

end SyntaxGraph

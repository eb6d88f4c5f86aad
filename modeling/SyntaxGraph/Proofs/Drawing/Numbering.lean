import SyntaxGraph.Proofs.Drawing.OneWay
import SyntaxGraph.Proofs.Graph.Growth

/-!
How the nodes of a sound tree are numbered. Visiting a node gives the next numbers to its children, in
the order in which they are referred to, and nodes are visited along the ways down in their order.
-/

namespace SyntaxGraph

namespace View

/-- Every node in turn is known, or a child of one before it. -/
def Announced (v : View) : List NodeId → List NodeId → Prop
  | _, [] => True
  | known, id :: rest => id ∈ known ∧ v.Announced (known ++ v.children id) rest

section

variable {v : View} {root a b id : NodeId} {known ids visited others : List NodeId} {g g' : Graph}

theorem announced_append (h : v.Announced known visited)
    (h' : v.Announced (known ++ visited.flatMap v.children) others) :
    v.Announced known (visited ++ others) := by
  induction visited generalizing known with
  | nil => simpa using h'
  | cons id visited ih =>
    refine ⟨h.1, ih h.2 ?_⟩
    rwa [List.flatMap_cons, ← List.append_assoc] at h'

theorem Descends.announced {r : Outcome} (h : v.Descends ids g visited r) (hr : r.1 = .ok ())
    (hids : ∀ id ∈ ids, id ∈ known) : v.Announced known visited := by
  induction h generalizing known with
  | done => trivial
  | missing | failed | stopped => cases hr
  | @omitted id rest g n visited r hn hs _ ih =>
    obtain ⟨hid, hrest⟩ := List.forall_mem_cons.mp hids
    exact ⟨hid, ih hr fun x hx => List.mem_append_left _ (hrest x hx)⟩
  | @drawn id rest g n s children g' below g'' visited r hn hs hm _ _ ihc ihr =>
    obtain ⟨hid, hrest⟩ := List.forall_mem_cons.mp hids
    have hc := children_of_visit_ok ((visit_drawn hn hs g).trans hm)
    refine ⟨hid, announced_append (ihc rfl ?_) (ihr hr ?_)⟩
    · intro x hx
      exact List.mem_append_right _ (hc ▸ hx)
    · intro x hx
      exact List.mem_append_left _ (List.mem_append_left _ (hrest x hx))

theorem announced_of_draw (h : v.draw root g = (.ok (), g')) :
    ∃ visited, v.Visited root g visited g' ∧ v.Announced [root] visited := by
  obtain ⟨visited, hd, _⟩ := descends_of_walk h (by simp)
  obtain ⟨taken, ht⟩ := hd.tour
  exact ⟨visited, ⟨hd.graph, hd.references_ok rfl, _, ht.single⟩, hd.announced rfl fun _ hx => hx⟩

end

section

variable {v : View} {root a b id : NodeId} {children known visited : List NodeId} {g : Graph}

theorem grown_marks (marks : List Mark) (hg : g.Grown) (hid : id ∈ g.sources)
    (hc : ((marks.filterMap Mark.reference?).filter fun r => v.isDrawn r.1).map Prod.fst = children)
    (hn : (g.sources ++ children).Nodup) :
    (g.applyAll (marks.filterMap (v.change? id))).Grown ∧
      (g.applyAll (marks.filterMap (v.change? id))).sources = g.sources ++ children := by
  induction marks generalizing g children with
  | nil =>
    subst hc
    exact ⟨hg, (List.append_nil _).symm⟩
  | cons m rest ih =>
    cases m with
    | examine child => exact ih hg hid hc hn
    | paint style =>
      have hsources := Graph.sources_paint_of_mem hid style
      have := ih (hg.paint hid style) (hsources ▸ hid) hc (hsources ▸ hn)
      rwa [hsources] at this
    | link child label =>
      simp only [List.filterMap_cons, Mark.reference?, List.filter_cons] at hc
      cases hd : v.isDrawn child with
      | false =>
        simp only [hd] at hc
        simpa [List.filterMap_cons, change?, hd] using ih hg hid hc hn
      | true =>
        simp only [hd, if_true, List.map_cons] at hc
        subst hc
        have hnew : child ∉ g.sources := by grind
        have hsources : (g.link id child label).sources = g.sources ++ [child] :=
          Graph.sources_link hid hnew
        have hknown : id ∈ (g.link id child label).sources :=
          hsources ▸ List.mem_append_left _ hid
        have hfold : g.applyAll ((Mark.link child label :: rest).filterMap (v.change? id)) =
            (g.link id child label).applyAll (rest.filterMap (v.change? id)) := by
          simp only [List.filterMap_cons, change?, hd, if_true]
          rfl
        have := ih (hg.link hid hnew) hknown rfl (by simpa [hsources] using hn)
        rw [hfold]
        simpa [hsources] using this

theorem grown_visit (hr : v.references id = .ok children) (hg : g.Grown) (hid : id ∈ g.sources)
    (hn : (g.sources ++ v.children id).Nodup) :
    (g.applyAll (v.visitChanges id)).Grown ∧
      (g.applyAll (v.visitChanges id)).sources = g.sources ++ v.children id := by
  have hc : v.children id = (v.followed id).map Prod.fst := by
    rw [View.children, hr, ← references_ok hr]
  cases hd : v.drawing? id with
  | none =>
    have hnone : v.children id = [] := by simp [hc, followed, hd]
    rw [visitChanges, hd, hnone, List.append_nil]
    exact ⟨hg, rfl⟩
  | some d =>
    obtain ⟨n, s⟩ := d
    rw [visitChanges_ok hr hd]
    apply grown_marks _ hg hid _ hn
    rw [hc, Strategy.plan_references, followed, hd]

theorem grown_visits (hok : ∀ id ∈ visited, ∃ children, v.references id = .ok children) (hg : g.Grown)
    (ha : v.Announced g.sources visited) (hn : (g.sources ++ visited.flatMap v.children).Nodup) :
    (g.applyAll (visited.flatMap v.visitChanges)).Grown ∧
      (g.applyAll (visited.flatMap v.visitChanges)).sources =
        g.sources ++ visited.flatMap v.children := by
  induction visited generalizing g with
  | nil => exact ⟨hg, (List.append_nil _).symm⟩
  | cons id rest ih =>
    obtain ⟨⟨children, hr⟩, hrest⟩ := List.forall_mem_cons.mp hok
    rw [List.flatMap_cons, ← List.append_assoc] at hn
    obtain ⟨hgrown, hsources⟩ := grown_visit hr hg ha.1 (List.nodup_append.mp hn).1
    rw [List.flatMap_cons, List.flatMap_cons, Graph.applyAll_append, ← List.append_assoc, ← hsources]
    exact ih hrest hgrown (hsources ▸ ha.2) (hsources ▸ hn)

theorem head?_mentioned_of_mem_visitChanges {c : Change} (hc : c ∈ v.visitChanges id) :
    c.mentioned.head? = some id := by
  unfold visitChanges changes at hc
  cases hd : v.drawing? id with
  | none => simp [hd] at hc
  | some d =>
    rw [hd] at hc
    obtain ⟨m, _, hm⟩ := List.mem_filterMap.mp hc
    exact head?_mentioned_of_change? hm

end

section

variable {v : View} {root a b id : NodeId} {visited : List NodeId} {g : Graph}

theorem visitChanges_of_undrawn (h : v.isDrawn id = false) : v.visitChanges id = [] := by
  rw [isDrawn_eq] at h
  unfold visitChanges
  cases hd : v.drawing? id with
  | none => rfl
  | some d => simp [hd] at h

theorem Visited.eq_empty (h : v.Visited root .empty visited g) (hd : v.isDrawn root = false) :
    g = .empty := by
  have hnone : ∀ id ∈ visited, v.visitChanges id = [] := by
    intro id hid
    apply visitChanges_of_undrawn
    rw [← Bool.not_eq_true, ← isDrawn_of_reflTransGen (h.mem_visited.mp hid), hd]
    exact Bool.false_ne_true
  rw [h.graph, List.flatMap_eq_nil_iff.mpr hnone]
  rfl

theorem numbered_of_draw (ht : v.tree.Sound) (hd : v.isDrawn root)
    (h : v.draw root .empty = (.ok (), g)) :
    ∃ visited, v.Visited root .empty visited g ∧ g.Grown ∧
      g.sources = root :: visited.flatMap v.children := by
  obtain ⟨visited, hv, ha⟩ := announced_of_draw h
  have hfirst : ∃ c rest, visited.flatMap v.visitChanges = c :: rest ∧ c.mentioned.head? = some root := by
    have hroot : root ∈ visited := hv.mem_visited.mpr .refl
    cases visited with
    | nil => cases hroot
    | cons id rest =>
      obtain rfl : id = root := List.mem_singleton.mp ha.1
      obtain ⟨children, hr⟩ := hv.looked id List.mem_cons_self
      obtain ⟨c, hc, _⟩ := (styled_visitChanges hr id).mpr ⟨hd, rfl⟩
      cases hcs : v.visitChanges id with
      | nil => simp [hcs] at hc
      | cons c cs =>
        refine ⟨c, cs ++ rest.flatMap v.visitChanges, by rw [List.flatMap_cons, hcs]; rfl, ?_⟩
        exact head?_mentioned_of_mem_visitChanges (hcs ▸ List.mem_cons_self)
  have hstart : (Graph.empty.mention root).2.sources = [root] := rfl
  obtain ⟨hgrown, hsources⟩ := grown_visits hv.looked (Graph.grown_mention_empty root)
    (hstart ▸ ha) (hstart ▸ hv.nodup_children ht)
  rw [← Graph.applyAll_mention _ hfirst, ← hv.graph] at hgrown hsources
  rw [hstart] at hsources
  exact ⟨visited, hv, hgrown, hsources⟩

end

/-- A rooted tree whose vertices are numbered siblings first: those that one node refers to have
consecutive numbers, before all that is below any of them, and of two nodes the one that comes first on
the way down has its children numbered first. -/
structure SiblingsFirst (v : View) (root : NodeId) (g : Graph) : Prop where
  rootFirst : g.number? root = some 0
  grown : g.Grown
  consecutive : ∀ id, (g.number? id).isSome → ∃ first, ∀ i r, (v.followed id)[i]? = some r →
    g.number? r.1 = some (first + i)
  aboveBelow : ∀ id a b c, (g.number? id).isSome → v.Follows id a → v.Follows id b →
    Relation.TransGen v.Follows b c → g.Before a c
  inOrder : ∀ way way' id id', way < way' → v.follow root way = some id →
    v.follow root way' = some id' → ∀ a b, v.Follows id a → v.Follows id' b → g.Before a b

section

variable {v : View} {root a b id id' : NodeId} {visited : List NodeId} {g g' : Graph}

theorem lt_append_cons (way : List Nat) (k : Nat) (rest : List Nat) : way < way ++ k :: rest := by
  induction way with
  | nil => exact List.nil_lt_cons k rest
  | cons j way ih => exact List.cons_lt_cons_self.mpr ih

theorem Visited.leads (h : v.Visited root g visited g') (hid : id ∈ visited) (ha : v.Follows id a) :
    v.Leads id a := by
  obtain ⟨children, hr⟩ := h.looked id hid
  exact .of_follows hr ha

theorem Visited.sublist_of_lt (h : v.Visited root g visited g') {way way' : List Nat}
    (hlt : way < way') (hw : v.follow root way = some id) (hw' : v.follow root way' = some id') :
    [id, id'].Sublist visited := by
  obtain ⟨taken, htour⟩ := h.along
  have hmem {way : List Nat} (hs : (v.follow root way).isSome) : way ∈ taken := by
    rcases htour.complete way hs with hmem | ⟨hf, _⟩
    · exact hmem
    · cases hf
  have hsub : [way, way'].Sublist taken := by
    apply List.sublist_of_subperm_of_pairwise _ _ htour.ordered
    · apply List.subperm_of_subset
      · simpa using ne_of_lt hlt
      · simp [hmem, hw, hw']
    · simpa using hlt
  have hmap := hsub.map (v.follow root)
  rw [htour.ends, List.map_cons, List.map_cons, hw, hw'] at hmap
  obtain ⟨ids, hids, heq⟩ := List.sublist_map_iff.mp hmap
  have hinj : Function.Injective (List.map (some : NodeId → Option NodeId)) :=
    List.map_injective_iff.mpr (Option.some_injective _)
  obtain rfl : [id, id'] = ids := hinj heq
  exact hids

theorem Visited.exists_way (h : v.Visited root g visited g') (hid : id ∈ visited) :
    ∃ way, v.follow root way = some id := by
  obtain ⟨taken, htour⟩ := h.along
  exact exists_way_iff.mpr (htour.mem_visited.mp hid)

theorem Visited.transGen_leads (h : v.Visited root g visited g') (hid : id ∈ visited)
    (hab : Relation.TransGen v.Follows id a) : Relation.TransGen v.Leads id a := by
  induction hab with
  | single hab => exact .single (h.leads hid hab)
  | tail hb hbc ih =>
    have hreach := (h.mem_visited.mp hid).trans hb.to_reflTransGen
    exact ih.tail (h.leads (h.mem_visited.mpr hreach) hbc)

theorem before_of_visited
    (hs : g.sources = root :: visited.flatMap v.children) (hsub : [id, id'].Sublist visited)
    (ha : v.Leads id a) (hb : v.Leads id' b) : g.Before a b := by
  apply Graph.before_of_sublist
  rw [hs]
  apply List.Sublist.cons
  apply List.Sublist.trans _ (hsub.flatMap v.children)
  simp only [List.flatMap_cons, List.flatMap_nil, List.append_nil]
  exact (List.singleton_sublist.mpr ha).append (List.singleton_sublist.mpr hb)

theorem Visited.number?_child (h : v.Visited root .empty visited g)
    (hs : g.sources = root :: visited.flatMap v.children) (hid : id ∈ visited) :
    ∃ first, ∀ i r, (v.followed id)[i]? = some r → g.number? r.1 = some (first + i) := by
  obtain ⟨before, after, rfl⟩ := List.append_of_mem hid
  obtain ⟨children, hr⟩ := h.looked id hid
  have hc : v.children id = (v.followed id).map Prod.fst := by
    rw [View.children, hr, ← references_ok hr]
  refine ⟨(root :: before.flatMap v.children).length, fun i r hi => ?_⟩
  apply Graph.number?_of_getElem?
  have hlt : i < (v.children id).length := by
    rw [hc, List.length_map]
    exact (List.getElem?_eq_some_iff.mp hi).1
  rw [hs, List.flatMap_append, List.flatMap_cons, ← List.cons_append,
    List.getElem?_append_right (Nat.le_add_right _ i), Nat.add_sub_cancel_left,
    List.getElem?_append_left hlt, hc, List.getElem?_map, hi]
  rfl

theorem siblingsFirst_of_draw (ht : v.tree.Sound) (hd : v.isDrawn root)
    (h : v.draw root .empty = (.ok (), g)) : v.SiblingsFirst root g := by
  obtain ⟨visited, hv, hgrown, hs⟩ := numbered_of_draw ht hd h
  have hvisited {id : NodeId} (hid : (g.number? id).isSome) : id ∈ visited :=
    hv.mem_visited.mpr ((hv.isSome_number? id).mp hid).2
  have hmem {way : List Nat} {id : NodeId} (hw : v.follow root way = some id) : id ∈ visited := by
    obtain ⟨taken, htour⟩ := hv.along
    exact htour.mem_visited.mpr (exists_way_iff.mp ⟨way, hw⟩)
  constructor
  case rootFirst =>
    apply Graph.number?_of_getElem?
    rw [hs]
    rfl
  case grown => exact hgrown
  case consecutive =>
    intro id hid
    exact hv.number?_child hs (hvisited hid)
  case aboveBelow =>
    intro id a b c hid ha hb hbc
    obtain ⟨d, hbd, hdc⟩ := Relation.TransGen.tail'_iff.mp hbc
    obtain ⟨way, hw⟩ := hv.exists_way (hvisited hid)
    -- What is below a sibling is referred to by a node further down than the one that holds them.
    have hid' := hvisited hid
    have hdown := hv.transGen_leads hid' (Relation.TransGen.head' hb hbd)
    obtain ⟨k, rest, hrest⟩ := exists_way_of_transGen hdown
    have hw' : v.follow root (way ++ k :: rest) = some d := by
      rw [follow_append, hw]
      exact hrest
    have hsub := hv.sublist_of_lt (lt_append_cons way k rest) hw hw'
    exact before_of_visited hs hsub (hv.leads hid' ha) (hv.leads (hmem hw') hdc)
  case inOrder =>
    intro way way' id id' hlt hw hw' a b ha hb
    exact before_of_visited hs (hv.sublist_of_lt hlt hw hw') (hv.leads (hmem hw) ha) (hv.leads (hmem hw') hb)

end

end View

end SyntaxGraph

import SyntaxGraph.Proofs.Drawing.Ending

namespace SyntaxGraph

namespace View

open Relation

def OnlyThrough (v : View) (root hidden id : NodeId) : Prop :=
  ∀ chain : List NodeId, (root :: chain).IsChain v.tree.Holds → (root :: chain).getLast? = some id →
    hidden ∈ root :: chain

structure Visited (v : View) (root : NodeId) (g : Graph) (visited : List NodeId) (g' : Graph) : Prop where
  graph : g' = g.applyAll (visited.flatMap v.visitChanges)
  looked : ∀ id ∈ visited, ∃ children, v.references id = .ok children
  along : ∃ taken, Tour (v.follow root) visited true taken

section

variable {v : View} {root a b id : NodeId} {g g' : Graph} {visited : List NodeId}

theorem eq_of_isOk {r : Outcome} (h : r.1.isOk) : r = (.ok (), r.2) := by
  obtain ⟨result, g⟩ := r
  cases result with
  | ok u => rfl
  | error e => cases h

theorem visited_of_draw (h : v.draw root g = (.ok (), g')) : ∃ visited, v.Visited root g visited g' := by
  obtain ⟨visited, hd, _⟩ := descends_of_walk h (by simp)
  obtain ⟨taken, ht⟩ := hd.tour
  exact ⟨visited, hd.graph, hd.references_ok rfl, _, ht.single⟩

theorem Follows.isDrawn_left (h : v.Follows a b) : v.isDrawn a := by
  rw [isDrawn_eq]
  unfold Follows followed at h
  cases hd : v.drawing? a with
  | none => simp [hd] at h
  | some d => rfl

theorem isDrawn_of_reflTransGen (h : ReflTransGen v.Follows a b) : v.isDrawn a ↔ v.isDrawn b := by
  induction h with
  | refl => rfl
  | tail _ hbc ih => exact ⟨fun _ => hbc.held.1, fun _ => ih.mpr hbc.isDrawn_left⟩

theorem Visited.mem_visited (h : v.Visited root g visited g') :
    id ∈ visited ↔ ReflTransGen v.Follows root id := by
  obtain ⟨taken, ht⟩ := h.along
  constructor
  · intro hid
    exact (ht.mem_visited.mp hid).lift (fun a => a) fun a b hab => hab.follows
  · intro hid
    induction hid with
    | refl => exact ht.mem_visited.mpr .refl
    | tail _ hab ih =>
      -- A reference leads on only because the visit of its holder has not failed.
      obtain ⟨children, hr⟩ := h.looked _ ih
      exact ht.mem_visited.mpr ((ht.mem_visited.mp ih).tail (.of_follows hr hab))

theorem Visited.mem_changes (h : v.Visited root g visited g') (id : NodeId) :
    (∃ c ∈ visited.flatMap v.visitChanges, id ∈ c.mentioned) ↔
      v.isDrawn root ∧ ReflTransGen v.Follows root id := by
  simp only [List.mem_flatMap]
  constructor
  · rintro ⟨c, ⟨a, ha, hc⟩, hid⟩
    obtain ⟨children, hr⟩ := h.looked a ha
    obtain ⟨hd, hid⟩ := (mem_mentioned_visitChanges hr id).mp ⟨c, hc, hid⟩
    have hroot := h.mem_visited.mp ha
    refine ⟨(isDrawn_of_reflTransGen hroot).mpr hd, ?_⟩
    rcases hid with rfl | hid
    · exact hroot
    · exact hroot.tail hid
  · rintro ⟨hd, hid⟩
    have hmem := h.mem_visited.mpr hid
    obtain ⟨children, hr⟩ := h.looked id hmem
    have hdrawn := (isDrawn_of_reflTransGen hid).mp hd
    obtain ⟨c, hc, hid⟩ := (mem_mentioned_visitChanges hr id).mpr ⟨hdrawn, Or.inl rfl⟩
    exact ⟨c, ⟨id, hmem, hc⟩, hid⟩

theorem Visited.styled (h : v.Visited root g visited g') (hd : v.isDrawn root)
    (hid : ReflTransGen v.Follows root id) : (g'.styleOf id).isSome := by
  have hmem := h.mem_visited.mpr hid
  obtain ⟨children, hr⟩ := h.looked id hmem
  have hdrawn := (isDrawn_of_reflTransGen hid).mp hd
  obtain ⟨c, hc, hs⟩ := (styled_visitChanges hr id).mpr ⟨hdrawn, rfl⟩
  rw [h.graph, Graph.isSome_styleOf_applyAll]
  exact Or.inr ⟨c, List.mem_flatMap.mpr ⟨id, hmem, hc⟩, hs⟩

end

section

variable {v : View} {root id : NodeId} {g : Graph} {visited : List NodeId}

theorem Visited.wellFormed (h : v.Visited root .empty visited g) : g.WellFormed :=
  h.graph ▸ Graph.wellFormed_applyAll Graph.wellFormed_empty _

theorem Visited.isSome_number? (h : v.Visited root .empty visited g) (id : NodeId) :
    (g.number? id).isSome ↔ v.isDrawn root ∧ ReflTransGen v.Follows root id := by
  rw [Graph.isSome_number?, h.graph, Graph.mem_sources_applyAll, h.mem_changes]
  simp [Graph.empty, Graph.sources]

theorem Visited.isSome_style? (h : v.Visited root .empty visited g) {k : Nat} (hk : k < g.size) :
    (g.style? k).isSome := by
  have hlt : k < g.sources.length := by rwa [Graph.length_sources]
  have hs : g.source? k = some g.sources[k] := by
    rw [Graph.source?_eq, List.getElem?_eq_getElem hlt]
  have hn := (Graph.number?_eq_some_iff _ _ k).mpr hs
  obtain ⟨hd, hid⟩ := (h.isSome_number? g.sources[k]).mp (by simp [hn])
  have := h.styled hd hid
  rwa [Graph.styleOf, hn, Option.bind_some] at this

theorem exists_chain_drawn (hd : v.isDrawn root) (h : ReflTransGen v.Follows root id) :
    ∃ chain, (root :: chain).IsChain v.tree.Holds ∧ (root :: chain).getLast? = some id ∧
      ∀ x ∈ root :: chain, v.isDrawn x := by
  induction h using ReflTransGen.head_induction_on with
  | refl => exact ⟨[], List.isChain_singleton _, rfl, by simpa using hd⟩
  | @head a c hac _ ih =>
    obtain ⟨hc, hheld⟩ := hac.held
    obtain ⟨chain, hchain, hlast, hall⟩ := ih hc
    refine ⟨c :: chain, List.isChain_cons_cons.mpr ⟨hheld, hchain⟩, ?_, ?_⟩
    · rwa [List.getLast?_cons_cons]
    · exact List.forall_mem_cons.mpr ⟨hd, hall⟩

theorem Visited.number?_onlyThrough (h : v.Visited root .empty visited g) {hidden : NodeId}
    (hh : v.isDrawn hidden = false) (hid : v.OnlyThrough root hidden id) : g.number? id = none := by
  rw [← Option.not_isSome_iff_eq_none, h.isSome_number?]
  rintro ⟨hd, hreach⟩
  obtain ⟨chain, hchain, hlast, hall⟩ := exists_chain_drawn hd hreach
  have := hall hidden (hid chain hchain hlast)
  rw [hh] at this
  cases this

theorem source?_ne_of_number?_none {g : Graph} (h : g.number? id = none) (k : Nat) :
    g.source? k ≠ some id := by
  intro hk
  rw [← Graph.number?_eq_some_iff, h] at hk
  cases hk

theorem draw_shows {v : View} {root : NodeId} {g : Graph} (h : v.draw root .empty = (.ok (), g)) :
    (∀ id, (g.number? id).isSome ↔ v.isDrawn root ∧ ReflTransGen v.Follows root id) ∧
      (∀ k < g.size, (g.style? k).isSome) ∧
      (∀ e ∈ g.edges.toList, (g.style? e.tail).isSome ∧ (g.style? e.head).isSome) ∧
      ∀ hidden id, v.isDrawn hidden = false → v.OnlyThrough root hidden id →
        g.number? id = none ∧ g.styleOf id = none ∧
          ∀ e ∈ g.edges.toList, g.source? e.tail ≠ some id ∧ g.source? e.head ≠ some id := by
  obtain ⟨visited, hv⟩ := visited_of_draw h
  have hstyle : ∀ k < g.size, (g.style? k).isSome := fun k hk => hv.isSome_style? hk
  refine ⟨hv.isSome_number?, hstyle, ?_, ?_⟩
  · intro e he
    obtain ⟨ht, hh⟩ := hv.wellFormed.joined e he
    exact ⟨hstyle _ ht, hstyle _ hh⟩
  · intro hidden id hh hid
    have hn := hv.number?_onlyThrough hh hid
    have hne := source?_ne_of_number?_none hn
    exact ⟨hn, by rw [Graph.styleOf, hn, Option.bind_none], fun e _ => ⟨hne _, hne _⟩⟩

end

end View

theorem draw_repeatedStatement :
    repeatedStatement.draw ⟨2⟩ .empty = (.ok (), (repeatedStatement.draw ⟨2⟩ .empty).2) :=
  View.eq_of_isOk (by decide +kernel)

theorem draw_shows_repeatedStatement :
    let g := (repeatedStatement.draw ⟨2⟩ .empty).2
    repeatedStatement.draw ⟨2⟩ .empty = (.ok (), g) ∧
      (∀ id, (g.number? id).isSome ↔ Relation.ReflTransGen repeatedStatement.Follows ⟨2⟩ id) ∧
        g.size = 3 ∧ ∀ k < g.size, (g.style? k).isSome := by
  have hd : repeatedStatement.isDrawn ⟨2⟩ = true := by decide +kernel
  obtain ⟨hn, hs, _⟩ := View.draw_shows draw_repeatedStatement
  refine ⟨draw_repeatedStatement, ?_, by decide +kernel, hs⟩
  intro id
  rw [hn id, hd]
  exact and_iff_right rfl

end SyntaxGraph

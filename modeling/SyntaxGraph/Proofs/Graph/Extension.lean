import SyntaxGraph.Proofs.Graph.Records

namespace SyntaxGraph.Graph

def line (g : Graph) (e : Edge) : Option NodeId × Option NodeId × Option String :=
  (g.source? e.tail, g.source? e.head, e.label)

/-- The nodes of the first graph keep their numbers in the second, and the edges their places. -/
structure Kept (g g' : Graph) : Prop where
  number : ∀ id k, g.number? id = some k → g'.number? id = some k
  edges : g.edges.toList <+: g'.edges.toList

section

variable {g g' : Graph} {id : NodeId} {k : Nat}

theorem number?_of_isPrefix (h : g.sources <+: g'.sources) (hk : g.number? id = some k) :
    g'.number? id = some k := by
  obtain ⟨rest, hrest⟩ := h
  rw [number?_eq] at hk ⊢
  rw [← hrest, List.idxOf?, List.findIdx?_append, ← List.idxOf?, hk]
  rfl

theorem exists_edges_apply (g : Graph) (c : Change) : ∃ drawn, (g.apply c).edges = g.edges ++ drawn := by
  cases c with
  | mention id => exact ⟨#[], by simp [apply]⟩
  | paint id style => exact ⟨#[], by simp [apply, paint]⟩
  | attach child parent =>
    cases parent with
    | none => exact ⟨#[], by simp [apply, attach]⟩
    | some p =>
      refine ⟨#[⟨(g.mention p.1).1, ((g.mention p.1).2.mention child).1, p.2⟩], ?_⟩
      simp [apply, attach, link]

theorem exists_edges_applyAll (g : Graph) (cs : List Change) :
    ∃ drawn, (g.applyAll cs).edges = g.edges ++ drawn := by
  induction cs generalizing g with
  | nil => exact ⟨#[], Array.append_empty.symm⟩
  | cons c cs ih =>
    obtain ⟨first, hfirst⟩ := g.exists_edges_apply c
    obtain ⟨rest, hrest⟩ := ih (g.apply c)
    exact ⟨first ++ rest, by rw [applyAll_cons, hrest, hfirst, Array.append_assoc]⟩

theorem kept_applyAll (g : Graph) (cs : List Change) : g.Kept (g.applyAll cs) where
  number _ _ := number?_of_isPrefix (g.prefix_applyAll cs)
  edges := by
    obtain ⟨drawn, hdrawn⟩ := g.exists_edges_applyAll cs
    rw [hdrawn, Array.toList_append]
    exact List.prefix_append _ _

theorem lines_drawn (hg : g.WellFormed) {cs : List Change} {drawn : Array Edge}
    (h : (g.applyAll cs).edges = g.edges ++ drawn) :
    drawn.toList.map (g.applyAll cs).line = cs.filterMap Change.line? := by
  have hlines : (g.applyAll cs).edges.toList.map (g.applyAll cs).line =
      g.lines ++ cs.filterMap Change.line? := lines_applyAll hg cs
  have hold : g.edges.toList.map (g.applyAll cs).line = g.lines := line_of_isPrefix hg (g.prefix_applyAll cs)
  rw [h, Array.toList_append, List.map_append, hold] at hlines
  exact List.append_cancel_left hlines

theorem apply_of_known {c : Change} (h : ∀ id ∈ c.mentioned, id ∈ g.sources) :
    (g.apply c).numbers = g.numbers ∧ (g.apply c).nodes = g.nodes := by
  have hmention {id : NodeId} (hid : id ∈ g.sources) : (g.mention id).2 = g := by
    obtain ⟨k, hk⟩ := Option.isSome_iff_exists.mp ((g.isSome_number? id).mpr hid)
    rw [mention_of_some hk]
  cases c with
  | mention id =>
    rw [apply, hmention (h id List.mem_cons_self)]
    exact ⟨rfl, rfl⟩
  | paint id style =>
    change (g.mention id).2.numbers = _ ∧ (g.mention id).2.nodes = _
    rw [hmention (h id List.mem_cons_self)]
    exact ⟨rfl, rfl⟩
  | attach child parent =>
    cases parent with
    | none => exact ⟨rfl, rfl⟩
    | some p =>
      obtain ⟨hparent, hchild⟩ := List.forall_mem_cons.mp h
      change ((g.mention p.1).2.mention child).2.numbers = _ ∧ ((g.mention p.1).2.mention child).2.nodes = _
      rw [hmention hparent, hmention (List.forall_mem_singleton.mp hchild)]
      exact ⟨rfl, rfl⟩

theorem applyAll_of_known {cs : List Change} (h : ∀ c ∈ cs, ∀ id ∈ c.mentioned, id ∈ g.sources) :
    (g.applyAll cs).numbers = g.numbers ∧ (g.applyAll cs).nodes = g.nodes := by
  induction cs generalizing g with
  | nil => exact ⟨rfl, rfl⟩
  | cons c cs ih =>
    obtain ⟨hc, hcs⟩ := List.forall_mem_cons.mp h
    obtain ⟨hnumbers, hnodes⟩ := apply_of_known hc
    have hsources : (g.apply c).sources = g.sources := congrArg Array.toList hnodes
    obtain ⟨hnumbers', hnodes'⟩ := ih (g := g.apply c) (by rwa [hsources])
    exact ⟨hnumbers'.trans hnumbers, hnodes'.trans hnodes⟩

theorem mem_styles_of_styleOf (h : (g.styleOf id).isSome) :
    (g.mention id).1 ∈ (g.mention id).2.styles.map Prod.fst := by
  rw [← styleOf_mention g id id, styleOf, number?_mention, Option.bind_some] at h
  by_contra hnone
  rw [style?, lookup_eq_none_of_not_mem hnone] at h
  cases h

theorem map_fst_styles_apply {c : Change} (h : ∀ id, (c.style? id).isSome → (g.styleOf id).isSome) :
    (g.apply c).styles.map Prod.fst = g.styles.map Prod.fst := by
  cases c with
  | mention id => exact congrArg (·.map Prod.fst) (g.styles_mention id)
  | paint id style =>
    have hid := mem_styles_of_styleOf (h id (by simp [Change.style?]))
    rw [← g.styles_mention id]
    exact (map_fst_insertEntry _ style _).trans (if_pos hid)
  | attach child parent =>
    cases parent with
    | none => rfl
    | some p => exact congrArg (·.map Prod.fst) ((styles_mention _ child).trans (g.styles_mention p.1))

theorem map_fst_styles_applyAll {cs : List Change}
    (h : ∀ c ∈ cs, ∀ id, (c.style? id).isSome → (g.styleOf id).isSome) :
    (g.applyAll cs).styles.map Prod.fst = g.styles.map Prod.fst := by
  induction cs generalizing g with
  | nil => rfl
  | cons c cs ih =>
    obtain ⟨hc, hcs⟩ := List.forall_mem_cons.mp h
    refine (ih (g := g.apply c) fun c' hc' id hs => ?_).trans (map_fst_styles_apply hc)
    exact (isSome_styleOf_applyAll g [c] id).mpr (Or.inl (hcs c' hc' id hs))

theorem style?_eq_of_styleOf (hnodes : g'.nodes = g.nodes) (h : ∀ id, g'.styleOf id = g.styleOf id) (k : Nat) :
    g'.style? k = g.style? k := by
  have hsource : g'.source? k = g.source? k := by rw [source?, source?, hnodes]
  cases hk : g.source? k with
  | none =>
    have hsize : g.size ≤ k := Array.getElem?_eq_none_iff.mp hk
    have hsize' : g'.size ≤ k := Array.getElem?_eq_none_iff.mp (hsource.trans hk)
    rw [style?_of_le hsize, style?_of_le hsize']
  | some id =>
    have hn := (g.number?_eq_some_iff id k).mpr hk
    have hn' := (g'.number?_eq_some_iff id k).mpr (hsource.trans hk)
    have hlook := h id
    rwa [styleOf, styleOf, hn, hn'] at hlook

theorem line_inj {e e' : Edge} (he : e.tail < g.size ∧ e.head < g.size)
    (h : g.line e = g.line e') : e = e' := by
  have hend {i j : Nat} (hi : i < g.size) (hij : g.source? i = g.source? j) : i = j := by
    rw [source?_eq, source?_eq] at hij
    exact (List.getElem?_inj (g.length_sources ▸ hi) g.nodup_sources).mp hij
  have ht : e.tail = e'.tail := hend he.1 (congrArg Prod.fst h)
  have hh : e.head = e'.head := hend he.2 (congrArg (·.2.1) h)
  have hl : e.label = e'.label := congrArg (·.2.2) h
  calc e = ⟨e.tail, e.head, e.label⟩ := rfl
    _ = ⟨e'.tail, e'.head, e'.label⟩ := by rw [ht, hh, hl]

theorem edges_eq_of_lines {edges edges' : List Edge}
    (he : ∀ e ∈ edges, e.tail < g.size ∧ e.head < g.size)
    (h : edges.map g.line = edges'.map g.line) : edges = edges' := by
  induction edges generalizing edges' with
  | nil => exact (List.map_eq_nil_iff.mp h.symm).symm
  | cons e edges ih =>
    cases edges' with
    | nil => simp at h
    | cons e' edges' =>
      obtain ⟨hfirst, hrest⟩ := List.cons_eq_cons.mp h
      obtain ⟨hjoined, he⟩ := List.forall_mem_cons.mp he
      rw [line_inj hjoined hfirst, ih he hrest]

theorem applyAll_applyAll (hg : g.WellFormed) {cs : List Change} {drawn : Array Edge}
    (h : (g.applyAll cs).edges = g.edges ++ drawn) :
    (g.applyAll cs).applyAll cs = { g.applyAll cs with edges := (g.applyAll cs).edges ++ drawn } := by
  have hg' := wellFormed_applyAll hg cs
  have hknown : ∀ c ∈ cs, ∀ id ∈ c.mentioned, id ∈ (g.applyAll cs).sources :=
    fun c hc id hid => (g.mem_sources_applyAll cs id).mpr (Or.inr ⟨c, hc, hid⟩)
  obtain ⟨hnumbers, hnodes⟩ := applyAll_of_known hknown
  have hstyle (id : NodeId) : ((g.applyAll cs).applyAll cs).styleOf id = (g.applyAll cs).styleOf id := by
    rw [styleOf_applyAll (g.applyAll cs), styleOf_applyAll]
    cases (cs.filterMap (Change.style? id)).getLast? <;> rfl
  have hstyled : ∀ c ∈ cs, ∀ id, (c.style? id).isSome → ((g.applyAll cs).styleOf id).isSome :=
    fun c hc id hs => (g.isSome_styleOf_applyAll cs id).mpr (Or.inr ⟨c, hc, hs⟩)
  have hkeys := map_fst_styles_applyAll hstyled
  have hline : ((g.applyAll cs).applyAll cs).line = (g.applyAll cs).line := by
    funext e
    simp only [line, source?, hnodes]
  obtain ⟨again, hagain⟩ := (g.applyAll cs).exists_edges_applyAll cs
  have hlines := lines_drawn hg' hagain
  rw [hline, ← lines_drawn hg h] at hlines
  have hjoined : ∀ e ∈ again.toList, e.tail < (g.applyAll cs).size ∧ e.head < (g.applyAll cs).size := by
    intro e he
    have := (wellFormed_applyAll hg' cs).joined e (by simp [hagain, Array.mem_toList_iff.mp he])
    simpa only [size, hnodes] using this
  have hedges : again = drawn := Array.toList_inj.mp (edges_eq_of_lines hjoined hlines)
  apply Graph.ext
  case numbers => exact hnumbers
  case nodes => exact hnodes
  case styles => exact eq_of_lookup_eq hkeys (Graph.fits _).distinct (style?_eq_of_styleOf hnodes hstyle)
  case edges => rw [hagain, hedges]

def Draws (g : Graph) (l : Option NodeId × Option NodeId × Option String) (e : Edge) : Prop :=
  l.1.bind g.number? = some e.tail ∧ l.2.1.bind g.number? = some e.head ∧ l.2.2 = e.label

theorem Draws.of_isPrefix {l : Option NodeId × Option NodeId × Option String} {e : Edge}
    (h : g.Draws l e) (hp : g.sources <+: g'.sources) : g'.Draws l e := by
  obtain ⟨tail, head, label⟩ := l
  have hend {node? : Option NodeId} {n : Nat} (hn : node?.bind g.number? = some n) :
      node?.bind g'.number? = some n := by
    obtain ⟨id, rfl, hid⟩ := Option.bind_eq_some_iff.mp hn
    exact number?_of_isPrefix hp hid
  exact ⟨hend h.1, hend h.2.1, h.2.2⟩

theorem draws_apply (g : Graph) (c : Change) :
    ∃ drawn, (g.apply c).edges.toList = g.edges.toList ++ drawn ∧
      List.Forall₂ (g.apply c).Draws c.line?.toList drawn := by
  cases c with
  | mention id => exact ⟨[], by simp [apply], .nil⟩
  | paint id style => exact ⟨[], by simp [apply, paint], .nil⟩
  | attach child parent =>
    cases parent with
    | none => exact ⟨[], by simp [apply, attach], .nil⟩
    | some p =>
      obtain ⟨parent, label⟩ := p
      refine ⟨[⟨(g.mention parent).1, ((g.mention parent).2.mention child).1, label⟩], ?_, ?_⟩
      · simp [apply, attach, link]
      · have hprefix := prefix_apply (g.mention parent).2 (.mention child)
        have htail := number?_of_isPrefix hprefix (number?_mention g parent)
        exact .cons ⟨htail, number?_mention _ child, rfl⟩ .nil

theorem draws_applyAll (g : Graph) (cs : List Change) :
    ∃ drawn, (g.applyAll cs).edges.toList = g.edges.toList ++ drawn ∧
      List.Forall₂ (g.applyAll cs).Draws (cs.filterMap Change.line?) drawn := by
  induction cs generalizing g with
  | nil => exact ⟨[], (List.append_nil _).symm, .nil⟩
  | cons c cs ih =>
    obtain ⟨first, hfirst, hdraws⟩ := g.draws_apply c
    obtain ⟨rest, hrest, hdrawsRest⟩ := ih (g.apply c)
    refine ⟨first ++ rest, ?_, ?_⟩
    · rw [applyAll_cons, hrest, hfirst, List.append_assoc]
    · have hsplit : (c :: cs).filterMap Change.line? = c.line?.toList ++ cs.filterMap Change.line? := by
        cases hc : c.line? <;> simp [hc]
      rw [hsplit]
      refine List.rel_append (hdraws.imp fun l e h => ?_) hdrawsRest
      exact h.of_isPrefix ((g.apply c).prefix_applyAll cs)

theorem foldl_addSource_eq (ids sources : List NodeId) :
    ids.foldl addSource sources = sources ++ (ids.filter (· ∉ sources)).eraseDups := by
  induction ids using List.reverseRecOn with
  | nil => simp
  | append_singleton ids id ih =>
    rw [List.foldl_append, ih, List.filter_append]
    by_cases hid : id ∈ sources
    · simp [addSource, hid]
    · have hone : [id].filter (· ∉ sources) = [id] := by simp [hid]
      rw [hone, eraseDups_concat]
      generalize (ids.filter (· ∉ sources)).eraseDups = fresh
      by_cases hmem : id ∈ fresh <;> simp [addSource, hid, hmem]

theorem style?_paint_of_ne (h : (g.mention id).1 ≠ k) (style : Style) :
    (g.paint id style).style? k = g.style? k := by
  rw [style?_paint, if_neg h.symm]

theorem style?_applyAll {cs : List Change} (hcs : ∀ c ∈ cs, ∀ x, (c.style? x).isSome → x = id)
    (hk : (g.applyAll cs).number? id ≠ some k) : (g.applyAll cs).style? k = g.style? k := by
  induction cs generalizing g with
  | nil => rfl
  | cons c cs ih =>
    obtain ⟨hc, hcs⟩ := List.forall_mem_cons.mp hcs
    rw [applyAll_cons] at hk ⊢
    rw [ih hcs hk]
    cases c with
    | mention id' => exact g.style?_mention id' k
    | paint id' style =>
      obtain rfl : id' = id := hc id' (by simp [Change.style?])
      apply style?_paint_of_ne
      rintro rfl
      refine hk (number?_of_isPrefix (prefix_applyAll _ cs) ?_)
      rw [apply, number?_paint, number?_mention]
    | attach child parent =>
      cases parent with
      | none => rfl
      | some p => exact (style?_mention _ child k).trans (g.style?_mention p.1 k)

end

end SyntaxGraph.Graph

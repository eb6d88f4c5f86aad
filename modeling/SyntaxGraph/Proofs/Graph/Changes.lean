import SyntaxGraph.Proofs.Graph.Vertices

namespace SyntaxGraph

inductive Change where
  | mention (id : NodeId)
  | paint (id : NodeId) (style : Style)
  | attach (child : NodeId) (parent : Option (NodeId × Option String))
  deriving DecidableEq, Repr

namespace Change

def mentioned : Change → List NodeId
  | mention id => [id]
  | paint id _ => [id]
  | attach _ none => []
  | attach child (some (parent, _)) => [parent, child]

def line? : Change → Option (Option NodeId × Option NodeId × Option String)
  | attach child (some (parent, label)) => some (some parent, some child, label)
  | _ => none

def style? (id : NodeId) : Change → Option Style
  | paint id' style => if id' = id then some style else none
  | _ => none

end Change

namespace Graph

def apply (g : Graph) : Change → Graph
  | .mention id => (g.mention id).2
  | .paint id style => g.paint id style
  | .attach child parent => g.attach child parent

def applyAll (g : Graph) (cs : List Change) : Graph :=
  cs.foldl apply g

theorem sources_attach (g : Graph) (child : NodeId) (parent : Option (NodeId × Option String)) :
    (g.attach child parent).sources =
      (Change.attach child parent).mentioned.foldl addSource g.sources := by
  cases parent with
  | none => rfl
  | some p => exact (sources_mention _ _).trans (congrArg (addSource · child) (sources_mention _ _))

theorem sources_apply (g : Graph) (c : Change) :
    (g.apply c).sources = c.mentioned.foldl addSource g.sources := by
  cases c with
  | mention id => exact g.sources_mention id
  | paint id style => exact g.sources_paint id style
  | attach child parent => exact g.sources_attach child parent

theorem styleOf_apply (g : Graph) (c : Change) (id : NodeId) :
    (g.apply c).styleOf id = (c.style? id).or (g.styleOf id) := by
  cases c with
  | mention id' => exact g.styleOf_mention id' id
  | paint id' style =>
    simp only [apply, styleOf_paint, Change.style?]
    split <;> rfl
  | attach child parent =>
    cases parent with
    | none => rfl
    | some p => exact (styleOf_mention _ child id).trans (g.styleOf_mention p.1 id)

theorem prefix_apply (g : Graph) (c : Change) : g.sources <+: (g.apply c).sources := by
  rw [sources_apply]
  exact prefix_foldl_addSource _ _

theorem line_of_isPrefix {g g' : Graph} (hg : g.WellFormed) (h : g.sources <+: g'.sources) :
    g.edges.toList.map (fun e => (g'.source? e.tail, g'.source? e.head, e.label)) = g.lines := by
  apply List.map_congr_left
  intro e he
  have same {k : Nat} (hk : k < g.size) : g'.source? k = g.source? k := by
    have hlt : k < g.sources.length := by rwa [length_sources]
    have hs := (source?_eq g k).trans (List.getElem?_eq_getElem hlt)
    rw [hs, source?_of_isPrefix h hs]
  rw [same (hg.joined e he).1, same (hg.joined e he).2]

theorem lines_mention {g : Graph} (hg : g.WellFormed) (id : NodeId) :
    (g.mention id).2.lines = g.lines := by
  rw [← line_of_isPrefix hg (g.prefix_apply (.mention id)), lines, edges_mention]
  rfl

theorem wellFormed_mention {g : Graph} (hg : g.WellFormed) (id : NodeId) :
    (g.mention id).2.WellFormed := by
  constructor
  intro e he
  have hsize := size_le_of_isPrefix (g.prefix_apply (.mention id))
  have := hg.joined e (by simpa using he)
  exact ⟨Nat.lt_of_lt_of_le this.1 hsize, Nat.lt_of_lt_of_le this.2 hsize⟩

theorem source?_mention (g : Graph) (id : NodeId) :
    (g.mention id).2.source? (g.mention id).1 = some id :=
  source?_number _ _ (number?_mention g id)

theorem source?_link (g : Graph) (parent child : NodeId) :
    let g' := (g.mention parent).2
    (g'.mention child).2.source? (g.mention parent).1 = some parent ∧
      (g'.mention child).2.source? (g'.mention child).1 = some child :=
  ⟨source?_of_isPrefix (prefix_apply _ (.mention child)) (source?_mention g parent),
    source?_mention _ child⟩

theorem lines_apply {g : Graph} (hg : g.WellFormed) (c : Change) :
    (g.apply c).lines = g.lines ++ c.line?.toList := by
  cases c with
  | mention id => exact (lines_mention hg id).trans (List.append_nil _).symm
  | paint id style =>
    rw [← line_of_isPrefix hg (g.prefix_apply (.paint id style))]
    simp [lines, apply, paint, Change.line?]
  | attach child parent =>
    cases parent with
    | none => simp [apply, attach, Change.line?]
    | some p =>
      obtain ⟨parent, label⟩ := p
      obtain ⟨ht, hh⟩ := source?_link g parent child
      have hlines := lines_mention (wellFormed_mention hg parent) child
      rw [lines_mention hg parent] at hlines
      rw [← hlines]
      simp [lines, apply, attach, link, source?, Change.line?] at ht hh ⊢
      exact ⟨ht, hh⟩

theorem wellFormed_apply {g : Graph} (hg : g.WellFormed) (c : Change) : (g.apply c).WellFormed := by
  cases c with
  | mention id => exact wellFormed_mention hg id
  | paint id style => exact ⟨(wellFormed_mention hg id).joined⟩
  | attach child parent =>
    cases parent with
    | none => exact hg
    | some p =>
      obtain ⟨parent, label⟩ := p
      obtain ⟨ht, hh⟩ := source?_link g parent child
      have old := (wellFormed_mention (wellFormed_mention hg parent) child).joined
      constructor
      intro e he
      simp only [apply, attach, link, Array.toList_push, List.mem_append, List.mem_singleton] at he
      rcases he with he | rfl
      · exact old e he
      · exact ⟨lt_of_source? ht, lt_of_source? hh⟩

theorem wellFormed_empty : empty.WellFormed :=
  ⟨by simp [empty]⟩

theorem applyAll_cons (g : Graph) (c : Change) (cs : List Change) :
    g.applyAll (c :: cs) = (g.apply c).applyAll cs :=
  rfl

theorem applyAll_append (g : Graph) (cs ds : List Change) :
    g.applyAll (cs ++ ds) = (g.applyAll cs).applyAll ds :=
  List.foldl_append

theorem wellFormed_applyAll {g : Graph} (hg : g.WellFormed) (cs : List Change) :
    (g.applyAll cs).WellFormed := by
  induction cs generalizing g with
  | nil => exact hg
  | cons c cs ih => exact ih (wellFormed_apply hg c)

theorem sources_applyAll (g : Graph) (cs : List Change) :
    (g.applyAll cs).sources = (cs.flatMap Change.mentioned).foldl addSource g.sources := by
  induction cs generalizing g with
  | nil => rfl
  | cons c cs ih => rw [applyAll_cons, ih, sources_apply, List.flatMap_cons, List.foldl_append]

theorem mem_sources_applyAll (g : Graph) (cs : List Change) (id : NodeId) :
    id ∈ (g.applyAll cs).sources ↔ id ∈ g.sources ∨ ∃ c ∈ cs, id ∈ c.mentioned := by
  rw [sources_applyAll, mem_foldl_addSource, List.mem_flatMap]

theorem lines_applyAll {g : Graph} (hg : g.WellFormed) (cs : List Change) :
    (g.applyAll cs).lines = g.lines ++ cs.filterMap Change.line? := by
  induction cs generalizing g with
  | nil => simp [applyAll]
  | cons c cs ih =>
    rw [applyAll_cons, ih (wellFormed_apply hg c), lines_apply hg, List.append_assoc]
    cases hc : c.line? <;> simp [hc]

theorem styleOf_applyAll (g : Graph) (cs : List Change) (id : NodeId) :
    (g.applyAll cs).styleOf id = (cs.filterMap (Change.style? id)).getLast?.or (g.styleOf id) := by
  induction cs generalizing g with
  | nil => rfl
  | cons c cs ih =>
    rw [applyAll_cons, ih, styleOf_apply]
    cases hc : c.style? id with
    | none => simp [hc]
    | some style =>
      rw [List.filterMap_cons_some hc, List.getLast?_cons]
      cases (cs.filterMap (Change.style? id)).getLast? <;> rfl

theorem styleOf_applyAll_of_forall {g : Graph} {cs : List Change} {id : NodeId} {c : Change} {style : Style}
    (hc : c ∈ cs) (hs : c.style? id = some style)
    (hsame : ∀ c' ∈ cs, ∀ style', c'.style? id = some style' → style' = style) :
    (g.applyAll cs).styleOf id = some style := by
  rw [styleOf_applyAll]
  cases hlast : (cs.filterMap (Change.style? id)).getLast? with
  | none =>
    rw [List.getLast?_eq_none_iff, List.filterMap_eq_nil_iff] at hlast
    rw [hlast c hc] at hs
    cases hs
  | some style' =>
    obtain ⟨c', hc', hs'⟩ := List.mem_filterMap.mp (List.mem_of_getLast? hlast)
    rw [hsame c' hc' style' hs']
    rfl

theorem isSome_styleOf_applyAll (g : Graph) (cs : List Change) (id : NodeId) :
    ((g.applyAll cs).styleOf id).isSome ↔ (g.styleOf id).isSome ∨ ∃ c ∈ cs, (c.style? id).isSome := by
  rw [styleOf_applyAll, Option.isSome_or, Bool.or_eq_true, or_comm, List.getLast?_isSome]
  simp [Option.isSome_iff_ne_none]

end Graph

end SyntaxGraph

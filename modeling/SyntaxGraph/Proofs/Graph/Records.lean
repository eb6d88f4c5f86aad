import SyntaxGraph.Proofs.Graph.Changes
import SyntaxGraph.Proofs.Occurrences

/-!
What can be looked up in a new graph after any sequence of calls: the numbers of the nodes, the nodes of
the numbers, the styles, the edges and their labels.
-/

namespace SyntaxGraph

namespace Change

def label? (parent child : NodeId) : Change → Option String
  | attach child' (some (parent', label)) => if parent' = parent ∧ child' = child then label else none
  | _ => none

def firstMentions (cs : List Change) : List NodeId :=
  (cs.flatMap mentioned).eraseDups

end Change

namespace Graph

/-- A graph that says what the changes have said: numbers go by first mention and stay, and of the styles
of a node and of the labels between two nodes the last counts. -/
structure Records (g : Graph) (cs : List Change) : Prop where
  size : g.size = (Change.firstMentions cs).length
  number : ∀ id k, g.number? id = some k ↔ (Change.firstMentions cs)[k]? = some id
  source : ∀ k, g.source? k = (Change.firstMentions cs)[k]?
  inverse : ∀ id k, g.number? id = some k ↔ g.source? k = some id
  mentioned : ∀ id, (g.number? id).isSome ↔ ∃ c ∈ cs, id ∈ c.mentioned
  given : ∀ id, (g.mention id).2.number? id = some (g.mention id).1
  kept : ∀ ds id k, g.number? id = some k → (g.applyAll ds).number? id = some k
  style : ∀ id k, g.number? id = some k → g.style? k = (cs.filterMap (Change.style? id)).getLast?
  lines : g.lines = cs.filterMap Change.line?
  joined : ∀ e ∈ g.edges.toList, e.tail < g.size ∧ e.head < g.size
  label : ∀ parent child tail head, g.number? parent = some tail → g.number? child = some head →
    g.edgeLabel? tail head = (cs.filterMap (Change.label? parent child)).getLast?
  unused : ∀ k, g.size ≤ k → g.source? k = none ∧ g.style? k = none ∧
    ∀ other, g.edgeLabel? k other = none ∧ g.edgeLabel? other k = none
  unlabelled : ∀ parent child tail head,
    (g.attach child (some (parent, none))).edgeLabel? tail head = g.edgeLabel? tail head
  rootless : ∀ child, g.attach child none = g

theorem foldl_addSource_nil (ids : List NodeId) : ids.foldl addSource [] = ids.eraseDups := by
  induction ids using List.reverseRecOn with
  | nil => rfl
  | append_singleton ids id ih =>
    rw [List.foldl_append, ih, eraseDups_concat]
    rfl

theorem sources_applyAll_empty (cs : List Change) :
    (empty.applyAll cs).sources = Change.firstMentions cs := by
  rw [sources_applyAll]
  exact foldl_addSource_nil _

theorem prefix_applyAll (g : Graph) (cs : List Change) : g.sources <+: (g.applyAll cs).sources := by
  rw [sources_applyAll]
  exact prefix_foldl_addSource _ _

theorem number?_applyAll {g : Graph} {id : NodeId} {k : Nat} (h : g.number? id = some k)
    (cs : List Change) : (g.applyAll cs).number? id = some k := by
  rw [number?_eq_some_iff]
  exact source?_of_isPrefix (g.prefix_applyAll cs) (source?_number g id h)

theorem edgeLabel?_eq (g : Graph) (tail head : Nat) : g.edgeLabel? tail head =
    (g.edges.toList.filterMap fun e => if e.tail = tail ∧ e.head = head then e.label else none).getLast? := by
  rw [List.getLast?_filterMap]
  rfl

theorem edgeLabel?_of_lines {g : Graph} {parent child : NodeId} {tail head : Nat}
    (ht : g.number? parent = some tail) (hh : g.number? child = some head) :
    g.edgeLabel? tail head = (g.lines.filterMap fun l =>
      if l.1 = some parent ∧ l.2.1 = some child then l.2.2 else none).getLast? := by
  have hend {id : NodeId} {n : Nat} (hn : g.number? id = some n) (k : Nat) :
      g.source? k = some id ↔ k = n := by
    rw [← number?_eq_some_iff, hn, Option.some.injEq, eq_comm]
  rw [edgeLabel?_eq, lines, List.filterMap_map]
  congr 2
  funext e
  simp only [Function.comp_apply, hend ht, hend hh]

theorem edgeLabel?_of_unused {g : Graph} (hg : g.WellFormed) {tail head : Nat}
    (h : g.size ≤ tail ∨ g.size ≤ head) : g.edgeLabel? tail head = none := by
  rw [edgeLabel?_eq, List.getLast?_eq_none_iff, List.filterMap_eq_nil_iff]
  intro e he
  have hjoined := hg.joined e he
  rw [if_neg]
  omega

theorem edgeLabel?_attach_none (g : Graph) (parent child : NodeId) (tail head : Nat) :
    (g.attach child (some (parent, none))).edgeLabel? tail head = g.edgeLabel? tail head := by
  simp [edgeLabel?_eq, attach, link]

theorem label?_eq (parent child : NodeId) (c : Change) : c.label? parent child =
    c.line?.bind fun l => if l.1 = some parent ∧ l.2.1 = some child then l.2.2 else none := by
  cases c with
  | mention id => rfl
  | paint id style => rfl
  | attach child' parent' =>
    cases parent' with
    | none => rfl
    | some p => simp [Change.label?, Change.line?]

theorem records_applyAll (cs : List Change) : (empty.applyAll cs).Records cs := by
  have hg := wellFormed_applyAll wellFormed_empty cs
  have hsources := sources_applyAll_empty cs
  have hsource (k : Nat) : (empty.applyAll cs).source? k = (Change.firstMentions cs)[k]? := by
    rw [source?_eq, hsources]
  have hlines : (empty.applyAll cs).lines = cs.filterMap Change.line? :=
    lines_applyAll wellFormed_empty cs
  constructor
  case size => rw [← length_sources, hsources]
  case number =>
    intro id k
    rw [number?_eq_some_iff, hsource]
  case source => exact hsource
  case inverse => exact number?_eq_some_iff _
  case mentioned =>
    intro id
    rw [isSome_number?, mem_sources_applyAll]
    exact or_iff_right List.not_mem_nil
  case given => exact number?_mention _
  case kept => exact fun ds id k h => number?_applyAll h ds
  case style =>
    intro id k h
    have hstyle := styleOf_applyAll empty cs id
    rwa [styleOf_empty, Option.or_none, styleOf, h, Option.bind_some] at hstyle
  case lines => exact hlines
  case joined => exact hg.joined
  case label =>
    intro parent child tail head ht hh
    rw [edgeLabel?_of_lines ht hh, hlines, List.filterMap_filterMap]
    simp only [← label?_eq]
  case unused =>
    intro k h
    refine ⟨?_, style?_of_le h, fun other => ⟨?_, ?_⟩⟩
    · rw [source?_eq, List.getElem?_eq_none]
      rwa [length_sources]
    · exact edgeLabel?_of_unused hg (Or.inl h)
    · exact edgeLabel?_of_unused hg (Or.inr h)
  case unlabelled => exact edgeLabel?_attach_none _
  case rootless => exact fun _ => rfl

end Graph

end SyntaxGraph

import SyntaxGraph.Proofs.Drawing.Numbering
import SyntaxGraph.Proofs.Drawing.Stock
import SyntaxGraph.Proofs.Source.Fitting

namespace SyntaxGraph.Source

abbrev stockView (t : Tree) : View :=
  ⟨t, .standard {} .standard⟩

def Slot.shows : Slot → Bool
  | child | childOrAbsent | optionalChild | children | single | pair => true
  | operator family | singleOperator family => !operatorFamilies.contains family
  | _ => false

section

variable {t : Tree} {n : Node} {kind : Kind} {fields : List (String × FieldValue)} {slots : Slots}
  {slot : Slot} {name : String} {value : FieldValue} {id a b : NodeId}

theorem isDrawn_eq_isDrawable (hn : t.node? id = some n) :
    (stockView t).isDrawn id = n.kind.isDrawable := by
  unfold View.isDrawn
  rw [hn]
  exact Registry.draws_standard {} n.kind

theorem isDrawn_iff_exists :
    (stockView t).isDrawn id = true ↔ ∃ n, t.node? id = some n ∧ n.kind.isDrawable = true := by
  constructor
  · intro hd
    have hlt : id.index < t.nodes.size := View.lt_size_of_isDrawn hd
    have hn : t.node? id = some t.nodes[id.index] := Array.getElem?_eq_getElem hlt
    exact ⟨_, hn, (isDrawn_eq_isDrawable hn).symm.trans hd⟩
  · rintro ⟨n, hn, hd⟩
    rw [isDrawn_eq_isDrawable hn, hd]

theorem isDrawable_of_operator : ∀ family ∈ operatorFamilies, ∀ kind ∈ familyOf family,
    kind.isDrawable = false ∧ Hierarchy.standard.isSubkind kind family = true := by
  decide +kernel

theorem not_isDrawable_parameters :
    Kind.isDrawable "arguments" = false ∧ Kind.isDrawable "arg" = false := by
  decide +kernel

theorem isDrawn_operator {family : Kind} (hf : family ∈ operatorFamilies) (hk : kind ∈ familyOf family)
    (hn : t.node? id = some ⟨kind, []⟩) : (stockView t).isDrawn id = false := by
  rw [isDrawn_eq_isDrawable hn]
  exact (isDrawable_of_operator family hf kind hk).1

theorem Slot.Accepts.hidden (h : slot.Accepts t value) (hs : slot.shows = false)
    (hid : id ∈ value.held) : (stockView t).isDrawn id = false := by
  cases h with
  | primitive v => cases hid
  | text s => cases hid
  | child id => cases hs
  | childOrAbsent id => cases hs
  | absent => cases hs
  | optionalChild id => cases hs
  | children ids => cases hs
  | single id => cases hs
  | pair a b => cases hs
  | @operator family kind leaf hk hn =>
    have hf : family ∈ operatorFamilies := by simpa [Slot.shows] using hs
    obtain rfl := List.mem_singleton.mp hid
    exact isDrawn_operator hf hk hn
  | @singleOperator family kind leaf hk hn =>
    have hf : family ∈ operatorFamilies := by simpa [Slot.shows] using hs
    obtain rfl := List.mem_singleton.mp hid
    exact isDrawn_operator hf hk hn
  | parameters hn =>
    rw [FieldValue.held, List.mem_singleton] at hid
    rw [hid, isDrawn_eq_isDrawable hn]
    exact not_isDrawable_parameters.1
  | parameterNames h =>
    obtain ⟨name, hn⟩ := h id hid
    rw [isDrawn_eq_isDrawable hn]
    exact not_isDrawable_parameters.2

theorem slotsOf_cases (h : slotsOf kind = some slots) :
    (Registry.standard {} .standard).resolve kind = some (.general "#abc7ed") ∨
      kind ∈ ["BinOp", "Call", "Compare"] ∨ ∀ slot ∈ slots, slot.2.shows = false := by
  have hschema : ∀ row ∈ schema,
      (Registry.standard {} .standard).resolve row.1 = some (.general "#abc7ed") ∨
        row.1 ∈ ["BinOp", "Call", "Compare"] ∨ ∀ slot ∈ row.2, slot.2.shows = false := by
    decide +kernel
  rcases mem_schema_of_slotsOf h with hrow | ⟨rfl, _⟩
  · exact hschema _ hrow
  · exact Or.inr (Or.inr fun _ hs => nomatch hs)

theorem undrawn_cases (hf : Fits t n) (hd : n.kind.isDrawable = false) :
    n.kind ∈ ["Unsupported", "arguments", "arg"] ∨
      n.fields = [] ∧ ∃ family ∈ operatorFamilies, Hierarchy.standard.isSubkind n.kind family = true := by
  have hschema : ∀ row ∈ schema,
      Kind.isDrawable row.1 = true ∨ row.1 ∈ ["Unsupported", "arguments", "arg"] := by
    decide +kernel
  obtain ⟨slots, hs, hfills⟩ := hf
  rcases mem_schema_of_slotsOf hs with hrow | ⟨rfl, family, hfamily, hkind⟩
  · rcases hschema _ hrow with hdrawable | hkind
    · rw [hd] at hdrawable
      cases hdrawable
    · exact Or.inl hkind
  · exact Or.inr ⟨hfills.of_nil, family, hfamily, (isDrawable_of_operator family hfamily n.kind hkind).2⟩

theorem exists_shows (hf : Fits t n) (hs : slotsOf n.kind = some slots) (hid : id ∈ n.held)
    (hd : (stockView t).isDrawn id = true) : ∃ slot ∈ slots, slot.2.shows = true := by
  obtain ⟨slots', hs', hfills⟩ := hf
  obtain rfl : slots' = slots := Option.some.inj (hs'.symm.trans hs)
  obtain ⟨⟨name, value⟩, hfield, hid⟩ := List.mem_flatMap.mp hid
  obtain ⟨slot, hslot, haccepts⟩ := hfills.exists_slot hfield
  refine ⟨(name, slot), hslot, ?_⟩
  cases hshows : slot.shows with
  | true => rfl
  | false =>
    rw [haccepts.hidden hshows hid] at hd
    cases hd

theorem Slot.Accepts.of_operator {family : Kind} (h : (Slot.operator family).Accepts t value)
    (hf : family ∈ operatorFamilies) :
    ∃ leaf, value = .node leaf ∧ (stockView t).isDrawn leaf = false := by
  cases h with
  | @operator _ kind leaf hk hn => exact ⟨leaf, rfl, isDrawn_operator hf hk hn⟩

theorem Slot.Accepts.of_singleOperator {family : Kind} (h : (Slot.singleOperator family).Accepts t value)
    (hf : family ∈ operatorFamilies) :
    ∃ leaf, value = .list [leaf] ∧ (stockView t).isDrawn leaf = false := by
  cases h with
  | @singleOperator _ kind leaf hk hn => exact ⟨leaf, rfl, isDrawn_operator hf hk hn⟩

theorem resolve_own :
    (Registry.standard {} .standard).resolve "BinOp" =
        some (.binary ({} : Settings).binarySymbols "#abedd3") ∧
      (Registry.standard {} .standard).resolve "Call" = some (.call "yellow") ∧
      (Registry.standard {} .standard).resolve "Compare" =
        some (.comparison ({} : Settings).comparisonSymbols "#eddeab") := by
  decide +kernel

theorem ne_of_undrawn {leaf : NodeId} (hd : (stockView t).isDrawn id = true)
    (hleaf : (stockView t).isDrawn leaf = false) : id ≠ leaf := by
  rintro rfl
  rw [hleaf] at hd
  cases hd

theorem references_binary {symbols : Symbols} {color : String} (hf : Fits t ⟨"BinOp", fields⟩)
    (hid : id ∈ Node.held ⟨"BinOp", fields⟩) (hd : (stockView t).isDrawn id = true) :
    id ∈ ((Strategy.binary symbols color).references t ⟨"BinOp", fields⟩).map Prod.fst := by
  -- The fields are known from the schema; the strategy passes over the operator only.
  obtain ⟨_, _, _, hfields, hleft, hop, hright⟩ := hf.three rfl (by decide)
  obtain ⟨left, rfl⟩ := hleft.of_child
  obtain ⟨leaf, rfl, hleaf⟩ := hop.of_operator (by decide)
  obtain ⟨right, rfl⟩ := hright.of_child
  cases hfields
  simpa [Strategy.references, Strategy.childReference, Node.child, Node.field, Node.held,
    FieldValue.held, List.lookup_cons, ne_of_undrawn hd hleaf] using hid

theorem references_call {color : String} (hf : Fits t ⟨"Call", fields⟩)
    (hid : id ∈ Node.held ⟨"Call", fields⟩) :
    id ∈ ((Strategy.call color).references t ⟨"Call", fields⟩).map Prod.fst := by
  obtain ⟨_, _, hfields, hfunc, hargs⟩ := hf.two rfl (by decide)
  obtain ⟨func, rfl⟩ := hfunc.of_child
  obtain ⟨args, rfl⟩ := hargs.of_children
  cases hfields
  have hplaces := List.zipIdx_map_fst 0 args
  simpa [Strategy.references, Strategy.childReference, Node.child, Node.children, Node.field,
    Node.held, FieldValue.held, List.lookup_cons, Function.comp_def, hplaces] using hid

theorem references_comparison {symbols : Symbols} {color : String} (hf : Fits t ⟨"Compare", fields⟩)
    (hid : id ∈ Node.held ⟨"Compare", fields⟩) (hd : (stockView t).isDrawn id = true) :
    id ∈ ((Strategy.comparison symbols color).references t ⟨"Compare", fields⟩).map Prod.fst := by
  obtain ⟨_, _, _, hfields, hleft, hop, hright⟩ := hf.three rfl (by decide)
  obtain ⟨left, rfl⟩ := hleft.of_child
  obtain ⟨leaf, rfl, hleaf⟩ := hop.of_singleOperator (by decide)
  obtain ⟨right, rfl⟩ := hright.of_single
  cases hfields
  simpa [Strategy.references, Strategy.childReference, Node.child, Node.children, Node.field,
    Node.held, FieldValue.held, List.lookup_cons, ne_of_undrawn hd hleaf] using hid

theorem exists_strategy_of_own (hf : Fits t n) (hk : n.kind ∈ ["BinOp", "Call", "Compare"])
    (hid : id ∈ n.held) (hd : (stockView t).isDrawn id = true) :
    ∃ s, (Registry.standard {} .standard).resolve n.kind = some s ∧
      id ∈ (s.references t n).map Prod.fst := by
  obtain ⟨hbinary, hcall, hcomparison⟩ := resolve_own
  obtain ⟨kind, fields⟩ := n
  simp only [List.mem_cons, List.not_mem_nil, or_false] at hk
  rcases hk with rfl | rfl | rfl
  · exact ⟨_, hbinary, references_binary hf hid hd⟩
  · exact ⟨_, hcall, references_call hf hid⟩
  · exact ⟨_, hcomparison, references_comparison hf hid hd⟩

theorem exists_strategy (hf : Fits t n) (hid : id ∈ n.held) (hd : (stockView t).isDrawn id = true) :
    ∃ s, (Registry.standard {} .standard).resolve n.kind = some s ∧
      id ∈ (s.references t n).map Prod.fst := by
  obtain ⟨slots, hs, hfills⟩ := hf
  rcases slotsOf_cases hs with hgeneral | hown | hnone
  · refine ⟨_, hgeneral, ?_⟩
    rw [Strategy.references, List.map_flatMap]
    simpa only [Node.held, Strategy.map_fst_fieldReferences] using hid
  · exact exists_strategy_of_own ⟨slots, hs, hfills⟩ hown hid hd
  · obtain ⟨slot, hslot, hshows⟩ := exists_shows ⟨slots, hs, hfills⟩ hs hid hd
    rw [hnone slot hslot] at hshows
    cases hshows

end

section

variable {t : Tree} {n : Node} {id a b root : NodeId}

theorem Fitting.follows (ht : Fitting t) (h : t.Holds a b) (hd : (stockView t).isDrawn b = true) :
    (stockView t).Follows a b := by
  obtain ⟨n, hn, hb⟩ := h
  obtain ⟨s, hs, hmem⟩ := exists_strategy (ht a n hn) hb hd
  obtain ⟨r, hr, rfl⟩ := List.mem_map.mp hmem
  have hdrawing : (stockView t).drawing? a = some (n, s) :=
    View.drawing?_eq_some_iff.mpr ⟨hn, hs⟩
  unfold View.Follows View.followed
  rw [hdrawing]
  exact List.mem_map.mpr ⟨r, List.mem_filter.mpr ⟨hr, hd⟩, rfl⟩

theorem Fitting.undrawn_below (ht : Fitting t) (ha : (stockView t).isDrawn a = false)
    (h : t.Reaches a b) : (stockView t).isDrawn b = false := by
  induction h with
  | refl => exact ha
  | @tail b c _ hbc ih =>
    rw [← Bool.not_eq_true] at ih ⊢
    exact fun hd => ih (ht.follows hbc hd).isDrawn_left

theorem exists_holder (hs : t.Sound) (hid : id.index + 1 < t.size) :
    ∃ a, t.Holds a id ∧ id.index < a.index ∧ a.index < t.size := by
  have hcount : (t.nodes.toList.flatMap Node.held).count id = 1 := hs.heldOnce id.index hid
  have hmem : id ∈ t.nodes.toList.flatMap Node.held := by
    rw [← List.count_pos_iff]
    omega
  obtain ⟨n, hn, hheld⟩ := List.mem_flatMap.mp hmem
  obtain ⟨i, hi, rfl⟩ := List.mem_iff_getElem.mp hn
  have hi : i < t.nodes.size := hi
  have hlt : id.index < i := hs.heldBefore i hi id (by simpa using hheld)
  exact ⟨⟨i⟩, ⟨_, Array.getElem?_eq_getElem hi, by simpa using hheld⟩, hlt, hi⟩

theorem Fitting.reached (ht : Fitting t) (hs : t.Sound) (hroot : t.root = some root)
    (hd : (stockView t).isDrawn id = true) :
    Relation.ReflTransGen (stockView t).Follows root id := by
  obtain ⟨hpos, hlast⟩ := hs.rooted
  -- From the last node down: every other node is held by a later one, which is reached already.
  induction hk : t.size - id.index using Nat.strong_induction_on generalizing id with
  | _ k ih =>
    have hlt : id.index < t.size := View.lt_size_of_isDrawn hd
    rcases Nat.lt_or_ge (id.index + 1) t.size with hbelow | htop
    · obtain ⟨a, hheld, hlt', ha⟩ := exists_holder hs hbelow
      have hfollows := ht.follows hheld hd
      exact (ih (t.size - a.index) (by omega) hfollows.isDrawn_left rfl).tail hfollows
    · have hindex : id.index = t.size - 1 := by omega
      have hid : id = ⟨t.size - 1⟩ := congrArg NodeId.mk hindex
      obtain rfl : root = id := Option.some.inj (hroot.symm.trans (hlast.trans (congrArg some hid.symm)))
      exact .refl

theorem Fitting.isSome_number? (ht : Fitting t) (hs : t.Sound) (hroot : t.root = some root) {g : Graph}
    (hdraw : (stockView t).draw root .empty = (.ok (), g)) (id : NodeId) :
    (g.number? id).isSome ↔ (stockView t).isDrawn id = true := by
  obtain ⟨visited, hv⟩ := View.visited_of_draw hdraw
  rw [hv.isSome_number?]
  constructor
  · rintro ⟨hd, hreach⟩
    exact (View.isDrawn_of_reflTransGen hreach).mp hd
  · intro hd
    have hreach := ht.reached hs hroot hd
    exact ⟨(View.isDrawn_of_reflTransGen hreach).mpr hd, hreach⟩

theorem map_isDrawn (t : Tree) : ((List.range t.size).map NodeId.mk).map (stockView t).isDrawn =
    t.nodes.toList.map fun n => n.kind.isDrawable := by
  apply List.ext_getElem
  · simp [Tree.size]
  · intro i hi _
    have hlt : i < t.nodes.size := by simpa [Tree.size] using hi
    have hn : t.node? ⟨i⟩ = some t.nodes[i] := Array.getElem?_eq_getElem hlt
    simpa using isDrawn_eq_isDrawable hn

theorem size_eq_countP {g : Graph}
    (h : ∀ id, (g.number? id).isSome ↔ (stockView t).isDrawn id = true) :
    g.size = t.nodes.toList.countP fun n => n.kind.isDrawable := by
  have hids : ((List.range t.size).map NodeId.mk).Nodup := by
    apply List.Nodup.map _ List.nodup_range
    intro i j hij
    exact congrArg NodeId.index hij
  have hperm : g.sources.Perm (((List.range t.size).map NodeId.mk).filter (stockView t).isDrawn) := by
    apply (List.perm_ext_iff_of_nodup g.nodup_sources (hids.filter _)).mpr
    intro id
    rw [← g.isSome_number?, h id, List.mem_filter, iff_and_self]
    intro hd
    exact List.mem_map.mpr ⟨id.index, List.mem_range.mpr (View.lt_size_of_isDrawn hd), rfl⟩
  rw [← g.length_sources, hperm.length_eq, ← List.countP_eq_length_filter]
  have hcount := congrArg (List.countP id) (map_isDrawn t)
  simpa only [List.countP_map, Function.comp_def, id] using hcount

end

end SyntaxGraph.Source

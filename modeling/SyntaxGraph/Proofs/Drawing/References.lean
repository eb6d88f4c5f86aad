import SyntaxGraph.Drawing.Strategy
import SyntaxGraph.Proofs.Tree.Held

namespace SyntaxGraph

abbrev Reference := NodeId × Option String

def Mark.reference? : Mark → Option Reference
  | link child label => some (child, label)
  | _ => none

def Mark.target? : Mark → Option NodeId
  | paint _ => none
  | examine id => some id
  | link child _ => some child

namespace Strategy

def fieldReferences (field : String) : FieldValue → List Reference
  | .scalar _ => []
  | .node child => [(child, some field)]
  | .list children => children.zipIdx.map fun (child, i) => (child, some (field ++ " " ++ ordinal i))

def childReference (n : Node) (field : String) (label : Option String) : List Reference :=
  (n.child field).toList.map (·, label)

def references (t : Tree) (n : Node) : Strategy → List Reference
  | general _ => n.fields.flatMap fun (field, value) => fieldReferences field value
  | binary _ _ => childReference n "left" (some "left") ++ childReference n "right" (some "right")
  | call _ =>
    childReference n "func" (some "$func")
      ++ (n.children "args").zipIdx.map fun (arg, i) => (arg, some (ordinal i))
  | name _ => []
  | constant _ => []
  | comparison symbols _ =>
    childReference n "left" none
      ++ ((n.children "ops").zip (n.children "comparators")).map fun (op, right) =>
        (right, some (symbol symbols "cmp" (kindOf t op)))

theorem filterMap_linkChild (n : Node) (field : String) (label : Option String) :
    (linkChild n field label).filterMap Mark.reference? = childReference n field label := by
  unfold linkChild childReference
  cases n.child field <;> rfl

theorem filterMap_linkField (field : String) (value : FieldValue) :
    (linkField field value).filterMap Mark.reference? = fieldReferences field value := by
  cases value with
  | scalar v => rfl
  | node child => rfl
  | list children =>
    simp only [linkField, fieldReferences, List.filterMap_map]
    exact congrFun List.filterMap_eq_map _

theorem plan_references (t : Tree) (n : Node) (s : Strategy) :
    (s.plan t n).filterMap Mark.reference? = s.references t n := by
  cases s with
  | general color =>
    simp only [plan, generalPlan, references, List.filterMap_append, List.filterMap_flatMap,
      filterMap_linkField]
    simp [Mark.reference?, List.filterMap_cons]
  | binary symbols color =>
    simp only [plan, binaryPlan, references, List.filterMap_append, filterMap_linkChild]
    cases n.child "op" <;> simp [Mark.reference?, List.filterMap_cons]
  | call color =>
    simp only [plan, callPlan, references, List.filterMap_append, filterMap_linkChild,
      List.filterMap_map]
    simp [Mark.reference?, List.filterMap_cons, Function.comp_def]
  | name color => rfl
  | constant color => rfl
  | comparison symbols color =>
    simp only [plan, comparisonPlan, references, List.filterMap_append, filterMap_linkChild,
      List.filterMap_flatMap]
    simp [Mark.reference?, List.filterMap_cons, List.map_eq_flatMap]

def style (t : Tree) (n : Node) : Strategy → Style
  | general color => ⟨some color, some (generalLabel n)⟩
  | binary symbols color =>
    ⟨some color, some <| match n.child "op" with
      | some op => symbol symbols "binop" (kindOf t op)
      | none => "binop: ?"⟩
  | call color =>
    ⟨some color, some ("$func (" ++ ",".intercalate
      ((List.range (n.children "args").length).map ordinal) ++ ")")⟩
  | name color => ⟨some color, (n.scalar "id").map Scalar.text⟩
  | constant color => ⟨some color, (n.scalar "value").map Scalar.text⟩
  | comparison _ color => ⟨some color, some "compare"⟩

theorem paint_mem_plan (t : Tree) (n : Node) (s : Strategy) :
    .paint (s.style t n) ∈ s.plan t n := by
  cases s with
  | general color => simp [plan, style, generalPlan]
  | binary symbols color =>
    simp only [plan, style, binaryPlan]
    cases n.child "op" <;> simp
  | call color => simp [plan, style, callPlan]
  | name color => simp [plan, style, leafPlan]
  | constant color => simp [plan, style, leafPlan]
  | comparison symbols color => simp [plan, style, comparisonPlan]

theorem mem_linkChild {n : Node} {field : String} {label : Option String} {m : Mark}
    (h : m ∈ linkChild n field label) : ∃ child, n.child field = some child ∧ m = .link child label := by
  simpa [linkChild, eq_comm] using h

theorem eq_style_of_paint_mem {t : Tree} {n : Node} {s : Strategy} {style : Style}
    (h : .paint style ∈ s.plan t n) : style = s.style t n := by
  have notLink {field : String} {label : Option String} (hm : .paint style ∈ linkChild n field label) :
      False := by
    obtain ⟨_, _, he⟩ := mem_linkChild hm
    cases he
  cases s with
  | general color =>
    simp only [plan, generalPlan, List.mem_append, List.mem_flatMap, List.mem_singleton] at h
    rcases h with ⟨⟨field, value⟩, _, hm⟩ | he
    · cases value <;> simp [linkField] at hm
    · exact Mark.paint.inj he
  | binary symbols color =>
    simp only [plan, binaryPlan, List.mem_append, List.mem_map, List.mem_singleton] at h
    rcases h with ((⟨_, _, he⟩ | he) | hm) | hm
    · cases he
    · exact Mark.paint.inj he
    · exact (notLink hm).elim
    · exact (notLink hm).elim
  | call color =>
    simp only [plan, callPlan, List.mem_append, List.mem_map, List.mem_singleton] at h
    rcases h with (hm | ⟨_, _, he⟩) | he
    · exact (notLink hm).elim
    · cases he
    · exact Mark.paint.inj he
  | name color => exact Mark.paint.inj (List.mem_singleton.mp h)
  | constant color => exact Mark.paint.inj (List.mem_singleton.mp h)
  | comparison symbols color =>
    simp only [plan, comparisonPlan, List.mem_append, List.mem_flatMap, List.mem_singleton] at h
    rcases h with (he | hm) | ⟨_, _, hm⟩
    · exact Mark.paint.inj he
    · exact (notLink hm).elim
    · simp at hm

theorem target_held {t : Tree} {n : Node} {s : Strategy} {m : Mark} (h : m ∈ s.plan t n)
    {id : NodeId} (ht : m.target? = some id) : id ∈ n.held := by
  have ofChild {field : String} {label : Option String} (hm : m ∈ linkChild n field label) :
      id ∈ n.held := by
    obtain ⟨child, hc, rfl⟩ := mem_linkChild hm
    cases ht
    exact Node.child_held hc
  cases s with
  | general color =>
    simp only [plan, generalPlan, List.mem_append, List.mem_flatMap, List.mem_singleton] at h
    rcases h with ⟨⟨field, value⟩, hf, hm⟩ | rfl
    · apply List.mem_flatMap.mpr ⟨_, hf, ?_⟩
      cases value with
      | scalar v => cases hm
      | node child =>
        rcases List.mem_singleton.mp hm with rfl
        cases ht
        exact List.mem_singleton_self id
      | list children =>
        obtain ⟨⟨child, i⟩, hc, rfl⟩ := List.mem_map.mp hm
        cases ht
        exact List.fst_mem_of_mem_zipIdx hc
    · cases ht
  | binary symbols color =>
    simp only [plan, binaryPlan, List.mem_append, List.mem_map, Option.mem_toList,
      List.mem_singleton] at h
    rcases h with ((⟨op, hop, rfl⟩ | rfl) | hm) | hm
    · cases ht
      exact Node.child_held hop
    · cases ht
    · exact ofChild hm
    · exact ofChild hm
  | call color =>
    simp only [plan, callPlan, List.mem_append, List.mem_map, List.mem_singleton] at h
    rcases h with (hm | ⟨⟨arg, i⟩, ha, rfl⟩) | rfl
    · exact ofChild hm
    · cases ht
      exact Node.children_held (List.fst_mem_of_mem_zipIdx ha)
    · cases ht
  | name color => simp_all [plan, leafPlan, Mark.target?]
  | constant color => simp_all [plan, leafPlan, Mark.target?]
  | comparison symbols color =>
    simp only [plan, comparisonPlan, List.mem_append, List.mem_flatMap, List.mem_singleton] at h
    rcases h with (rfl | hm) | ⟨⟨op, right⟩, hz, hm⟩
    · cases ht
    · exact ofChild hm
    · obtain ⟨hop, hright⟩ := List.of_mem_zip hz
      simp only [List.mem_cons, List.not_mem_nil, or_false] at hm
      rcases hm with rfl | rfl
      · cases ht
        exact Node.children_held hop
      · cases ht
        exact Node.children_held hright

theorem references_held {t : Tree} {n : Node} {s : Strategy} {r : Reference}
    (h : r ∈ s.references t n) : r.1 ∈ n.held := by
  rw [← plan_references] at h
  obtain ⟨m, hm, hr⟩ := List.mem_filterMap.mp h
  cases m with
  | link child label =>
    cases hr
    exact target_held hm rfl
  | paint style => cases hr
  | examine child => cases hr

/-- The strategy leads from the node to the child under the label. Elements of lists are counted from 0, all
of them. -/
inductive Refers (t : Tree) (n : Node) : Strategy → NodeId → Option String → Prop
  | field {color name : String} {child : NodeId} (h : (name, .node child) ∈ n.fields) :
    Refers t n (general color) child (some name)
  | item {color name : String} {children : List NodeId} {i : Nat} {child : NodeId}
    (h : (name, .list children) ∈ n.fields) (hi : children[i]? = some child) :
    Refers t n (general color) child (some (name ++ " #" ++ toString i))
  | left {symbols : Symbols} {color : String} {child : NodeId} (h : n.child "left" = some child) :
    Refers t n (binary symbols color) child (some "left")
  | right {symbols : Symbols} {color : String} {child : NodeId} (h : n.child "right" = some child) :
    Refers t n (binary symbols color) child (some "right")
  | func {color : String} {child : NodeId} (h : n.child "func" = some child) :
    Refers t n (call color) child (some "$func")
  | argument {color : String} {i : Nat} {child : NodeId} (hi : (n.children "args")[i]? = some child) :
    Refers t n (call color) child (some ("#" ++ toString i))
  | first {symbols : Symbols} {color : String} {child : NodeId} (h : n.child "left" = some child) :
    Refers t n (comparison symbols color) child none
  | compared {symbols : Symbols} {color : String} {i : Nat} {op child : NodeId}
    (hop : (n.children "ops")[i]? = some op) (hi : (n.children "comparators")[i]? = some child) :
    Refers t n (comparison symbols color) child (some (symbol symbols "cmp" (kindOf t op)))

section

variable {t : Tree} {n : Node} {s : Strategy} {child : NodeId} {label : Option String}

theorem mem_childReference {field : String} {given : Option String} :
    (child, label) ∈ childReference n field given ↔ n.child field = some child ∧ label = given := by
  unfold childReference
  cases n.child field <;> simp [eq_comm]

theorem mem_fieldReferences {field : String} {value : FieldValue} :
    (child, label) ∈ fieldReferences field value ↔ value = .node child ∧ label = some field ∨
      ∃ (children : List NodeId) (i : Nat), value = .list children ∧ children[i]? = some child ∧
        label = some (field ++ " #" ++ toString i) := by
  cases value with
  | scalar v => simp [fieldReferences]
  | node c => simp [fieldReferences, eq_comm]
  | list children =>
    have hlabel (i : Nat) : field ++ " " ++ ordinal i = field ++ " #" ++ toString i := by
      have hspace : field ++ " " ++ "#" = field ++ " #" := String.append_assoc
      rw [ordinal, ← String.append_assoc, hspace]
    simp [fieldReferences, hlabel, List.mem_zipIdx_iff_getElem?, eq_comm]

theorem mem_references_iff : (child, label) ∈ s.references t n ↔ s.Refers t n child label := by
  cases s with
  | general color =>
    simp only [references, List.mem_flatMap, mem_fieldReferences]
    constructor
    · rintro ⟨⟨name, value⟩, hmem, ⟨rfl, rfl⟩ | ⟨children, i, rfl, hi, rfl⟩⟩
      · exact .field hmem
      · exact .item hmem hi
    · intro h
      cases h with
      | field h => exact ⟨_, h, Or.inl ⟨rfl, rfl⟩⟩
      | item h hi => exact ⟨_, h, Or.inr ⟨_, _, rfl, hi, rfl⟩⟩
  | binary symbols color =>
    simp only [references, List.mem_append, mem_childReference]
    constructor
    · rintro (⟨h, rfl⟩ | ⟨h, rfl⟩)
      · exact .left h
      · exact .right h
    · intro h
      cases h with
      | left h => exact Or.inl ⟨h, rfl⟩
      | right h => exact Or.inr ⟨h, rfl⟩
  | call color =>
    simp only [references, List.mem_append, mem_childReference, List.mem_map]
    constructor
    · rintro (⟨h, rfl⟩ | ⟨⟨arg, i⟩, hi, he⟩)
      · exact .func h
      · cases he
        exact .argument (List.mem_zipIdx_iff_getElem?.mp hi)
    · intro h
      cases h with
      | func h => exact Or.inl ⟨h, rfl⟩
      | argument hi => exact Or.inr ⟨(_, _), List.mem_zipIdx_iff_getElem?.mpr hi, rfl⟩
  | name color => exact iff_of_false List.not_mem_nil nofun
  | constant color => exact iff_of_false List.not_mem_nil nofun
  | comparison symbols color =>
    simp only [references, List.mem_append, mem_childReference, List.mem_map]
    constructor
    · rintro (⟨h, rfl⟩ | ⟨⟨op, right⟩, hz, he⟩)
      · exact .first h
      · cases he
        obtain ⟨i, hi⟩ := List.mem_iff_getElem?.mp hz
        obtain ⟨hop, hright⟩ := List.getElem?_zip_eq_some.mp hi
        exact .compared hop hright
    · intro h
      cases h with
      | first h => exact Or.inl ⟨h, rfl⟩
      | @compared _ _ i op _ hop hi =>
        have hz : ((n.children "ops").zip (n.children "comparators"))[i]? = some (op, child) :=
          List.getElem?_zip_eq_some.mpr ⟨hop, hi⟩
        exact Or.inr ⟨(op, child), List.mem_of_getElem? hz, rfl⟩

end

end Strategy

end SyntaxGraph

import SyntaxGraph.Kind.Standard
import SyntaxGraph.Proofs.Tree.Held

namespace SyntaxGraph

namespace Source

/-- What a field holds. An operator is a leaf whose kind is of a given family. -/
inductive Slot where
  | primitive
  | text
  | child
  | childOrAbsent
  | optionalChild
  | children
  | single
  | pair
  | operator (family : Kind)
  | singleOperator (family : Kind)
  | parameters
  | parameterNames
  deriving DecidableEq, Repr

def familyOf (family : Kind) : List Kind :=
  (Hierarchy.standardFamilies.lookup family).getD []

namespace Slot

inductive Accepts (t : Tree) : Slot → FieldValue → Prop
  | primitive (v : Scalar) : Accepts t primitive (.scalar v)
  | text (s : String) : Accepts t text (.scalar (.str s))
  | child (id : NodeId) : Accepts t child (.node id)
  | childOrAbsent (id : NodeId) : Accepts t childOrAbsent (.node id)
  | absent : Accepts t childOrAbsent (.scalar .absent)
  | optionalChild (id : NodeId) : Accepts t optionalChild (.node id)
  | children (ids : List NodeId) : Accepts t children (.list ids)
  | single (id : NodeId) : Accepts t single (.list [id])
  | pair (a b : NodeId) : Accepts t pair (.list [a, b])
  | operator {family kind id} (hk : kind ∈ familyOf family) (hn : t.node? id = some ⟨kind, []⟩) :
    Accepts t (operator family) (.node id)
  | singleOperator {family kind id} (hk : kind ∈ familyOf family)
    (hn : t.node? id = some ⟨kind, []⟩) : Accepts t (singleOperator family) (.list [id])
  | parameters {args id} (hn : t.node? id = some ⟨"arguments", [("args", .list args)]⟩) :
    Accepts t parameters (.node id)
  | parameterNames {ids : List NodeId}
    (h : ∀ id ∈ ids, ∃ name, t.node? id = some ⟨"arg", [("arg", .scalar (.str name))]⟩) :
    Accepts t parameterNames (.list ids)

theorem Accepts.mono {t t' : Tree} (ht : t.Within t') {slot : Slot} {value : FieldValue}
    (h : slot.Accepts t value) : slot.Accepts t' value := by
  cases h with
  | primitive v => exact .primitive v
  | text s => exact .text s
  | child id => exact .child id
  | childOrAbsent id => exact .childOrAbsent id
  | absent => exact .absent
  | optionalChild id => exact .optionalChild id
  | children ids => exact .children ids
  | single id => exact .single id
  | pair a b => exact .pair a b
  | operator hk hn => exact .operator hk (ht _ _ hn)
  | singleOperator hk hn => exact .singleOperator hk (ht _ _ hn)
  | parameters hn => exact .parameters (ht _ _ hn)
  | parameterNames h =>
    refine .parameterNames fun id hid => ?_
    obtain ⟨name, hn⟩ := h id hid
    exact ⟨name, ht _ _ hn⟩

end Slot

abbrev Slots := List (String × Slot)

/-- The fields are those of the slots, in order; only an optional one may be missing. -/
inductive Fills (t : Tree) : List (String × FieldValue) → Slots → Prop
  | nil : Fills t [] []
  | cons {name value slot fields slots} (h : Slot.Accepts t slot value) (hr : Fills t fields slots) :
    Fills t ((name, value) :: fields) ((name, slot) :: slots)
  | skip {name fields slots} (hr : Fills t fields slots) :
    Fills t fields ((name, .optionalChild) :: slots)

def schema : List (Kind × Slots) := [
  ("Module", [("body", .children)]),
  ("FunctionDef", [("name", .text), ("args", .parameters), ("body", .children)]),
  ("AsyncFunctionDef", [("name", .text), ("args", .parameters), ("body", .children)]),
  ("ClassDef", [("name", .text), ("body", .children)]),
  ("ModuleDef", [("name", .text), ("body", .children)]),
  ("Import", [("name", .text)]),
  ("Assign", [("targets", .single), ("value", .child)]),
  ("AnnAssign", [("target", .child)]),
  ("AugAssign", [("target", .child), ("op", .operator "operator"), ("value", .child)]),
  ("Expr", [("value", .child)]),
  ("If", [("test", .child), ("body", .children), ("orelse", .children)]),
  ("While", [("test", .child), ("body", .children)]),
  ("For", [("target", .child), ("iter", .child), ("body", .children)]),
  ("Loop", [("body", .children)]),
  ("Return", [("value", .childOrAbsent)]),
  ("Break", []),
  ("Continue", []),
  ("Name", [("id", .text)]),
  ("Constant", [("value", .primitive)]),
  ("BinOp", [("left", .child), ("op", .operator "operator"), ("right", .child)]),
  ("BoolOp", [("op", .operator "boolop"), ("values", .pair)]),
  ("Compare", [("left", .child), ("ops", .singleOperator "cmpop"), ("comparators", .single)]),
  ("UnaryOp", [("op", .operator "unaryop"), ("operand", .child)]),
  ("Call", [("func", .child), ("args", .children)]),
  ("Attribute", [("value", .child), ("attr", .text)]),
  ("Subscript", [("value", .child), ("slice", .child)]),
  ("Tuple", [("elts", .children)]),
  ("List", [("elts", .children)]),
  ("Block", [("body", .children)]),
  ("Lambda", [("args", .parameters), ("body", .child)]),
  ("Slice", [("lower", .optionalChild), ("upper", .optionalChild)]),
  ("Await", [("value", .child)]),
  ("Macro", [("name", .text)]),
  ("arguments", [("args", .parameterNames)]),
  ("arg", [("arg", .text)]),
  ("Unsupported", [("syntax", .text)])]

def operatorFamilies : List Kind := ["operator", "boolop", "cmpop", "unaryop"]

def isOperator (kind : Kind) : Bool :=
  operatorFamilies.any fun family => (familyOf family).contains kind

def slotsOf (kind : Kind) : Option Slots :=
  if isOperator kind then some [] else schema.lookup kind

def Fits (t : Tree) (n : Node) : Prop :=
  ∃ slots, slotsOf n.kind = some slots ∧ Fills t n.fields slots

section

variable {t t' : Tree} {n : Node} {kind : Kind} {fields : List (String × FieldValue)} {slots : Slots}
  {slot : Slot} {name : String} {value : FieldValue}

theorem Fills.mono (ht : t.Within t') (h : Fills t fields slots) : Fills t' fields slots := by
  induction h with
  | nil => exact .nil
  | cons h _ ih => exact .cons (h.mono ht) ih
  | skip _ ih => exact .skip ih

theorem Fits.mono (ht : t.Within t') (h : Fits t n) : Fits t' n := by
  obtain ⟨slots, hs, hf⟩ := h
  exact ⟨slots, hs, hf.mono ht⟩

theorem mem_schema_of_slotsOf (h : slotsOf kind = some slots) : (kind, slots) ∈ schema ∨
    slots = [] ∧ ∃ family ∈ operatorFamilies, kind ∈ familyOf family := by
  unfold slotsOf at h
  split at h
  · next hop =>
    cases h
    obtain ⟨family, hfamily, hkind⟩ := List.any_eq_true.mp hop
    exact Or.inr ⟨rfl, family, hfamily, List.contains_iff_mem.mp hkind⟩
  · obtain ⟨before, after, hrow, _⟩ := List.lookup_eq_some_iff.mp h
    exact Or.inl (by simp [hrow])

theorem fits_operator {family : Kind} (hf : family ∈ operatorFamilies) (hk : kind ∈ familyOf family) :
    Fits t ⟨kind, []⟩ := by
  have hop : isOperator kind = true :=
    List.any_eq_true.mpr ⟨family, hf, List.contains_iff_mem.mpr hk⟩
  exact ⟨[], by rw [slotsOf, if_pos hop], .nil⟩

theorem Fills.sublist_names (h : Fills t fields slots) :
    (fields.map Prod.fst).Sublist (slots.map Prod.fst) := by
  induction h with
  | nil => exact List.Sublist.slnil
  | cons _ _ ih => exact ih.cons_cons _
  | skip _ ih => exact ih.cons _

theorem Fills.exists_slot (h : Fills t fields slots) (hf : (name, value) ∈ fields) :
    ∃ slot, (name, slot) ∈ slots ∧ slot.Accepts t value := by
  induction h with
  | nil => cases hf
  | cons ha _ ih =>
    rcases List.mem_cons.mp hf with heq | hf
    · cases heq
      exact ⟨_, List.mem_cons_self, ha⟩
    · obtain ⟨slot, hs, ha⟩ := ih hf
      exact ⟨slot, List.mem_cons_of_mem _ hs, ha⟩
  | skip _ ih =>
    obtain ⟨slot, hs, ha⟩ := ih hf
    exact ⟨slot, List.mem_cons_of_mem _ hs, ha⟩

theorem Fills.of_cons (h : Fills t fields ((name, slot) :: slots)) (hs : slot ≠ .optionalChild) :
    ∃ value rest, fields = (name, value) :: rest ∧ slot.Accepts t value ∧ Fills t rest slots := by
  cases h with
  | cons ha hr => exact ⟨_, _, rfl, ha, hr⟩
  | skip _ => exact absurd rfl hs

theorem Fills.of_nil (h : Fills t fields []) : fields = [] := by
  cases h
  rfl

theorem Fits.fills (hf : Fits t n) (hs : slotsOf n.kind = some slots) : Fills t n.fields slots := by
  obtain ⟨slots', hs', hf⟩ := hf
  obtain rfl := Option.some.inj (hs.symm.trans hs')
  exact hf

theorem Fits.one {a : String} {s : Slot} (hf : Fits t n) (hs : slotsOf n.kind = some [(a, s)])
    (ho : .optionalChild ∉ [s]) : ∃ u, n.fields = [(a, u)] ∧ s.Accepts t u := by
  obtain ⟨u, _, hn, hu, hf⟩ := (hf.fills hs).of_cons fun h => ho (by simp [h])
  obtain rfl := hf.of_nil
  exact ⟨u, hn, hu⟩

theorem Fits.two {a b : String} {s s' : Slot} (hf : Fits t n)
    (hs : slotsOf n.kind = some [(a, s), (b, s')]) (ho : .optionalChild ∉ [s, s']) :
    ∃ u v, n.fields = [(a, u), (b, v)] ∧ s.Accepts t u ∧ s'.Accepts t v := by
  obtain ⟨u, _, hn, hu, hf⟩ := (hf.fills hs).of_cons fun h => ho (by simp [h])
  obtain ⟨v, _, rfl, hv, hf⟩ := hf.of_cons fun h => ho (by simp [h])
  obtain rfl := hf.of_nil
  exact ⟨u, v, hn, hu, hv⟩

theorem Fits.three {a b c : String} {s s' s'' : Slot} (hf : Fits t n)
    (hs : slotsOf n.kind = some [(a, s), (b, s'), (c, s'')]) (ho : .optionalChild ∉ [s, s', s'']) :
    ∃ u v w, n.fields = [(a, u), (b, v), (c, w)] ∧ s.Accepts t u ∧ s'.Accepts t v ∧ s''.Accepts t w := by
  obtain ⟨u, _, hn, hu, hf⟩ := (hf.fills hs).of_cons fun h => ho (by simp [h])
  obtain ⟨v, _, rfl, hv, hf⟩ := hf.of_cons fun h => ho (by simp [h])
  obtain ⟨w, _, rfl, hw, hf⟩ := hf.of_cons fun h => ho (by simp [h])
  obtain rfl := hf.of_nil
  exact ⟨u, v, w, hn, hu, hv, hw⟩

theorem Slot.Accepts.of_text (h : Slot.text.Accepts t value) : ∃ s, value = .scalar (.str s) := by
  cases h with
  | text s => exact ⟨s, rfl⟩

theorem Slot.Accepts.of_primitive (h : Slot.primitive.Accepts t value) : ∃ v, value = .scalar v := by
  cases h with
  | primitive v => exact ⟨v, rfl⟩

theorem Slot.Accepts.of_child (h : Slot.child.Accepts t value) : ∃ id, value = .node id := by
  cases h with
  | child id => exact ⟨id, rfl⟩

theorem Slot.Accepts.of_children (h : Slot.children.Accepts t value) : ∃ ids, value = .list ids := by
  cases h with
  | children ids => exact ⟨ids, rfl⟩

theorem Slot.Accepts.of_single (h : Slot.single.Accepts t value) : ∃ id, value = .list [id] := by
  cases h with
  | single id => exact ⟨id, rfl⟩

theorem Slot.Accepts.of_pair (h : Slot.pair.Accepts t value) : ∃ a b, value = .list [a, b] := by
  cases h with
  | pair a b => exact ⟨a, b, rfl⟩

end

end Source

end SyntaxGraph

import SyntaxGraph.Proofs.Frontend
import SyntaxGraph.Proofs.Source.Fitting

namespace SyntaxGraph

namespace Tree

def IsLeaf (t : Tree) (family : Kind) (id : NodeId) : Prop :=
  ∃ kind, t.node? id = some ⟨kind, []⟩ ∧ kind ≠ family ∧
    Hierarchy.standard.isSubkind kind family = true

def IsParameters (t : Tree) (id : NodeId) : Prop :=
  ∃ ids, t.node? id = some ⟨"arguments", [("args", .list ids)]⟩ ∧
    ∀ a ∈ ids, ∃ name, t.node? a = some ⟨"arg", [("arg", .scalar (.str name))]⟩

/-- The node has a known kind and the fields that all nodes of its kind have. -/
structure Shaped (t : Tree) (n : Node) : Prop where
  known : n.kind = "Unsupported" ∨ (Hierarchy.standard.parent n.kind).isSome
  distinct : (n.fields.map Prod.fst).Nodup
  fits : Source.Fits t n
  arithmetic : n.kind = "BinOp" → ∃ left op right,
    n.fields = [("left", .node left), ("op", .node op), ("right", .node right)] ∧ t.IsLeaf "operator" op
  augmented : n.kind = "AugAssign" → ∃ target op value,
    n.fields = [("target", .node target), ("op", .node op), ("value", .node value)] ∧
      t.IsLeaf "operator" op
  comparison : n.kind = "Compare" → ∃ left op right,
    n.fields = [("left", .node left), ("ops", .list [op]), ("comparators", .list [right])] ∧
      t.IsLeaf "cmpop" op
  boolean : n.kind = "BoolOp" → ∃ op left right,
    n.fields = [("op", .node op), ("values", .list [left, right])] ∧ t.IsLeaf "boolop" op
  unary : n.kind = "UnaryOp" → ∃ op operand,
    n.fields = [("op", .node op), ("operand", .node operand)] ∧ t.IsLeaf "unaryop" op
  assignment : n.kind = "Assign" → ∃ target value,
    n.fields = [("targets", .list [target]), ("value", .node value)]
  function : n.kind = "FunctionDef" ∨ n.kind = "AsyncFunctionDef" → ∃ name args body,
    n.fields = [("name", .scalar (.str name)), ("args", .node args), ("body", .list body)] ∧
      t.IsParameters args
  closure : n.kind = "Lambda" → ∃ args body,
    n.fields = [("args", .node args), ("body", .node body)] ∧ t.IsParameters args
  call : n.kind = "Call" → ∃ func args, n.fields = [("func", .node func), ("args", .list args)]
  branch : n.kind = "If" → ∃ test body orelse,
    n.fields = [("test", .node test), ("body", .list body), ("orelse", .list orelse)]
  whileLoop : n.kind = "While" → ∃ test body, n.fields = [("test", .node test), ("body", .list body)]
  forLoop : n.kind = "For" → ∃ target iter body,
    n.fields = [("target", .node target), ("iter", .node iter), ("body", .list body)]
  loop : n.kind = "Loop" → ∃ body, n.fields = [("body", .list body)]
  name : n.kind = "Name" → ∃ id, n.fields = [("id", .scalar (.str id))]
  constant : n.kind = "Constant" → ∃ value, n.fields = [("value", .scalar value)]

end Tree

namespace Source

section

variable {t : Tree} {n : Node} {family : Kind} {value : FieldValue} {id : NodeId} {a b : String}

theorem Fits.known (hf : Fits t n) :
    n.kind = "Unsupported" ∨ (Hierarchy.standard.parent n.kind).isSome := by
  have hschema : ∀ row ∈ schema, row.1 = "Unsupported" ∨ (Hierarchy.standard.parent row.1).isSome := by
    decide +kernel
  have hoperator : ∀ family ∈ operatorFamilies, ∀ kind ∈ familyOf family,
      (Hierarchy.standard.parent kind).isSome := by
    decide +kernel
  obtain ⟨slots, hs, _⟩ := hf
  rcases mem_schema_of_slotsOf hs with hrow | ⟨_, family, hfamily, hkind⟩
  · exact hschema _ hrow
  · exact Or.inr (hoperator family hfamily n.kind hkind)

theorem Fits.distinct (hf : Fits t n) : (n.fields.map Prod.fst).Nodup := by
  have hschema : ∀ row ∈ schema, (row.2.map Prod.fst).Nodup := by decide +kernel
  obtain ⟨slots, hs, hfills⟩ := hf
  rcases mem_schema_of_slotsOf hs with hrow | ⟨rfl, _⟩
  · exact hfills.sublist_names.nodup (hschema _ hrow)
  · exact hfills.sublist_names.nodup List.nodup_nil

theorem isSubkind_of_mem_familyOf : ∀ family ∈ operatorFamilies, ∀ kind ∈ familyOf family,
    kind ≠ family ∧ Hierarchy.standard.isSubkind kind family = true := by
  decide +kernel

theorem Slot.Accepts.leaf (h : (Slot.operator family).Accepts t value) (hf : family ∈ operatorFamilies) :
    ∃ op, value = .node op ∧ t.IsLeaf family op := by
  cases h with
  | @operator _ kind op hk hn => exact ⟨op, rfl, kind, hn, isSubkind_of_mem_familyOf family hf kind hk⟩

theorem Slot.Accepts.singleLeaf (h : (Slot.singleOperator family).Accepts t value)
    (hf : family ∈ operatorFamilies) : ∃ op, value = .list [op] ∧ t.IsLeaf family op := by
  cases h with
  | @singleOperator _ kind op hk hn =>
    exact ⟨op, rfl, kind, hn, isSubkind_of_mem_familyOf family hf kind hk⟩

theorem Slot.Accepts.isParameters (h : Slot.parameters.Accepts t value) (ht : Fitting t) :
    ∃ args, value = .node args ∧ t.IsParameters args := by
  cases h with
  | @parameters ids args hn =>
    refine ⟨args, rfl, ids, hn, ?_⟩
    obtain ⟨_, hfields, hnames⟩ := (ht args _ hn).one rfl (by decide)
    cases hfields
    cases hnames with
    | parameterNames h => exact h

theorem Fits.operation (hf : Fits t n)
    (hs : slotsOf n.kind = some [(a, .child), ("op", .operator "operator"), (b, .child)]) :
    ∃ left op right, n.fields = [(a, .node left), ("op", .node op), (b, .node right)] ∧
      t.IsLeaf "operator" op := by
  obtain ⟨_, _, _, hfields, hleft, hop, hright⟩ := hf.three hs (by decide)
  obtain ⟨left, rfl⟩ := hleft.of_child
  obtain ⟨op, rfl, hleaf⟩ := hop.leaf (by decide)
  obtain ⟨right, rfl⟩ := hright.of_child
  exact ⟨left, op, right, hfields, hleaf⟩

theorem Fits.comparison (hf : Fits t n) (hs : slotsOf n.kind =
      some [("left", .child), ("ops", .singleOperator "cmpop"), ("comparators", .single)]) :
    ∃ left op right,
      n.fields = [("left", .node left), ("ops", .list [op]), ("comparators", .list [right])] ∧
        t.IsLeaf "cmpop" op := by
  obtain ⟨_, _, _, hfields, hleft, hop, hright⟩ := hf.three hs (by decide)
  obtain ⟨left, rfl⟩ := hleft.of_child
  obtain ⟨op, rfl, hleaf⟩ := hop.singleLeaf (by decide)
  obtain ⟨right, rfl⟩ := hright.of_single
  exact ⟨left, op, right, hfields, hleaf⟩

theorem Fits.connective (hf : Fits t n)
    (hs : slotsOf n.kind = some [("op", .operator "boolop"), ("values", .pair)]) :
    ∃ op left right, n.fields = [("op", .node op), ("values", .list [left, right])] ∧
      t.IsLeaf "boolop" op := by
  obtain ⟨_, _, hfields, hop, hvalues⟩ := hf.two hs (by decide)
  obtain ⟨op, rfl, hleaf⟩ := hop.leaf (by decide)
  obtain ⟨left, right, rfl⟩ := hvalues.of_pair
  exact ⟨op, left, right, hfields, hleaf⟩

theorem Fits.unary (hf : Fits t n)
    (hs : slotsOf n.kind = some [("op", .operator "unaryop"), ("operand", .child)]) :
    ∃ op operand, n.fields = [("op", .node op), ("operand", .node operand)] ∧
      t.IsLeaf "unaryop" op := by
  obtain ⟨_, _, hfields, hop, hoperand⟩ := hf.two hs (by decide)
  obtain ⟨op, rfl, hleaf⟩ := hop.leaf (by decide)
  obtain ⟨operand, rfl⟩ := hoperand.of_child
  exact ⟨op, operand, hfields, hleaf⟩

theorem Fits.assignment (hf : Fits t n)
    (hs : slotsOf n.kind = some [("targets", .single), ("value", .child)]) :
    ∃ target value, n.fields = [("targets", .list [target]), ("value", .node value)] := by
  obtain ⟨_, _, hfields, htarget, hvalue⟩ := hf.two hs (by decide)
  obtain ⟨target, rfl⟩ := htarget.of_single
  obtain ⟨value, rfl⟩ := hvalue.of_child
  exact ⟨target, value, hfields⟩

theorem Fits.function (hf : Fits t n) (ht : Fitting t)
    (hs : slotsOf n.kind = some [("name", .text), ("args", .parameters), ("body", .children)]) :
    ∃ name args body,
      n.fields = [("name", .scalar (.str name)), ("args", .node args), ("body", .list body)] ∧
        t.IsParameters args := by
  obtain ⟨_, _, _, hfields, hname, hargs, hbody⟩ := hf.three hs (by decide)
  obtain ⟨name, rfl⟩ := hname.of_text
  obtain ⟨args, rfl, hparameters⟩ := hargs.isParameters ht
  obtain ⟨body, rfl⟩ := hbody.of_children
  exact ⟨name, args, body, hfields, hparameters⟩

theorem Fits.closure (hf : Fits t n) (ht : Fitting t)
    (hs : slotsOf n.kind = some [("args", .parameters), ("body", .child)]) :
    ∃ args body, n.fields = [("args", .node args), ("body", .node body)] ∧ t.IsParameters args := by
  obtain ⟨_, _, hfields, hargs, hbody⟩ := hf.two hs (by decide)
  obtain ⟨args, rfl, hparameters⟩ := hargs.isParameters ht
  obtain ⟨body, rfl⟩ := hbody.of_child
  exact ⟨args, body, hfields, hparameters⟩

theorem Fits.child_children (hf : Fits t n) (hs : slotsOf n.kind = some [(a, .child), (b, .children)]) :
    ∃ child list, n.fields = [(a, .node child), (b, .list list)] := by
  obtain ⟨_, _, hfields, hchild, hlist⟩ := hf.two hs (by decide)
  obtain ⟨child, rfl⟩ := hchild.of_child
  obtain ⟨list, rfl⟩ := hlist.of_children
  exact ⟨child, list, hfields⟩

theorem Fits.branch (hf : Fits t n)
    (hs : slotsOf n.kind = some [("test", .child), ("body", .children), ("orelse", .children)]) :
    ∃ test body orelse,
      n.fields = [("test", .node test), ("body", .list body), ("orelse", .list orelse)] := by
  obtain ⟨_, _, _, hfields, htest, hbody, horelse⟩ := hf.three hs (by decide)
  obtain ⟨test, rfl⟩ := htest.of_child
  obtain ⟨body, rfl⟩ := hbody.of_children
  obtain ⟨orelse, rfl⟩ := horelse.of_children
  exact ⟨test, body, orelse, hfields⟩

theorem Fits.forLoop (hf : Fits t n)
    (hs : slotsOf n.kind = some [("target", .child), ("iter", .child), ("body", .children)]) :
    ∃ target iter body,
      n.fields = [("target", .node target), ("iter", .node iter), ("body", .list body)] := by
  obtain ⟨_, _, _, hfields, htarget, hiter, hbody⟩ := hf.three hs (by decide)
  obtain ⟨target, rfl⟩ := htarget.of_child
  obtain ⟨iter, rfl⟩ := hiter.of_child
  obtain ⟨body, rfl⟩ := hbody.of_children
  exact ⟨target, iter, body, hfields⟩

theorem Fits.loop (hf : Fits t n) (hs : slotsOf n.kind = some [("body", .children)]) :
    ∃ body, n.fields = [("body", .list body)] := by
  obtain ⟨_, hfields, hbody⟩ := hf.one hs (by decide)
  obtain ⟨body, rfl⟩ := hbody.of_children
  exact ⟨body, hfields⟩

theorem Fits.name (hf : Fits t n) (hs : slotsOf n.kind = some [("id", .text)]) :
    ∃ id, n.fields = [("id", .scalar (.str id))] := by
  obtain ⟨_, hfields, hid⟩ := hf.one hs (by decide)
  obtain ⟨id, rfl⟩ := hid.of_text
  exact ⟨id, hfields⟩

theorem Fits.constant (hf : Fits t n) (hs : slotsOf n.kind = some [("value", .primitive)]) :
    ∃ value, n.fields = [("value", .scalar value)] := by
  obtain ⟨_, hfields, hvalue⟩ := hf.one hs (by decide)
  obtain ⟨value, rfl⟩ := hvalue.of_primitive
  exact ⟨value, hfields⟩

theorem Fitting.shaped (ht : Fitting t) (hn : t.node? id = some n) : t.Shaped n := by
  have hf : Fits t n := ht id n hn
  have hslots {kind : Kind} (hk : n.kind = kind) : slotsOf n.kind = slotsOf kind := congrArg slotsOf hk
  constructor
  case known => exact hf.known
  case distinct => exact hf.distinct
  case fits => exact hf
  case arithmetic => exact fun hk => hf.operation (hslots hk)
  case augmented => exact fun hk => hf.operation (hslots hk)
  case comparison => exact fun hk => hf.comparison (hslots hk)
  case boolean => exact fun hk => hf.connective (hslots hk)
  case unary => exact fun hk => hf.unary (hslots hk)
  case assignment => exact fun hk => hf.assignment (hslots hk)
  case function =>
    rintro (hk | hk)
    · exact hf.function ht (hslots hk)
    · exact hf.function ht (hslots hk)
  case closure => exact fun hk => hf.closure ht (hslots hk)
  case call => exact fun hk => hf.child_children (hslots hk)
  case branch => exact fun hk => hf.branch (hslots hk)
  case whileLoop => exact fun hk => hf.child_children (hslots hk)
  case forLoop => exact fun hk => hf.forLoop (hslots hk)
  case loop => exact fun hk => hf.loop (hslots hk)
  case name => exact fun hk => hf.name (hslots hk)
  case constant => exact fun hk => hf.constant (hslots hk)

end

end Source

namespace Frontend

theorem shaped_of_parse {text : String} {t : Tree} (h : rust.parse text = .ok t) :
    ∀ id n, t.node? id = some n → t.Shaped n := by
  obtain ⟨items, rfl⟩ := exists_items h
  obtain ⟨ht, _⟩ := Source.fitting_treeOfItems items
  exact fun id n hn => ht.shaped hn

def incrementText : String :=
  "fn f(a: u8) \x7b if !a == 1 \x7b a += 2; \x7d \x7d"

def incrementTree : Tree where
  nodes := #[
    ⟨"arg", [("arg", .scalar (.str "a"))]⟩,
    ⟨"arguments", [("args", .list [⟨0⟩])]⟩,
    ⟨"Name", [("id", .scalar (.str "a"))]⟩,
    ⟨"Not", []⟩,
    ⟨"UnaryOp", [("op", .node ⟨3⟩), ("operand", .node ⟨2⟩)]⟩,
    ⟨"Constant", [("value", .scalar (.int 1))]⟩,
    ⟨"Eq", []⟩,
    ⟨"Compare", [("left", .node ⟨4⟩), ("ops", .list [⟨6⟩]), ("comparators", .list [⟨5⟩])]⟩,
    ⟨"Name", [("id", .scalar (.str "a"))]⟩,
    ⟨"Constant", [("value", .scalar (.int 2))]⟩,
    ⟨"Add", []⟩,
    ⟨"AugAssign", [("target", .node ⟨8⟩), ("op", .node ⟨10⟩), ("value", .node ⟨9⟩)]⟩,
    ⟨"If", [("test", .node ⟨7⟩), ("body", .list [⟨11⟩]), ("orelse", .list [])]⟩,
    ⟨"FunctionDef", [("name", .scalar (.str "f")), ("args", .node ⟨1⟩), ("body", .list [⟨12⟩])]⟩,
    ⟨"Module", [("body", .list [⟨13⟩])]⟩]
  root := some ⟨14⟩

theorem shaped_of_parse_incrementText :
    rust.parse incrementText = .ok incrementTree ∧ (∀ n ∈ incrementTree.nodes, incrementTree.Shaped n) ∧
      incrementTree.IsLeaf "cmpop" ⟨6⟩ ∧ incrementTree.IsLeaf "operator" ⟨10⟩ ∧
      incrementTree.IsParameters ⟨1⟩ := by
  have hp : rust.parse incrementText = .ok incrementTree := by decide +kernel
  have hshaped := shaped_of_parse hp
  refine ⟨hp, fun n hn => ?_, ?_, ?_, ?_⟩
  · obtain ⟨i, hi, rfl⟩ := Array.mem_iff_getElem.mp hn
    exact hshaped ⟨i⟩ _ (Array.getElem?_eq_getElem hi)
  · obtain ⟨_, _, _, hfields, hleaf⟩ := (hshaped ⟨7⟩ _ rfl).comparison rfl
    cases hfields
    exact hleaf
  · obtain ⟨_, _, _, hfields, hleaf⟩ := (hshaped ⟨11⟩ _ rfl).augmented rfl
    cases hfields
    exact hleaf
  · obtain ⟨_, _, _, hfields, hparameters⟩ := (hshaped ⟨13⟩ _ rfl).function (Or.inl rfl)
    cases hfields
    exact hparameters

end Frontend

end SyntaxGraph

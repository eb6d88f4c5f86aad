import SyntaxGraph.Proofs.Source.Schema
import SyntaxGraph.Source.Draft
import Mathlib.Data.List.Basic

/-!
Every node of the tree of a source text fits the schema. Drafts only add nodes, so what a node was found
to hold when it was added stays true.
-/

namespace SyntaxGraph.Source

def Fitting (t : Tree) : Prop :=
  ∀ id n, t.node? id = some n → Fits t n

/-- Run on the tree, the draft only adds nodes that fit, and what it answers is true of the tree that it
leaves. -/
def Adds {α : Type} (t : Tree) (x : Draft α) (post : α → Tree → Prop) : Prop :=
  Fitting t → t.Within (x.run t).2 ∧ Fitting (x.run t).2 ∧ post (x.run t).1 (x.run t).2

def Keeps {α : Type} (x : Draft α) : Prop :=
  ∀ t, Adds t x fun _ _ => True

section

variable {α β : Type} {t : Tree} {x : Draft α} {f : α → Draft β} {mid : α → Tree → Prop}
  {post : β → Tree → Prop} {kind : Kind} {fields : List (String × FieldValue)}

theorem Adds.pure {b : β} (h : post b t) : Adds t (Pure.pure b) post :=
  fun ht => ⟨t.within_refl, ht, h⟩

theorem Adds.bind (hx : Adds t x mid)
    (hf : ∀ a t', t.Within t' → mid a t' → Adds t' (f a) post) : Adds t (x >>= f) post := by
  intro ht
  obtain ⟨hw, ht', hm⟩ := hx ht
  obtain ⟨hw', ht'', hp⟩ := hf _ _ hw hm ht'
  exact ⟨hw.trans hw', ht'', hp⟩

theorem Adds.imp {post : α → Tree → Prop} (hx : Adds t x mid) (h : ∀ a t', mid a t' → post a t') :
    Adds t x post := by
  intro ht
  obtain ⟨hw, ht', hm⟩ := hx ht
  exact ⟨hw, ht', h _ _ hm⟩

theorem Adds.weaken (hx : Adds t x mid) : Adds t x fun _ _ => True :=
  hx.imp fun _ _ _ => trivial

theorem adds_node (h : Fits t ⟨kind, fields⟩) :
    Adds t (Draft.add kind fields) fun id t' => t'.node? id = some ⟨kind, fields⟩ := by
  intro ht
  have hw : t.Within (t.add ⟨kind, fields⟩) := t.within_add _
  have hnew : (t.add ⟨kind, fields⟩).node? t.next = some ⟨kind, fields⟩ := by
    rw [Tree.node?_add, if_pos rfl]
  refine ⟨hw, ?_, hnew⟩
  intro id n hn
  have hn : (t.add ⟨kind, fields⟩).node? id = some n := hn
  rw [Tree.node?_add] at hn
  split at hn
  · cases hn
    exact h.mono hw
  · exact (ht id n hn).mono hw

theorem Fitting.withRoot (h : Fitting t) (root : NodeId) : Fitting (t.withRoot root) := by
  intro id n hn
  have hw : t.Within (t.withRoot root) := t.within_withRoot root
  exact (h id n hn).mono hw

theorem Keeps.pure (a : α) : Keeps (Pure.pure a) :=
  fun _ => .pure trivial

theorem Keeps.bind (hx : Keeps x) (hf : ∀ a, Keeps (f a)) : Keeps (x >>= f) :=
  fun t => (hx t).bind fun a t' _ _ => hf a t'

theorem keeps_node (h : ∀ t, Fits t ⟨kind, fields⟩) : Keeps (Draft.add kind fields) :=
  fun t => (adds_node (h t)).weaken

theorem keeps_mapM {f : α → Draft NodeId} (hf : ∀ a, Keeps (f a)) (as : List α) :
    Keeps (as.mapM f) := by
  induction as with
  | nil =>
    rw [List.mapM_nil]
    exact .pure _
  | cons a as ih =>
    rw [List.mapM_cons]
    exact (hf a).bind fun id => ih.bind fun ids => .pure _

end

theorem keeps_unsupported (what : String) : Keeps (Draft.addUnsupported what) :=
  keeps_node fun _ => ⟨_, rfl, .cons (.text _) .nil⟩

theorem keeps_name (name : String) : Keeps (Draft.addName name) :=
  keeps_node fun _ => ⟨_, rfl, .cons (.text _) .nil⟩

theorem keeps_macro (m : MacroCall) : Keeps (Draft.addMacro m) :=
  keeps_node fun _ => ⟨_, rfl, .cons (.text _) .nil⟩

theorem keeps_assign (target value : NodeId) : Keeps (Draft.addAssign target value) :=
  keeps_node fun _ => ⟨_, rfl, .cons (.single _) (.cons (.child _) .nil)⟩

theorem keeps_list {kind : Kind} {field : String} (h : slotsOf kind = some [(field, .children)])
    (ids : List NodeId) : Keeps (Draft.add kind [(field, .list ids)]) :=
  keeps_node fun _ => ⟨_, h, .cons (.children _) .nil⟩

theorem keeps_class (name : String) (body : List NodeId) : Keeps (Draft.addClass name body) :=
  keeps_node fun _ => ⟨_, rfl, .cons (.text _) (.cons (.children _) .nil)⟩

theorem keeps_call (func : NodeId) (args : List NodeId) : Keeps (Draft.addCall func args) :=
  keeps_node fun _ => ⟨_, rfl, .cons (.child _) (.cons (.children _) .nil)⟩

theorem keeps_attribute (value : NodeId) (name : String) : Keeps (Draft.addAttribute value name) :=
  keeps_node fun _ => ⟨_, rfl, .cons (.child _) (.cons (.text _) .nil)⟩

theorem keeps_literal (l : Literal) : Keeps (Draft.addLiteral l) := by
  unfold Draft.addLiteral
  cases l.scalar? with
  | some s => exact keeps_node fun _ => ⟨_, rfl, .cons (.primitive _) .nil⟩
  | none => exact keeps_unsupported "literal"

theorem adds_parameterNames (names : List String) (t : Tree) :
    Adds t (names.mapM fun name => Draft.add "arg" [("arg", .scalar (.str name))]) fun ids t' =>
      ∀ id ∈ ids, ∃ name, t'.node? id = some ⟨"arg", [("arg", .scalar (.str name))]⟩ := by
  induction names generalizing t with
  | nil =>
    rw [List.mapM_nil]
    exact .pure (by simp)
  | cons name names ih =>
    rw [List.mapM_cons]
    apply Adds.bind (adds_node ⟨_, rfl, .cons (.text _) .nil⟩)
    intro id t' _ hid
    apply Adds.bind (ih t')
    intro ids t'' hw hids
    apply Adds.pure
    intro id' hid'
    rcases List.mem_cons.mp hid' with rfl | hid'
    · exact ⟨name, hw _ _ hid⟩
    · exact hids id' hid'

theorem adds_parameters (names : List String) (t : Tree) :
    Adds t (Draft.addParameters names) fun id t' =>
      ∃ args, t'.node? id = some ⟨"arguments", [("args", .list args)]⟩ := by
  apply Adds.bind (adds_parameterNames names t)
  intro args t' _ hargs
  apply (adds_node ⟨_, rfl, .cons (.parameterNames hargs) .nil⟩).imp
  exact fun id t'' hid => ⟨args, hid⟩

theorem keeps_function (s : Signature) {body : Draft (List NodeId)} (h : Keeps body) :
    Keeps (Draft.addFunction s body) := by
  intro t
  apply Adds.bind (adds_parameters _ t)
  intro id t' _ ⟨args, hid⟩
  apply Adds.bind (h t')
  intro ids t'' hw _
  have hslot : Slot.parameters.Accepts t'' (.node id) := .parameters (hw _ _ hid)
  cases s.isAsync with
  | true => exact (adds_node ⟨_, rfl, .cons (.text _) (.cons hslot (.cons (.children _) .nil))⟩).weaken
  | false => exact (adds_node ⟨_, rfl, .cons (.text _) (.cons hslot (.cons (.children _) .nil))⟩).weaken

theorem keeps_operation {family leafKind kind : Kind} {fields : NodeId → List (String × FieldValue)}
    (hf : family ∈ operatorFamilies) (hk : leafKind ∈ familyOf family)
    (h : ∀ leaf t, t.node? leaf = some ⟨leafKind, []⟩ → Fits t ⟨kind, fields leaf⟩) :
    Keeps (do Draft.add kind (fields (← Draft.add leafKind))) := by
  intro t
  apply Adds.bind (adds_node (fits_operator hf hk))
  intro leaf t' _ hleaf
  exact (adds_node (h leaf t' hleaf)).weaken

theorem ArithmeticOperator.kind_mem (op : ArithmeticOperator) : op.kind ∈ familyOf "operator" := by
  cases op <;> decide +kernel

theorem BooleanOperator.kind_mem (op : BooleanOperator) : op.kind ∈ familyOf "boolop" := by
  cases op <;> decide +kernel

theorem ComparisonOperator.kind_mem (op : ComparisonOperator) : op.kind ∈ familyOf "cmpop" := by
  cases op <;> decide +kernel

theorem UnaryOperator.kind_mem (op : UnaryOperator) : op.kind ∈ familyOf "unaryop" := by
  cases op <;> decide +kernel

theorem keeps_binary (op : BinaryOperator) (left right : NodeId) :
    Keeps (Draft.addBinary op left right) := by
  cases op with
  | arithmetic op =>
    apply keeps_operation (by decide) op.kind_mem
    intro leaf t hleaf
    exact ⟨_, rfl, .cons (.child _) (.cons (.operator op.kind_mem hleaf) (.cons (.child _) .nil))⟩
  | boolean op =>
    apply keeps_operation (by decide) op.kind_mem
    intro leaf t hleaf
    exact ⟨_, rfl, .cons (.operator op.kind_mem hleaf) (.cons (.pair _ _) .nil)⟩
  | comparison op =>
    apply keeps_operation (by decide) op.kind_mem
    intro leaf t hleaf
    exact ⟨_, rfl, .cons (.child _)
      (.cons (.singleOperator op.kind_mem hleaf) (.cons (.single _) .nil))⟩
  | augmented op =>
    apply keeps_operation (by decide) op.kind_mem
    intro leaf t hleaf
    exact ⟨_, rfl, .cons (.child _) (.cons (.operator op.kind_mem hleaf) (.cons (.child _) .nil))⟩

theorem keeps_unary (op : UnaryOperator) (operand : NodeId) : Keeps (Draft.addUnary op operand) := by
  apply keeps_operation (by decide) op.kind_mem
  intro leaf t hleaf
  exact ⟨_, rfl, .cons (.operator op.kind_mem hleaf) (.cons (.child _) .nil)⟩

mutual

theorem Pattern.keeps : ∀ p : Pattern, Keeps p.draft
  | .ident name => keeps_name name
  | .typed inner => inner.keeps
  | .reference inner => inner.keeps
  | .wild => keeps_name "_"
  | .tuple items => by
    rw [Pattern.draft]
    exact (keeps_patterns items).bind fun items => keeps_list rfl items
  | .other => keeps_unsupported "pattern"

theorem keeps_patterns : ∀ ps : List Pattern, Keeps (draftPatterns ps)
  | [] => .pure _
  | p :: rest => by
    rw [draftPatterns]
    exact p.keeps.bind fun first => (keeps_patterns rest).bind fun others => .pure _

end

mutual

theorem Expr.keeps : ∀ e : Expr, Keeps e.draft
  | .literal l => keeps_literal l
  | .bool b => keeps_node fun _ => ⟨_, rfl, .cons (.primitive _) .nil⟩
  | .path p => keeps_name p.text
  | .paren inner => by
    rw [Expr.draft]
    exact inner.keeps
  | .binary op left right => by
    rw [Expr.draft]
    exact left.keeps.bind fun left => right.keeps.bind fun right => keeps_binary op left right
  | .unary op operand => by
    rw [Expr.draft]
    exact operand.keeps.bind fun operand => keeps_unary op operand
  | .call func args => by
    rw [Expr.draft]
    exact func.keeps.bind fun func => (keeps_exprs args).bind fun args => keeps_call func args
  | .methodCall receiver method args => by
    rw [Expr.draft]
    exact receiver.keeps.bind fun receiver => (keeps_attribute receiver method).bind
      fun func => (keeps_exprs args).bind fun args => keeps_call func args
  | .field base member => by
    rw [Expr.draft]
    exact base.keeps.bind fun base => keeps_attribute base member
  | .index base place => by
    rw [Expr.draft]
    exact base.keeps.bind fun base => place.keeps.bind
      fun place => keeps_node fun _ => ⟨_, rfl, .cons (.child _) (.cons (.child _) .nil)⟩
  | .tuple items => by
    rw [Expr.draft]
    exact (keeps_exprs items).bind fun items => keeps_list rfl items
  | .array items => by
    rw [Expr.draft]
    exact (keeps_exprs items).bind fun items => keeps_list rfl items
  | .block body => by
    rw [Expr.draft]
    exact (keeps_stmts body).bind fun body => keeps_list rfl body
  | .unsafeBlock body => by
    rw [Expr.draft]
    exact (keeps_stmts body).bind fun body => keeps_list rfl body
  | .ifThen test body otherwise => by
    rw [Expr.draft]
    exact test.keeps.bind fun test => (keeps_stmts body).bind fun body =>
      (keeps_otherwise otherwise).bind fun orelse => keeps_node
        fun _ => ⟨_, rfl, .cons (.child _) (.cons (.children _) (.cons (.children _) .nil))⟩
  | .whileLoop test body => by
    rw [Expr.draft]
    exact test.keeps.bind fun test => (keeps_stmts body).bind
      fun body => keeps_node fun _ => ⟨_, rfl, .cons (.child _) (.cons (.children _) .nil)⟩
  | .forLoop target iter body => by
    rw [Expr.draft]
    exact target.keeps.bind fun target => iter.keeps.bind fun iter => (keeps_stmts body).bind
      fun body => keeps_node
        fun _ => ⟨_, rfl, .cons (.child _) (.cons (.child _) (.cons (.children _) .nil))⟩
  | .loop body => by
    rw [Expr.draft]
    exact (keeps_stmts body).bind fun body => keeps_list rfl body
  | .returning value => by
    rw [Expr.draft]
    apply (keeps_optional value).bind
    intro value
    cases value with
    | none => exact keeps_node fun _ => ⟨_, rfl, .cons .absent .nil⟩
    | some value => exact keeps_node fun _ => ⟨_, rfl, .cons (.childOrAbsent _) .nil⟩
  | .breaking => keeps_node fun _ => ⟨_, rfl, .nil⟩
  | .continuing => keeps_node fun _ => ⟨_, rfl, .nil⟩
  | .assign target value => by
    rw [Expr.draft]
    exact target.keeps.bind fun target => value.keeps.bind fun value => keeps_assign target value
  | .macroCall m => keeps_macro m
  | .closure parameters body => by
    rw [Expr.draft]
    intro t
    apply Adds.bind (adds_parameters _ t)
    intro id t' _ ⟨args, hid⟩
    apply Adds.bind (body.keeps t')
    intro body t'' hw _
    have hslot : Slot.parameters.Accepts t'' (.node id) := .parameters (hw _ _ hid)
    exact (adds_node ⟨_, rfl, .cons hslot (.cons (.child _) .nil)⟩).weaken
  | .range lower upper => by
    rw [Expr.draft]
    apply (keeps_optional lower).bind
    intro lower
    apply (keeps_optional upper).bind
    intro upper
    apply keeps_node
    intro t
    cases lower with
    | none =>
      cases upper with
      | none => exact ⟨_, rfl, .skip (.skip .nil)⟩
      | some upper => exact ⟨_, rfl, .skip (.cons (.optionalChild _) .nil)⟩
    | some lower =>
      cases upper with
      | none => exact ⟨_, rfl, .cons (.optionalChild _) (.skip .nil)⟩
      | some upper => exact ⟨_, rfl, .cons (.optionalChild _) (.cons (.optionalChild _) .nil)⟩
  | .awaiting base => by
    rw [Expr.draft]
    exact base.keeps.bind fun base => keeps_node fun _ => ⟨_, rfl, .cons (.child _) .nil⟩
  | .undrawn _ => keeps_unsupported "expression"

theorem keeps_optional : ∀ e : Option Expr, Keeps (draftOptional e)
  | none => .pure _
  | some e => by
    rw [draftOptional]
    exact e.keeps.bind fun id => .pure _

theorem keeps_otherwise : ∀ e : Option Expr, Keeps (draftOtherwise e)
  | none => .pure _
  | some e => by
    unfold draftOtherwise
    split
    · exact .pure _
    · next body he =>
      cases he
      exact keeps_stmts body
    · next e' _ he =>
      cases he
      exact e.keeps.bind fun id => .pure _

theorem keeps_exprs : ∀ es : List Expr, Keeps (draftExprs es)
  | [] => .pure _
  | e :: rest => by
    rw [draftExprs]
    exact e.keeps.bind fun first => (keeps_exprs rest).bind fun others => .pure _

theorem Stmt.keeps : ∀ s : Stmt, Keeps s.draft
  | .declaration target value => by
    rw [Stmt.draft]
    apply target.keeps.bind
    intro target
    apply (keeps_optional value).bind
    intro value
    cases value with
    | none => exact keeps_node fun _ => ⟨_, rfl, .cons (.child _) .nil⟩
    | some value => exact keeps_assign target value
  | .item i => by
    rw [Stmt.draft]
    exact i.keeps
  | .expr e => by
    rw [Stmt.draft]
    apply e.keeps.bind
    intro value
    cases e.isStatement with
    | true => exact .pure _
    | false => exact keeps_node fun _ => ⟨_, rfl, .cons (.child _) .nil⟩
  | .macroCall m => keeps_macro m

theorem keeps_stmts : ∀ ss : List Stmt, Keeps (draftStmts ss)
  | [] => .pure _
  | s :: rest => by
    rw [draftStmts]
    exact s.keeps.bind fun first => (keeps_stmts rest).bind fun others => .pure _

theorem Item.keeps : ∀ i : Item, Keeps i.draft
  | .function s body => by
    rw [Item.draft]
    exact keeps_function s (keeps_stmts body)
  | .structure name fields => by
    rw [Item.draft]
    have hfield (field : String) : Keeps (do
        Draft.add "AnnAssign" [("target", .node (← Draft.addName field))]) :=
      (keeps_name field).bind fun target => keeps_node fun _ => ⟨_, rfl, .cons (.child _) .nil⟩
    exact (keeps_mapM hfield fields).bind fun body => keeps_class name body
  | .enumeration name variants => by
    rw [Item.draft]
    exact (keeps_mapM keeps_name variants).bind fun body => keeps_class name body
  | .implementation ofTrait self methods => by
    rw [Item.draft]
    exact (keeps_methods methods).bind fun body => keeps_class _ body
  | .module name items => by
    rw [Item.draft]
    exact (keeps_items items).bind
      fun body => keeps_node fun _ => ⟨_, rfl, .cons (.text _) (.cons (.children _) .nil)⟩
  | .binding name value => by
    rw [Item.draft]
    exact (keeps_name name).bind fun target => value.keeps.bind
      fun value => keeps_assign target value
  | .use tree => keeps_node fun _ => ⟨_, rfl, .cons (.text _) .nil⟩
  | .macroCall m => keeps_macro m
  | .other => keeps_unsupported "item"

theorem keeps_items : ∀ is : List Item, Keeps (draftItems is)
  | [] => .pure _
  | i :: rest => by
    rw [draftItems]
    exact i.keeps.bind fun first => (keeps_items rest).bind fun others => .pure _

theorem Method.keeps : ∀ m : Method, Keeps m.draft
  | .mk s body => by
    rw [Method.draft]
    exact keeps_function s (keeps_stmts body)

theorem keeps_methods : ∀ ms : List Method, Keeps (draftMethods ms)
  | [] => .pure _
  | m :: rest => by
    rw [draftMethods]
    exact m.keeps.bind fun first => (keeps_methods rest).bind fun others => .pure _

end

theorem fitting_treeOfItems (items : List Item) :
    Fitting (treeOfItems items) ∧ ∃ root body, (treeOfItems items).root = some root ∧
      (treeOfItems items).node? root = some ⟨"Module", [("body", .list body)]⟩ := by
  have hmodule : Adds .empty (do
      let body ← draftItems items
      Draft.add "Module" [("body", .list body)]) fun id t =>
        ∃ body, t.node? id = some ⟨"Module", [("body", .list body)]⟩ := by
    apply Adds.bind (keeps_items items .empty)
    intro body t' _ _
    apply (adds_node ⟨_, rfl, .cons (.children _) .nil⟩).imp
    exact fun id t'' hid => ⟨body, hid⟩
  have hempty : Fitting .empty := by
    intro id n hn
    simp [Tree.node?, Tree.empty] at hn
  obtain ⟨_, hfit, body, hroot⟩ := hmodule hempty
  exact ⟨hfit.withRoot _, _, body, rfl, hroot⟩

end SyntaxGraph.Source

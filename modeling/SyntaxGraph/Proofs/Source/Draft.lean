import SyntaxGraph.Proofs.Tree.Builder
import SyntaxGraph.Source.Draft

namespace SyntaxGraph.Source

section

variable {pre : List NodeId}

theorem plants_node {kind : Kind} {fields : List (String × FieldValue)}
    (h : (fields.flatMap fun f => f.2.held).Perm pre) :
    Plants pre (Draft.add kind fields) fun id => [id] :=
  plants_add (fun _ => rfl) h

theorem plants_leaf (kind : Kind) : Plants [] (Draft.add kind) fun id => [id] :=
  plants_node (.refl _)

theorem plants_list (kind : Kind) (field : String) (ids : List NodeId) :
    Plants ids (Draft.add kind [(field, .list ids)]) fun id => [id] :=
  plants_node (by simp [FieldValue.held])

theorem plants_name (name : String) : Plants [] (Draft.addName name) fun id => [id] :=
  plants_node (.refl _)

theorem plants_unsupported (what : String) : Plants [] (Draft.addUnsupported what) fun id => [id] :=
  plants_node (.refl _)

theorem plants_macro (m : MacroCall) : Plants [] (Draft.addMacro m) fun id => [id] :=
  plants_node (.refl _)

theorem plants_assign (target value : NodeId) :
    Plants [target, value] (Draft.addAssign target value) fun id => [id] :=
  plants_node (.refl _)

theorem plants_class (name : String) (body : List NodeId) :
    Plants body (Draft.addClass name body) fun id => [id] :=
  plants_node (by simp [FieldValue.held])

theorem plants_call (func : NodeId) (args : List NodeId) :
    Plants (func :: args) (Draft.addCall func args) fun id => [id] :=
  plants_node (by simp [FieldValue.held])

theorem plants_attribute (value : NodeId) (name : String) :
    Plants [value] (Draft.addAttribute value name) fun id => [id] :=
  plants_node (.refl _)

theorem plants_literal (l : Literal) : Plants [] (Draft.addLiteral l) fun id => [id] := by
  unfold Draft.addLiteral
  cases l.scalar? with
  | some s => exact plants_node (.refl _)
  | none => exact plants_unsupported "literal"

theorem plants_parameters (names : List String) :
    Plants [] (Draft.addParameters names) fun id => [id] :=
  (plants_mapM (fun _ => plants_node (.refl _)) names).next fun args => plants_list _ _ args

theorem plants_function (s : Signature) {body : Draft (List NodeId)}
    (h : Plants [] body fun ids => ids) : Plants [] (Draft.addFunction s body) fun id => [id] :=
  (plants_parameters _).next fun args => h.next
    fun body => plants_node (by simp [FieldValue.held])

theorem plants_binary (op : BinaryOperator) (left right : NodeId) :
    Plants [left, right] (Draft.addBinary op left right) fun id => [id] := by
  cases op with
  | arithmetic op =>
    exact (plants_leaf op.kind).next fun leaf => plants_node (.cons left (.swap right leaf []))
  | boolean op =>
    exact (plants_leaf op.kind).next fun leaf => plants_node List.perm_append_comm
  | comparison op =>
    exact (plants_leaf op.kind).next fun leaf => plants_node (.cons left (.swap right leaf []))
  | augmented op =>
    exact (plants_leaf op.kind).next fun leaf => plants_node (.cons left (.swap right leaf []))

theorem plants_unary (op : UnaryOperator) (operand : NodeId) :
    Plants [operand] (Draft.addUnary op operand) fun id => [id] :=
  (plants_leaf op.kind).next fun leaf => plants_node (.swap operand leaf [])

end

mutual

theorem Pattern.plants : ∀ p : Pattern, Plants [] p.draft fun id => [id]
  | .ident name => plants_name name
  | .typed inner => inner.plants
  | .reference inner => inner.plants
  | .wild => plants_name "_"
  | .tuple items => by
    rw [Pattern.draft]
    exact (plants_patterns items).next fun items => plants_list _ _ items
  | .other => plants_unsupported "pattern"

theorem plants_patterns : ∀ ps : List Pattern, Plants [] (draftPatterns ps) fun ids => ids
  | [] => .pure rfl
  | p :: rest => by
    rw [draftPatterns]
    exact p.plants.next fun first => (plants_patterns rest).next fun others => .pure rfl

end

mutual

theorem Expr.plants : ∀ e : Expr, Plants [] e.draft fun id => [id]
  | .literal l => plants_literal l
  | .bool b => plants_node (.refl _)
  | .path p => plants_name p.text
  | .paren inner => by
    rw [Expr.draft]
    exact inner.plants
  | .binary op left right => by
    rw [Expr.draft]
    exact left.plants.next fun left => right.plants.next fun right => plants_binary op left right
  | .unary op operand => by
    rw [Expr.draft]
    exact operand.plants.next fun operand => plants_unary op operand
  | .call func args => by
    rw [Expr.draft]
    exact func.plants.next fun func => (plants_exprs args).next fun args => plants_call func args
  | .methodCall receiver method args => by
    rw [Expr.draft]
    exact receiver.plants.next fun receiver => (plants_attribute receiver method).bind
      fun func => (plants_exprs args).next fun args => plants_call func args
  | .field base member => by
    rw [Expr.draft]
    exact base.plants.next fun base => plants_attribute base member
  | .index base place => by
    rw [Expr.draft]
    exact base.plants.next fun base => place.plants.next fun place => plants_node (.refl _)
  | .tuple items => by
    rw [Expr.draft]
    exact (plants_exprs items).next fun items => plants_list _ _ items
  | .array items => by
    rw [Expr.draft]
    exact (plants_exprs items).next fun items => plants_list _ _ items
  | .block body => by
    rw [Expr.draft]
    exact (plants_stmts body).next fun body => plants_list _ _ body
  | .unsafeBlock body => by
    rw [Expr.draft]
    exact (plants_stmts body).next fun body => plants_list _ _ body
  | .ifThen test body otherwise => by
    rw [Expr.draft]
    exact test.plants.next fun test => (plants_stmts body).next fun body =>
      (plants_otherwise otherwise).next fun orelse => plants_node (by simp [FieldValue.held])
  | .whileLoop test body => by
    rw [Expr.draft]
    exact test.plants.next fun test => (plants_stmts body).next
      fun body => plants_node (by simp [FieldValue.held])
  | .forLoop target iter body => by
    rw [Expr.draft]
    exact target.plants.next fun target => iter.plants.next fun iter => (plants_stmts body).next
      fun body => plants_node (by simp [FieldValue.held])
  | .loop body => by
    rw [Expr.draft]
    exact (plants_stmts body).next fun body => plants_list _ _ body
  | .returning value => by
    rw [Expr.draft]
    refine (plants_optional value).next fun value => ?_
    cases value with
    | none => exact plants_node (.refl _)
    | some value => exact plants_node (.refl _)
  | .breaking => plants_leaf "Break"
  | .continuing => plants_leaf "Continue"
  | .assign target value => by
    rw [Expr.draft]
    exact target.plants.next fun target => value.plants.next fun value => plants_assign target value
  | .macroCall m => plants_macro m
  | .closure parameters body => by
    rw [Expr.draft]
    exact (plants_parameters _).next fun args => body.plants.next fun body => plants_node (.refl _)
  | .range lower upper => by
    rw [Expr.draft]
    refine (plants_optional lower).next fun lower => (plants_optional upper).next fun upper => ?_
    cases lower <;> cases upper <;> exact plants_node (.refl _)
  | .awaiting base => by
    rw [Expr.draft]
    exact base.plants.next fun base => plants_node (.refl _)
  | .undrawn _ => plants_unsupported "expression"

theorem plants_optional : ∀ e : Option Expr, Plants [] (draftOptional e) Option.toList
  | none => .pure rfl
  | some e => by
    rw [draftOptional]
    exact e.plants.next fun id => .pure rfl

theorem plants_otherwise : ∀ e : Option Expr, Plants [] (draftOtherwise e) fun ids => ids
  | none => .pure rfl
  | some e => by
    -- The block after an `else` gives its statements and no node of its own.
    unfold draftOtherwise
    split
    · exact .pure rfl
    · next body he =>
      cases he
      exact plants_stmts body
    · next e' _ he =>
      cases he
      exact e.plants.next fun id => .pure rfl

theorem plants_exprs : ∀ es : List Expr, Plants [] (draftExprs es) fun ids => ids
  | [] => .pure rfl
  | e :: rest => by
    rw [draftExprs]
    exact e.plants.next fun first => (plants_exprs rest).next fun others => .pure rfl

theorem Stmt.plants : ∀ s : Stmt, Plants [] s.draft fun id => [id]
  | .declaration target value => by
    rw [Stmt.draft]
    refine target.plants.next fun target => (plants_optional value).next fun value => ?_
    cases value with
    | none => exact plants_node (.refl _)
    | some value => exact plants_assign target value
  | .item i => by
    rw [Stmt.draft]
    exact i.plants
  | .expr e => by
    rw [Stmt.draft]
    refine e.plants.next fun value => ?_
    cases e.isStatement with
    | true => exact .pure rfl
    | false => exact plants_node (.refl _)
  | .macroCall m => plants_macro m

theorem plants_stmts : ∀ ss : List Stmt, Plants [] (draftStmts ss) fun ids => ids
  | [] => .pure rfl
  | s :: rest => by
    rw [draftStmts]
    exact s.plants.next fun first => (plants_stmts rest).next fun others => .pure rfl

theorem Item.plants : ∀ i : Item, Plants [] i.draft fun id => [id]
  | .function s body => by
    rw [Item.draft]
    exact plants_function s (plants_stmts body)
  | .structure name fields => by
    rw [Item.draft]
    have hfield (field : String) : Plants [] (do
        Draft.add "AnnAssign" [("target", .node (← Draft.addName field))]) fun id => [id] :=
      (plants_name field).next fun target => plants_node (.refl _)
    exact (plants_mapM hfield fields).next fun body => plants_class name body
  | .enumeration name variants => by
    rw [Item.draft]
    exact (plants_mapM plants_name variants).next fun body => plants_class name body
  | .implementation ofTrait self methods => by
    rw [Item.draft]
    exact (plants_methods methods).next fun body => plants_class _ body
  | .module name items => by
    rw [Item.draft]
    exact (plants_items items).next fun body => plants_node (by simp [FieldValue.held])
  | .binding name value => by
    rw [Item.draft]
    exact (plants_name name).next fun target => value.plants.next
      fun value => plants_assign target value
  | .use tree => plants_node (.refl _)
  | .macroCall m => plants_macro m
  | .other => plants_unsupported "item"

theorem plants_items : ∀ is : List Item, Plants [] (draftItems is) fun ids => ids
  | [] => .pure rfl
  | i :: rest => by
    rw [draftItems]
    exact i.plants.next fun first => (plants_items rest).next fun others => .pure rfl

theorem Method.plants : ∀ m : Method, Plants [] m.draft fun id => [id]
  | .mk s body => by
    rw [Method.draft]
    exact plants_function s (plants_stmts body)

theorem plants_methods : ∀ ms : List Method, Plants [] (draftMethods ms) fun ids => ids
  | [] => .pure rfl
  | m :: rest => by
    rw [draftMethods]
    exact m.plants.next fun first => (plants_methods rest).next fun others => .pure rfl

end

theorem sound_treeOfItems (items : List Item) : (treeOfItems items).Sound := by
  have hmodule : Plants [] (do
      let body ← draftItems items
      Draft.add "Module" [("body", .list body)]) fun id => [id] :=
    (plants_items items).next fun body => plants_list _ _ body
  exact hmodule.sound rfl

end SyntaxGraph.Source

import SyntaxGraph.Source.Draft
import SyntaxGraph.Source.Parse

/-!
Parentheses around expressions. They leave no node of their own, and a source text gives the tree of the
same text without parentheses, unless they stand around a whole statement: there they hide what would be
a statement of its own, which then becomes the value of an `Expr` node.
-/

namespace SyntaxGraph.Source

mutual

def Expr.bare : Expr → Expr
  | .literal l => .literal l
  | .bool b => .bool b
  | .path p => .path p
  | .paren inner => inner.bare
  | .binary op left right => .binary op left.bare right.bare
  | .unary op operand => .unary op operand.bare
  | .call func args => .call func.bare (bareExprs args)
  | .methodCall receiver method args => .methodCall receiver.bare method (bareExprs args)
  | .field base member => .field base.bare member
  | .index base place => .index base.bare place.bare
  | .tuple items => .tuple (bareExprs items)
  | .array items => .array (bareExprs items)
  | .block body => .block (bareStmts body)
  | .unsafeBlock body => .unsafeBlock (bareStmts body)
  | .ifThen test body otherwise => .ifThen test.bare (bareStmts body) (bareOptional otherwise)
  | .whileLoop test body => .whileLoop test.bare (bareStmts body)
  | .forLoop target iter body => .forLoop target iter.bare (bareStmts body)
  | .loop body => .loop (bareStmts body)
  | .returning value => .returning (bareOptional value)
  | .breaking => .breaking
  | .continuing => .continuing
  | .assign target value => .assign target.bare value.bare
  | .macroCall m => .macroCall m
  | .closure parameters body => .closure parameters body.bare
  | .range lower upper => .range (bareOptional lower) (bareOptional upper)
  | .awaiting base => .awaiting base.bare
  | .undrawn form => .undrawn form

def bareOptional : Option Expr → Option Expr
  | none => none
  | some e => some e.bare

def bareExprs : List Expr → List Expr
  | [] => []
  | e :: rest => e.bare :: bareExprs rest

def Stmt.bare : Stmt → Stmt
  | .declaration target value => .declaration target (bareOptional value)
  | .item i => .item i.bare
  | .expr e => .expr e.bare
  | .macroCall m => .macroCall m

def bareStmts : List Stmt → List Stmt
  | [] => []
  | s :: rest => s.bare :: bareStmts rest

def Item.bare : Item → Item
  | .function s body => .function s (bareStmts body)
  | .structure name fields => .structure name fields
  | .enumeration name variants => .enumeration name variants
  | .implementation ofTrait self methods => .implementation ofTrait self (bareMethods methods)
  | .module name items => .module name (bareItems items)
  | .binding name value => .binding name value.bare
  | .use tree => .use tree
  | .macroCall m => .macroCall m
  | .other => .other

def bareItems : List Item → List Item
  | [] => []
  | i :: rest => i.bare :: bareItems rest

def Method.bare : Method → Method
  | .mk s body => .mk s (bareStmts body)

def bareMethods : List Method → List Method
  | [] => []
  | m :: rest => m.bare :: bareMethods rest

end

def Expr.isBlock : Expr → Bool
  | .block _ => true
  | _ => false

/-- One if the expression passes the test only without the parentheses around it. -/
def Expr.hides (test : Expr → Bool) (e : Expr) : Nat :=
  if test e = false ∧ test e.bare = true then 1 else 0

mutual

/-- How many statements and blocks are hidden by the parentheses that stand around them. -/
def Expr.hidden : Expr → Nat
  | .paren inner => inner.hidden
  | .binary _ left right => left.hidden + right.hidden
  | .unary _ operand => operand.hidden
  | .call func args => func.hidden + hiddenExprs args
  | .methodCall receiver _ args => receiver.hidden + hiddenExprs args
  | .field base _ => base.hidden
  | .index base place => base.hidden + place.hidden
  | .tuple items => hiddenExprs items
  | .array items => hiddenExprs items
  | .block body => hiddenStmts body
  | .unsafeBlock body => hiddenStmts body
  | .ifThen test body otherwise => test.hidden + (hiddenStmts body + hiddenOtherwise otherwise)
  | .whileLoop test body => test.hidden + hiddenStmts body
  | .forLoop _ iter body => iter.hidden + hiddenStmts body
  | .loop body => hiddenStmts body
  | .returning value => hiddenOptional value
  | .assign target value => target.hidden + value.hidden
  | .closure _ body => body.hidden
  | .range lower upper => hiddenOptional lower + hiddenOptional upper
  | .awaiting base => base.hidden
  | _ => 0

def hiddenOptional : Option Expr → Nat
  | none => 0
  | some e => e.hidden

def hiddenOtherwise : Option Expr → Nat
  | none => 0
  | some e => e.hidden + e.hides Expr.isBlock

def hiddenExprs : List Expr → Nat
  | [] => 0
  | e :: rest => e.hidden + hiddenExprs rest

def Stmt.hidden : Stmt → Nat
  | .declaration _ value => hiddenOptional value
  | .item i => i.hidden
  | .expr e => e.hidden + e.hides Expr.isStatement
  | .macroCall _ => 0

def hiddenStmts : List Stmt → Nat
  | [] => 0
  | s :: rest => s.hidden + hiddenStmts rest

def Item.hidden : Item → Nat
  | .function _ body => hiddenStmts body
  | .implementation _ _ methods => hiddenMethods methods
  | .module _ items => hiddenItems items
  | .binding _ value => value.hidden
  | _ => 0

def hiddenItems : List Item → Nat
  | [] => 0
  | i :: rest => i.hidden + hiddenItems rest

def Method.hidden : Method → Nat
  | .mk _ body => hiddenStmts body

def hiddenMethods : List Method → Nat
  | [] => 0
  | m :: rest => m.hidden + hiddenMethods rest

end

/-- The second draft adds `n` nodes to every tree, and the first one `extra` nodes more; if there are none
of these the drafts are the same. -/
structure Beside {α : Type} (x y : Draft α) (n extra : Nat) : Prop where
  same : extra = 0 → x = y
  size : ∀ t, (y t).2.size = t.size + n
  size_extra : ∀ t, (x t).2.size = t.size + n + extra

section

variable {α β : Type} {x y : Draft α} {f g : α → Draft β} {n m k j : Nat}

theorem Beside.of_size (h : ∀ t, (x t).2.size = t.size + n) : Beside x x n 0 :=
  ⟨fun _ => rfl, h, h⟩

theorem Beside.pure (a : α) : Beside (Pure.pure a) (Pure.pure a) 0 0 :=
  .of_size fun _ => rfl

theorem Beside.bind (hx : Beside x y n k) (hf : ∀ a, Beside (f a) (g a) m j) :
    Beside (x >>= f) (y >>= g) (n + m) (k + j) := by
  constructor
  · intro h
    obtain ⟨hk, hj⟩ : k = 0 ∧ j = 0 := by omega
    have hfg : f = g := funext fun a => (hf a).same hj
    rw [hx.same hk, hfg]
  · intro t
    have hsize := (hf (y t).1).size (y t).2
    rw [hx.size t] at hsize
    exact hsize.trans (Nat.add_assoc _ _ _)
  · intro t
    have hsize := (hf (x t).1).size_extra (x t).2
    rw [hx.size_extra t] at hsize
    change (f (x t).1 (x t).2).2.size = _
    omega

theorem Beside.next (hx : Beside x x n 0) (hf : ∀ a, Beside (f a) (g a) m k) :
    Beside (x >>= f) (x >>= g) (n + m) k :=
  Nat.zero_add k ▸ hx.bind hf

theorem beside_add (kind : Kind) (fields : List (String × FieldValue)) :
    Beside (Draft.add kind fields) (Draft.add kind fields) 1 0 :=
  .of_size fun t => t.size_add _

theorem beside_wrapped (kind : Kind) (fields : List (String × FieldValue)) (id : NodeId) :
    Beside (Draft.add kind fields) (Pure.pure id) 0 1 :=
  ⟨nofun, fun _ => rfl, fun t => t.size_add _⟩

theorem beside_mapM {f : α → Draft β} (hf : ∀ a, Beside (f a) (f a) m 0) (as : List α) :
    Beside (as.mapM f) (as.mapM f) (m * as.length) 0 := by
  induction as with
  | nil =>
    rw [List.mapM_nil]
    exact .pure []
  | cons a as ih =>
    have h := (hf a).bind fun b => ih.bind fun bs => .pure (b :: bs)
    rw [List.mapM_cons, List.length_cons, Nat.mul_succ, Nat.add_comm]
    exact h

theorem beside_literal (l : Literal) : Beside (Draft.addLiteral l) (Draft.addLiteral l) 1 0 := by
  unfold Draft.addLiteral
  cases l.scalar? with
  | some s => exact beside_add _ _
  | none => exact beside_add _ _

theorem beside_parameters (names : List String) :
    Beside (Draft.addParameters names) (Draft.addParameters names) (1 * names.length + 1) 0 :=
  (beside_mapM (fun _ => beside_add _ _) names).bind fun _ => beside_add _ _

theorem beside_function (s : Signature) {body body' : Draft (List NodeId)} (h : Beside body body' n k) :
    ∃ n, Beside (Draft.addFunction s body) (Draft.addFunction s body') n k :=
  ⟨_, (beside_parameters _).next fun _ => h.bind fun _ => beside_add _ _⟩

theorem beside_binary (op : BinaryOperator) (left right : NodeId) :
    Beside (Draft.addBinary op left right) (Draft.addBinary op left right) 2 0 := by
  cases op with
  | arithmetic op => exact (beside_add _ _).bind fun leaf => beside_add _ _
  | boolean op => exact (beside_add _ _).bind fun leaf => beside_add _ _
  | comparison op => exact (beside_add _ _).bind fun leaf => beside_add _ _
  | augmented op => exact (beside_add _ _).bind fun leaf => beside_add _ _

theorem beside_unary (op : UnaryOperator) (operand : NodeId) :
    Beside (Draft.addUnary op operand) (Draft.addUnary op operand) 2 0 :=
  (beside_add _ _).bind fun _ => beside_add _ _

end

theorem hides_eq_zero {test : Expr → Bool} {e : Expr} (h : test e = test e.bare) : e.hides test = 0 := by
  unfold Expr.hides
  rw [if_neg]
  rintro ⟨hfalse, htrue⟩
  rw [h, htrue] at hfalse
  cases hfalse

theorem isStatement_bare {e : Expr} (h : e.isStatement = true) : e.bare.isStatement = true := by
  cases e with
  | ifThen | whileLoop | forLoop | loop | returning | breaking | continuing | assign => rfl
  | binary op left right => cases op <;> first | rfl | cases h
  | _ => cases h

theorem isBlock_eq_true {e : Expr} (h : e.isBlock = true) : ∃ body, e = .block body := by
  cases e with
  | block body => exact ⟨body, rfl⟩
  | _ => cases h

theorem draftOtherwise_of_not_isBlock {e : Expr} (h : e.isBlock = false) :
    draftOtherwise (some e) = do return [← e.draft] := by
  cases e with
  | block => cases h
  | _ => rfl

theorem beside_statement {e : Expr} {n : Nat} (h : Beside e.draft e.bare.draft n e.hidden) :
    ∃ n, Beside (Stmt.expr e).draft (Stmt.expr e.bare).draft n (Stmt.expr e).hidden := by
  rw [Stmt.draft, Stmt.draft, Stmt.hidden]
  by_cases hs : e.isStatement = true
  · rw [hides_eq_zero (hs.trans (isStatement_bare hs).symm), hs, isStatement_bare hs]
    exact ⟨_, h.bind fun value => .pure value⟩
  · rw [Bool.not_eq_true] at hs
    by_cases hb : e.bare.isStatement = true
    · -- only behind its parentheses is the statement wrapped into an `Expr` node
      have hhides : e.hides Expr.isStatement = 1 := if_pos ⟨hs, hb⟩
      rw [hs, hb, hhides]
      exact ⟨_, h.bind fun value => beside_wrapped _ _ value⟩
    · rw [Bool.not_eq_true] at hb
      rw [hides_eq_zero (hs.trans hb.symm), hs, hb]
      exact ⟨_, h.bind fun value => beside_add _ _⟩

theorem beside_branch {e : Expr} {n : Nat} (h : Beside e.draft e.bare.draft n e.hidden)
    (he : e.isBlock = false) :
    ∃ n, Beside (draftOtherwise (some e)) (draftOtherwise (some e.bare)) n (hiddenOtherwise (some e)) := by
  have hwrapped := h.bind fun id => .pure [id]
  rw [draftOtherwise_of_not_isBlock he, hiddenOtherwise]
  by_cases hb : e.bare.isBlock = true
  · -- behind parentheses the block leaves its node after the `else`, without them only its statements
    obtain ⟨body, hbody⟩ := isBlock_eq_true hb
    have hhides : e.hides Expr.isBlock = 1 := if_pos ⟨he, hb⟩
    have hsize (t : Tree) : (draftStmts body t).2.size + 1 = t.size + n := by
      have hblock := h.size t
      rw [hbody, Expr.draft] at hblock
      rw [← hblock]
      exact (Tree.size_add _ _).symm
    have hn : 0 < n := by
      have hempty := hsize .empty
      change _ = 0 + n at hempty
      omega
    rw [hhides, hbody]
    refine ⟨n - 1, fun hzero => absurd hzero (Nat.succ_ne_zero _), fun t => ?_, fun t => ?_⟩
    · have hbare := hsize t
      change (draftStmts body t).2.size = _
      omega
    · have hextra := hwrapped.size_extra t
      omega
  · rw [Bool.not_eq_true] at hb
    rw [draftOtherwise_of_not_isBlock hb, hides_eq_zero (he.trans hb.symm)]
    exact ⟨_, hwrapped⟩

mutual

theorem Pattern.beside : ∀ p : Pattern, ∃ n, Beside p.draft p.draft n 0
  | .ident _ => ⟨1, beside_add _ _⟩
  | .typed inner => inner.beside
  | .reference inner => inner.beside
  | .wild => ⟨1, beside_add _ _⟩
  | .tuple items => by
    obtain ⟨n, h⟩ := beside_patterns items
    rw [Pattern.draft]
    exact ⟨_, h.bind fun items => beside_add _ _⟩
  | .other => ⟨1, beside_add _ _⟩

theorem beside_patterns : ∀ ps : List Pattern, ∃ n, Beside (draftPatterns ps) (draftPatterns ps) n 0
  | [] => ⟨0, .pure []⟩
  | p :: rest => by
    obtain ⟨n, h⟩ := p.beside
    obtain ⟨nr, hr⟩ := beside_patterns rest
    rw [draftPatterns]
    exact ⟨_, h.bind fun first => hr.bind fun others => .pure (first :: others)⟩

end

mutual

theorem Expr.beside : ∀ e : Expr, ∃ n, Beside e.draft e.bare.draft n e.hidden
  | .literal l => ⟨1, beside_literal l⟩
  | .bool _ => ⟨1, beside_add _ _⟩
  | .path _ => ⟨1, beside_add _ _⟩
  | .paren inner => by
    rw [Expr.draft, Expr.bare, Expr.hidden]
    exact inner.beside
  | .binary op left right => by
    obtain ⟨nl, hl⟩ := left.beside
    obtain ⟨nr, hr⟩ := right.beside
    rw [Expr.bare, Expr.draft, Expr.draft, Expr.hidden]
    exact ⟨_, hl.bind fun left => hr.bind fun right => beside_binary op left right⟩
  | .unary op operand => by
    obtain ⟨n, h⟩ := operand.beside
    rw [Expr.bare, Expr.draft, Expr.draft, Expr.hidden]
    exact ⟨_, h.bind fun operand => beside_unary op operand⟩
  | .call func args => by
    obtain ⟨nf, hf⟩ := func.beside
    obtain ⟨na, ha⟩ := beside_exprs args
    rw [Expr.bare, Expr.draft, Expr.draft, Expr.hidden]
    exact ⟨_, hf.bind fun func => ha.bind fun args => beside_add _ _⟩
  | .methodCall receiver method args => by
    obtain ⟨nr, hr⟩ := receiver.beside
    obtain ⟨na, ha⟩ := beside_exprs args
    rw [Expr.bare, Expr.draft, Expr.draft, Expr.hidden]
    exact ⟨_, hr.bind fun receiver => .next (beside_add _ _) fun func => ha.bind fun args => beside_add _ _⟩
  | .field base member => by
    obtain ⟨n, h⟩ := base.beside
    rw [Expr.bare, Expr.draft, Expr.draft, Expr.hidden]
    exact ⟨_, h.bind fun base => beside_add _ _⟩
  | .index base place => by
    obtain ⟨nb, hb⟩ := base.beside
    obtain ⟨np, hp⟩ := place.beside
    rw [Expr.bare, Expr.draft, Expr.draft, Expr.hidden]
    exact ⟨_, hb.bind fun base => hp.bind fun place => beside_add _ _⟩
  | .tuple items => by
    obtain ⟨n, h⟩ := beside_exprs items
    rw [Expr.bare, Expr.draft, Expr.draft, Expr.hidden]
    exact ⟨_, h.bind fun items => beside_add _ _⟩
  | .array items => by
    obtain ⟨n, h⟩ := beside_exprs items
    rw [Expr.bare, Expr.draft, Expr.draft, Expr.hidden]
    exact ⟨_, h.bind fun items => beside_add _ _⟩
  | .block body => by
    obtain ⟨n, h⟩ := beside_stmts body
    rw [Expr.bare, Expr.draft, Expr.draft, Expr.hidden]
    exact ⟨_, h.bind fun body => beside_add _ _⟩
  | .unsafeBlock body => by
    obtain ⟨n, h⟩ := beside_stmts body
    rw [Expr.bare, Expr.draft, Expr.draft, Expr.hidden]
    exact ⟨_, h.bind fun body => beside_add _ _⟩
  | .ifThen test body otherwise => by
    obtain ⟨nt, ht⟩ := test.beside
    obtain ⟨nb, hb⟩ := beside_stmts body
    obtain ⟨no, ho⟩ := beside_otherwise otherwise
    rw [Expr.bare, Expr.draft, Expr.draft, Expr.hidden]
    exact ⟨_, ht.bind fun test => hb.bind fun body => ho.bind fun orelse => beside_add _ _⟩
  | .whileLoop test body => by
    obtain ⟨nt, ht⟩ := test.beside
    obtain ⟨nb, hb⟩ := beside_stmts body
    rw [Expr.bare, Expr.draft, Expr.draft, Expr.hidden]
    exact ⟨_, ht.bind fun test => hb.bind fun body => beside_add _ _⟩
  | .forLoop target iter body => by
    obtain ⟨nt, ht⟩ := target.beside
    obtain ⟨ni, hi⟩ := iter.beside
    obtain ⟨nb, hb⟩ := beside_stmts body
    rw [Expr.bare, Expr.draft, Expr.draft, Expr.hidden]
    exact ⟨_, ht.next fun target => hi.bind fun iter => hb.bind fun body => beside_add _ _⟩
  | .loop body => by
    obtain ⟨n, h⟩ := beside_stmts body
    rw [Expr.bare, Expr.draft, Expr.draft, Expr.hidden]
    exact ⟨_, h.bind fun body => beside_add _ _⟩
  | .returning value => by
    obtain ⟨n, h⟩ := beside_optional value
    rw [Expr.bare, Expr.draft, Expr.draft, Expr.hidden]
    exact ⟨_, h.bind fun value => beside_add _ _⟩
  | .breaking => ⟨1, beside_add _ _⟩
  | .continuing => ⟨1, beside_add _ _⟩
  | .assign target value => by
    obtain ⟨nt, ht⟩ := target.beside
    obtain ⟨nv, hv⟩ := value.beside
    rw [Expr.bare, Expr.draft, Expr.draft, Expr.hidden]
    exact ⟨_, ht.bind fun target => hv.bind fun value => beside_add _ _⟩
  | .macroCall m => ⟨1, beside_add _ _⟩
  | .closure parameters body => by
    obtain ⟨n, h⟩ := body.beside
    rw [Expr.bare, Expr.draft, Expr.draft, Expr.hidden]
    exact ⟨_, (beside_parameters _).next fun args => h.bind fun body => beside_add _ _⟩
  | .range lower upper => by
    obtain ⟨nl, hl⟩ := beside_optional lower
    obtain ⟨nu, hu⟩ := beside_optional upper
    rw [Expr.bare, Expr.draft, Expr.draft, Expr.hidden]
    exact ⟨_, hl.bind fun lower => hu.bind fun upper => beside_add _ _⟩
  | .awaiting base => by
    obtain ⟨n, h⟩ := base.beside
    rw [Expr.bare, Expr.draft, Expr.draft, Expr.hidden]
    exact ⟨_, h.bind fun base => beside_add _ _⟩
  | .undrawn _ => ⟨1, beside_add _ _⟩

theorem beside_optional : ∀ e : Option Expr,
    ∃ n, Beside (draftOptional e) (draftOptional (bareOptional e)) n (hiddenOptional e)
  | none => ⟨0, .pure none⟩
  | some e => by
    obtain ⟨n, h⟩ := e.beside
    rw [bareOptional, draftOptional, draftOptional, hiddenOptional]
    exact ⟨_, h.bind fun id => .pure (some id)⟩

theorem beside_otherwise : ∀ e : Option Expr,
    ∃ n, Beside (draftOtherwise e) (draftOtherwise (bareOptional e)) n (hiddenOtherwise e)
  | none => ⟨0, .pure []⟩
  | some e => by
    by_cases he : e.isBlock = true
    · obtain ⟨body, rfl⟩ := isBlock_eq_true he
      exact beside_stmts body
    · obtain ⟨n, h⟩ := e.beside
      exact beside_branch h (Bool.not_eq_true _ ▸ he)

theorem beside_exprs : ∀ es : List Expr,
    ∃ n, Beside (draftExprs es) (draftExprs (bareExprs es)) n (hiddenExprs es)
  | [] => ⟨0, .pure []⟩
  | e :: rest => by
    obtain ⟨n, h⟩ := e.beside
    obtain ⟨nr, hr⟩ := beside_exprs rest
    rw [bareExprs, draftExprs, draftExprs, hiddenExprs]
    exact ⟨_, h.bind fun first => hr.bind fun others => .pure (first :: others)⟩

theorem Stmt.beside : ∀ s : Stmt, ∃ n, Beside s.draft s.bare.draft n s.hidden
  | .declaration target value => by
    obtain ⟨nt, ht⟩ := target.beside
    obtain ⟨nv, hv⟩ := beside_optional value
    rw [Stmt.bare, Stmt.draft, Stmt.draft, Stmt.hidden]
    refine ⟨nt + (nv + 1), ht.next fun target => hv.bind (j := 0) fun value => ?_⟩
    cases value <;> exact beside_add _ _
  | .item i => by
    obtain ⟨n, h⟩ := i.beside
    exact ⟨n, h⟩
  | .expr e => by
    obtain ⟨n, h⟩ := e.beside
    exact beside_statement h
  | .macroCall m => ⟨1, beside_add _ _⟩

theorem beside_stmts : ∀ ss : List Stmt,
    ∃ n, Beside (draftStmts ss) (draftStmts (bareStmts ss)) n (hiddenStmts ss)
  | [] => ⟨0, .pure []⟩
  | s :: rest => by
    obtain ⟨n, h⟩ := s.beside
    obtain ⟨nr, hr⟩ := beside_stmts rest
    rw [bareStmts, draftStmts, draftStmts, hiddenStmts]
    exact ⟨_, h.bind fun first => hr.bind fun others => .pure (first :: others)⟩

theorem Item.beside : ∀ i : Item, ∃ n, Beside i.draft i.bare.draft n i.hidden
  | .function s body => by
    obtain ⟨n, h⟩ := beside_stmts body
    rw [Item.bare, Item.draft, Item.draft, Item.hidden]
    exact beside_function s h
  | .structure name fields => by
    have hfield (field : String) : Beside (do
        Draft.add "AnnAssign" [("target", .node (← Draft.addName field))]) _ 2 0 :=
      .bind (beside_add _ _) fun target => beside_add _ _
    rw [Item.bare, Item.draft]
    exact ⟨_, (beside_mapM hfield fields).bind fun body => beside_add _ _⟩
  | .enumeration name variants => by
    rw [Item.bare, Item.draft]
    exact ⟨_, (beside_mapM (fun _ => beside_add _ _) variants).bind fun body => beside_add _ _⟩
  | .implementation ofTrait self methods => by
    obtain ⟨n, h⟩ := beside_methods methods
    rw [Item.bare, Item.draft, Item.draft, Item.hidden]
    exact ⟨_, h.bind fun body => beside_add _ _⟩
  | .module name items => by
    obtain ⟨n, h⟩ := beside_items items
    rw [Item.bare, Item.draft, Item.draft, Item.hidden]
    exact ⟨_, h.bind fun body => beside_add _ _⟩
  | .binding name value => by
    obtain ⟨n, h⟩ := value.beside
    rw [Item.bare, Item.draft, Item.draft, Item.hidden]
    exact ⟨_, .next (beside_add _ _) fun target => h.bind fun value => beside_add _ _⟩
  | .use tree => ⟨1, beside_add _ _⟩
  | .macroCall m => ⟨1, beside_add _ _⟩
  | .other => ⟨1, beside_add _ _⟩

theorem beside_items : ∀ is : List Item,
    ∃ n, Beside (draftItems is) (draftItems (bareItems is)) n (hiddenItems is)
  | [] => ⟨0, .pure []⟩
  | i :: rest => by
    obtain ⟨n, h⟩ := i.beside
    obtain ⟨nr, hr⟩ := beside_items rest
    rw [bareItems, draftItems, draftItems, hiddenItems]
    exact ⟨_, h.bind fun first => hr.bind fun others => .pure (first :: others)⟩

theorem Method.beside : ∀ m : Method, ∃ n, Beside m.draft m.bare.draft n m.hidden
  | .mk s body => by
    obtain ⟨n, h⟩ := beside_stmts body
    rw [Method.bare, Method.draft, Method.draft, Method.hidden]
    exact beside_function s h

theorem beside_methods : ∀ ms : List Method,
    ∃ n, Beside (draftMethods ms) (draftMethods (bareMethods ms)) n (hiddenMethods ms)
  | [] => ⟨0, .pure []⟩
  | m :: rest => by
    obtain ⟨n, h⟩ := m.beside
    obtain ⟨nr, hr⟩ := beside_methods rest
    rw [bareMethods, draftMethods, draftMethods, hiddenMethods]
    exact ⟨_, h.bind fun first => hr.bind fun others => .pure (first :: others)⟩

end

theorem treeOfItems_bareItems (items : List Item) :
    (treeOfItems items).size = (treeOfItems (bareItems items)).size + hiddenItems items ∧
      (treeOfItems items = treeOfItems (bareItems items) ↔ hiddenItems items = 0) := by
  obtain ⟨n, h⟩ := beside_items items
  have hmodule : Beside (do
      let body ← draftItems items
      Draft.add "Module" [("body", .list body)]) (do
      let body ← draftItems (bareItems items)
      Draft.add "Module" [("body", .list body)]) (n + 1) (hiddenItems items) :=
    h.bind fun body => beside_add _ _
  have hsize : (treeOfItems items).size = (treeOfItems (bareItems items)).size + hiddenItems items := by
    have hbare : (treeOfItems (bareItems items)).size = 0 + (n + 1) := hmodule.size .empty
    rw [hbare]
    exact hmodule.size_extra .empty
  refine ⟨hsize, fun hsame => ?_, fun hzero => ?_⟩
  · rw [hsame] at hsize
    omega
  · unfold treeOfItems
    rw [hmodule.same hzero]

def bareReturn : Tree where
  nodes := #[⟨"arguments", [("args", .list [])]⟩, ⟨"Return", [("value", .scalar .absent)]⟩,
    ⟨"FunctionDef", [("name", .scalar (.str "f")), ("args", .node ⟨0⟩), ("body", .list [⟨1⟩])]⟩,
    ⟨"Module", [("body", .list [⟨2⟩])]⟩]
  root := some ⟨3⟩

def parenthesizedReturn : Tree where
  nodes := #[⟨"arguments", [("args", .list [])]⟩, ⟨"Return", [("value", .scalar .absent)]⟩,
    ⟨"Expr", [("value", .node ⟨1⟩)]⟩,
    ⟨"FunctionDef", [("name", .scalar (.str "f")), ("args", .node ⟨0⟩), ("body", .list [⟨2⟩])]⟩,
    ⟨"Module", [("body", .list [⟨3⟩])]⟩]
  root := some ⟨4⟩

theorem treeOfItems_parenthesizedReturn :
    let items := (parse "fn f() \x7b (return); \x7d").toOption
    items.map treeOfItems = some parenthesizedReturn ∧
      items.map (fun items => treeOfItems (bareItems items)) = some bareReturn ∧
      (parse "fn f() \x7b return; \x7d").toOption.map treeOfItems = some bareReturn ∧
      parenthesizedReturn ≠ bareReturn := by
  decide +kernel

end SyntaxGraph.Source

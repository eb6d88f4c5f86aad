import SyntaxGraph.Proofs.Source.Fitting
import SyntaxGraph.Proofs.Tree.Constants

namespace SyntaxGraph.Source

theorem denotes_integerScalar (n : Nat) : (integerScalar n).Denotes n := by
  unfold integerScalar
  split
  · next hlt =>
    have hn : n.toUInt64.toNat = n := UInt64.toNat_ofNat_of_lt' hlt
    have h := Scalar.denotes_ofUInt64 n.toUInt64
    rwa [hn] at h
  · next hge =>
    have hle : Nat.pow 2 63 ≤ Nat.pow 2 64 := by decide
    constructor
    case signed => omega
    case unsigned => omega
    case digits => exact fun _ => rfl

def Expr.scalar? : Expr → Option Scalar
  | .literal l => l.scalar?
  | .bool b => some (.bool b)
  | _ => none

def Expr.integer? : Expr → Option Nat
  | .literal (.integer n _) => some n
  | _ => none

theorem Expr.exists_scalar {e : Expr} {n : Nat} (h : e.integer? = some n) :
    ∃ s, e.scalar? = some s ∧ s.Denotes n := by
  unfold Expr.integer? at h
  split at h
  · cases h
    exact ⟨_, rfl, denotes_integerScalar n⟩
  · cases h

mutual

def Expr.constants : Expr → List Expr
  | .literal l => if l.scalar?.isSome then [.literal l] else []
  | .bool b => [.bool b]
  | .paren inner => inner.constants
  | .binary _ left right => left.constants ++ right.constants
  | .unary _ operand => operand.constants
  | .call func args => func.constants ++ constantsOfExprs args
  | .methodCall receiver _ args => receiver.constants ++ constantsOfExprs args
  | .field base _ => base.constants
  | .index base place => base.constants ++ place.constants
  | .tuple items => constantsOfExprs items
  | .array items => constantsOfExprs items
  | .block body => constantsOfStmts body
  | .unsafeBlock body => constantsOfStmts body
  | .ifThen test body otherwise =>
    test.constants ++ (constantsOfStmts body ++ constantsOfOptional otherwise)
  | .whileLoop test body => test.constants ++ constantsOfStmts body
  | .forLoop _ iter body => iter.constants ++ constantsOfStmts body
  | .loop body => constantsOfStmts body
  | .returning value => constantsOfOptional value
  | .assign target value => target.constants ++ value.constants
  | .closure _ body => body.constants
  | .range lower upper => constantsOfOptional lower ++ constantsOfOptional upper
  | .awaiting base => base.constants
  | _ => []

def constantsOfOptional : Option Expr → List Expr
  | none => []
  | some e => e.constants

def constantsOfExprs : List Expr → List Expr
  | [] => []
  | e :: rest => e.constants ++ constantsOfExprs rest

def Stmt.constants : Stmt → List Expr
  | .declaration _ value => constantsOfOptional value
  | .item i => i.constants
  | .expr e => e.constants
  | .macroCall _ => []

def constantsOfStmts : List Stmt → List Expr
  | [] => []
  | s :: rest => s.constants ++ constantsOfStmts rest

def Item.constants : Item → List Expr
  | .function _ body => constantsOfStmts body
  | .implementation _ _ methods => constantsOfMethods methods
  | .module _ items => constantsOfItems items
  | .binding _ value => value.constants
  | _ => []

def constantsOfItems : List Item → List Expr
  | [] => []
  | i :: rest => i.constants ++ constantsOfItems rest

def Method.constants : Method → List Expr
  | .mk _ body => constantsOfStmts body

def constantsOfMethods : List Method → List Expr
  | [] => []
  | m :: rest => m.constants ++ constantsOfMethods rest

end

section

variable {α β : Type} {x : Draft α} {f : α → Draft β} {literals more : List Expr}

def Carries (x : Draft α) (literals : List Expr) : Prop :=
  Stores x (literals.map Expr.scalar?) fun _ => True

theorem Carries.pure {a : α} : Carries (Pure.pure a) [] :=
  Stores.pure trivial

theorem Carries.next (hx : Carries x literals) (hf : ∀ a, Carries (f a) more) :
    Carries (x >>= f) (literals ++ more) := by
  have h := Stores.bind hx fun a _ => hf a
  rwa [← List.map_append] at h

theorem Carries.last (hx : Carries x literals) (hf : ∀ a, Carries (f a) []) : Carries (x >>= f) literals :=
  Stores.last hx fun a _ => hf a

theorem carries_node {kind : Kind} (h : kind ≠ "Constant") (fields : List (String × FieldValue)) :
    Carries (Draft.add kind fields) [] := by
  have hadd : Stores (Draft.add kind fields) _ fun _ => True := stores_add fun _ => rfl
  rwa [if_neg h] at hadd

theorem carries_constant {e : Expr} {s : Scalar} (h : e.scalar? = some s) :
    Carries (Draft.add "Constant" [("value", .scalar s)]) [e] := by
  have hadd : Stores (Draft.add "Constant" [("value", .scalar s)]) _ fun _ => True := stores_add fun _ => rfl
  rw [if_pos rfl] at hadd
  rw [Carries, List.map_singleton, h]
  exact hadd

theorem carries_mapM {f : β → Draft NodeId} (hf : ∀ b, Carries (f b) []) (bs : List β) :
    Carries (bs.mapM f) [] :=
  stores_mapM hf bs

theorem carries_name (name : String) : Carries (Draft.addName name) [] :=
  carries_node (by decide) _

theorem carries_unsupported (what : String) : Carries (Draft.addUnsupported what) [] :=
  carries_node (by decide) _

theorem carries_macro (m : MacroCall) : Carries (Draft.addMacro m) [] :=
  carries_node (by decide) _

theorem carries_assign (target value : NodeId) : Carries (Draft.addAssign target value) [] :=
  carries_node (by decide) _

theorem carries_class (name : String) (body : List NodeId) : Carries (Draft.addClass name body) [] :=
  carries_node (by decide) _

theorem carries_call (func : NodeId) (args : List NodeId) : Carries (Draft.addCall func args) [] :=
  carries_node (by decide) _

theorem carries_attribute (value : NodeId) (name : String) : Carries (Draft.addAttribute value name) [] :=
  carries_node (by decide) _

theorem carries_literal (l : Literal) : Carries (Draft.addLiteral l) (Expr.literal l).constants := by
  unfold Draft.addLiteral Expr.constants
  cases hs : l.scalar? with
  | some s => exact carries_constant hs
  | none => exact carries_unsupported "literal"

theorem carries_parameters (names : List String) : Carries (Draft.addParameters names) [] :=
  (carries_mapM (fun _ => carries_node (by decide) _) names).last fun _ => carries_node (by decide) _

theorem carries_function (s : Signature) {body : Draft (List NodeId)} (h : Carries body literals) :
    Carries (Draft.addFunction s body) literals := by
  have hkind : (if s.isAsync then "AsyncFunctionDef" else "FunctionDef") ≠ "Constant" := by
    cases s.isAsync <;> decide
  exact (carries_parameters _).next fun _ => h.last fun _ => carries_node hkind _

theorem carries_leaf {family kind : Kind} (hf : family ∈ operatorFamilies) (hk : kind ∈ familyOf family) :
    Carries (Draft.add kind) [] := by
  have hoperator : ∀ family ∈ operatorFamilies, ∀ kind ∈ familyOf family, kind ≠ "Constant" := by
    decide +kernel
  exact carries_node (hoperator family hf kind hk) _

theorem carries_binary (op : BinaryOperator) (left right : NodeId) :
    Carries (Draft.addBinary op left right) [] := by
  cases op with
  | arithmetic op => exact (carries_leaf (by decide) op.kind_mem).last fun _ => carries_node (by decide) _
  | boolean op => exact (carries_leaf (by decide) op.kind_mem).last fun _ => carries_node (by decide) _
  | comparison op => exact (carries_leaf (by decide) op.kind_mem).last fun _ => carries_node (by decide) _
  | augmented op => exact (carries_leaf (by decide) op.kind_mem).last fun _ => carries_node (by decide) _

theorem carries_unary (op : UnaryOperator) (operand : NodeId) : Carries (Draft.addUnary op operand) [] :=
  (carries_leaf (by decide) op.kind_mem).last fun _ => carries_node (by decide) _

end

mutual

theorem Pattern.carries : ∀ p : Pattern, Carries p.draft []
  | .ident name => carries_name name
  | .typed inner => inner.carries
  | .reference inner => inner.carries
  | .wild => carries_name "_"
  | .tuple items => by
    rw [Pattern.draft]
    exact (carries_patterns items).last fun _ => carries_node (by decide) _
  | .other => carries_unsupported "pattern"

theorem carries_patterns : ∀ ps : List Pattern, Carries (draftPatterns ps) []
  | [] => .pure
  | p :: rest => by
    rw [draftPatterns]
    exact p.carries.last fun _ => (carries_patterns rest).last fun _ => .pure

end

mutual

theorem Expr.carries : ∀ e : Expr, Carries e.draft e.constants
  | .literal l => carries_literal l
  | .bool b => carries_constant rfl
  | .path p => carries_name p.text
  | .paren inner => by
    rw [Expr.draft, Expr.constants]
    exact inner.carries
  | .binary op left right => by
    rw [Expr.draft, Expr.constants]
    exact left.carries.next fun left => right.carries.last fun right => carries_binary op left right
  | .unary op operand => by
    rw [Expr.draft, Expr.constants]
    exact operand.carries.last fun operand => carries_unary op operand
  | .call func args => by
    rw [Expr.draft, Expr.constants]
    exact func.carries.next fun func => (carries_exprs args).last fun args => carries_call func args
  | .methodCall receiver method args => by
    rw [Expr.draft, Expr.constants]
    exact receiver.carries.next fun receiver => (carries_attribute receiver method).next
      fun func => (carries_exprs args).last fun args => carries_call func args
  | .field base member => by
    rw [Expr.draft, Expr.constants]
    exact base.carries.last fun base => carries_attribute base member
  | .index base place => by
    rw [Expr.draft, Expr.constants]
    exact base.carries.next fun base => place.carries.last fun place => carries_node (by decide) _
  | .tuple items => by
    rw [Expr.draft, Expr.constants]
    exact (carries_exprs items).last fun items => carries_node (by decide) _
  | .array items => by
    rw [Expr.draft, Expr.constants]
    exact (carries_exprs items).last fun items => carries_node (by decide) _
  | .block body => by
    rw [Expr.draft, Expr.constants]
    exact (carries_stmts body).last fun body => carries_node (by decide) _
  | .unsafeBlock body => by
    rw [Expr.draft, Expr.constants]
    exact (carries_stmts body).last fun body => carries_node (by decide) _
  | .ifThen test body otherwise => by
    rw [Expr.draft, Expr.constants]
    exact test.carries.next fun test => (carries_stmts body).next fun body =>
      (carries_otherwise otherwise).last fun orelse => carries_node (by decide) _
  | .whileLoop test body => by
    rw [Expr.draft, Expr.constants]
    exact test.carries.next fun test => (carries_stmts body).last fun body => carries_node (by decide) _
  | .forLoop target iter body => by
    rw [Expr.draft, Expr.constants]
    exact target.carries.next fun target => iter.carries.next fun iter => (carries_stmts body).last
      fun body => carries_node (by decide) _
  | .loop body => by
    rw [Expr.draft, Expr.constants]
    exact (carries_stmts body).last fun body => carries_node (by decide) _
  | .returning value => by
    rw [Expr.draft, Expr.constants]
    exact (carries_optional value).last fun value => carries_node (by decide) _
  | .breaking => carries_node (by decide) _
  | .continuing => carries_node (by decide) _
  | .assign target value => by
    rw [Expr.draft, Expr.constants]
    exact target.carries.next fun target => value.carries.last fun value => carries_assign target value
  | .macroCall m => carries_macro m
  | .closure parameters body => by
    rw [Expr.draft, Expr.constants]
    exact (carries_parameters _).next fun args => body.carries.last fun body => carries_node (by decide) _
  | .range lower upper => by
    rw [Expr.draft, Expr.constants]
    exact (carries_optional lower).next fun lower => (carries_optional upper).last
      fun upper => carries_node (by decide) _
  | .awaiting base => by
    rw [Expr.draft, Expr.constants]
    exact base.carries.last fun base => carries_node (by decide) _
  | .undrawn _ => carries_unsupported "expression"

theorem carries_optional : ∀ e : Option Expr, Carries (draftOptional e) (constantsOfOptional e)
  | none => .pure
  | some e => by
    rw [draftOptional, constantsOfOptional]
    exact e.carries.last fun _ => .pure

theorem carries_otherwise : ∀ e : Option Expr, Carries (draftOtherwise e) (constantsOfOptional e)
  | none => .pure
  | some e => by
    unfold draftOtherwise constantsOfOptional
    split
    · next he => cases he
    · next body he =>
      cases he
      rw [Expr.constants]
      exact carries_stmts body
    · next e' _ he =>
      cases he
      exact e.carries.last fun _ => .pure

theorem carries_exprs : ∀ es : List Expr, Carries (draftExprs es) (constantsOfExprs es)
  | [] => .pure
  | e :: rest => by
    rw [draftExprs, constantsOfExprs]
    exact e.carries.next fun first => (carries_exprs rest).last fun others => .pure

theorem Stmt.carries : ∀ s : Stmt, Carries s.draft s.constants
  | .declaration target value => by
    rw [Stmt.draft, Stmt.constants]
    refine target.carries.next fun target => (carries_optional value).last fun value => ?_
    cases value with
    | none => exact carries_node (by decide) _
    | some value => exact carries_assign target value
  | .item i => by
    rw [Stmt.draft, Stmt.constants]
    exact i.carries
  | .expr e => by
    rw [Stmt.draft, Stmt.constants]
    refine e.carries.last fun value => ?_
    cases e.isStatement with
    | true => exact .pure
    | false => exact carries_node (by decide) _
  | .macroCall m => carries_macro m

theorem carries_stmts : ∀ ss : List Stmt, Carries (draftStmts ss) (constantsOfStmts ss)
  | [] => .pure
  | s :: rest => by
    rw [draftStmts, constantsOfStmts]
    exact s.carries.next fun first => (carries_stmts rest).last fun others => .pure

theorem Item.carries : ∀ i : Item, Carries i.draft i.constants
  | .function s body => by
    rw [Item.draft, Item.constants]
    exact carries_function s (carries_stmts body)
  | .structure name fields => by
    have hfield (field : String) : Carries (do
        Draft.add "AnnAssign" [("target", .node (← Draft.addName field))]) [] :=
      (carries_name field).last fun target => carries_node (by decide) _
    rw [Item.draft]
    exact (carries_mapM hfield fields).last fun body => carries_class name body
  | .enumeration name variants => by
    rw [Item.draft]
    exact (carries_mapM carries_name variants).last fun body => carries_class name body
  | .implementation ofTrait self methods => by
    rw [Item.draft, Item.constants]
    exact (carries_methods methods).last fun body => carries_class _ body
  | .module name items => by
    rw [Item.draft, Item.constants]
    exact (carries_items items).last fun body => carries_node (by decide) _
  | .binding name value => by
    rw [Item.draft, Item.constants]
    exact (carries_name name).next fun target => value.carries.last fun value => carries_assign target value
  | .use tree => carries_node (by decide) _
  | .macroCall m => carries_macro m
  | .other => carries_unsupported "item"

theorem carries_items : ∀ is : List Item, Carries (draftItems is) (constantsOfItems is)
  | [] => .pure
  | i :: rest => by
    rw [draftItems, constantsOfItems]
    exact i.carries.next fun first => (carries_items rest).last fun others => .pure

theorem Method.carries : ∀ m : Method, Carries m.draft m.constants
  | .mk s body => by
    rw [Method.draft, Method.constants]
    exact carries_function s (carries_stmts body)

theorem carries_methods : ∀ ms : List Method, Carries (draftMethods ms) (constantsOfMethods ms)
  | [] => .pure
  | m :: rest => by
    rw [draftMethods, constantsOfMethods]
    exact m.carries.next fun first => (carries_methods rest).last fun others => .pure

end

theorem constants_treeOfItems (items : List Item) :
    (treeOfItems items).constants.map Prod.snd = (constantsOfItems items).map Expr.scalar? := by
  have hmodule : Carries (do
      let body ← draftItems items
      Draft.add "Module" [("body", .list body)]) (constantsOfItems items) :=
    (carries_items items).last fun body => carries_node (by decide) _
  exact (hmodule .empty _ _ rfl).1

end SyntaxGraph.Source
